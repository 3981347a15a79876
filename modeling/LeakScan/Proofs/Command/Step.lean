import LeakScan.Command.Run
import LeakScan.Proofs.Console.Markup
import LeakScan.Proofs.Number.Numeral

/-!
# Steps of a run

What the steps of a run come to, messages, logs and requests apart. A step gives a value and adds a
text to the output (`Act.Gives`), or it ends the run with an exit code (`Act.Stops`); neither is a
fault. What the whole run ends with (`Act.Ends`) comes of the last step that is done
(`Gives.bind_ends`, `Stops.bind`). To say something adds nothing to the output and goes on if its
markup can be shown (`gives_say`), as that of messages about numbers of files and findings can.
-/

namespace LeakScan.Command
set_option autoImplicit false

namespace Act

variable {α β : Type} {a : Act α} {x : α} {y : β} {added later : String} {code : Nat}

/-- A step goes on with a value and adds a text to the output. -/
def Gives (a : Act α) (x : α) (added : String) : Prop :=
  ∀ e : Effects, ∃ e' : Effects, a.run e = (.ok x, e') ∧ e'.output = e.output ++ added

/-- A step ends a run with an exit code, after adding a text to the output. -/
def Stops (a : Act α) (code : Nat) (added : String) : Prop :=
  ∀ e : Effects, ∃ e' : Effects, a.run e = (.error (.exit code), e') ∧
    e'.output = e.output ++ added

/-- A run of a step ends with an exit code, without a fault, after adding a text to the output. -/
def Ends (a : Act Unit) (code : Nat) (added : String) : Prop :=
  ∀ e : Effects, ∃ e' : Effects, Outcome.ofAct a e = ⟨code, none, e'⟩ ∧
    e'.output = e.output ++ added

theorem run_bind (a : Act α) (f : α → Act β) (e : Effects) :
    (a >>= f).run e =
      match a.run e with
      | (.ok x, e') => (f x).run e'
      | (.error stop, e') => (.error stop, e') := by
  rw [ExceptT.run_bind]
  show StateT.run _ e = _
  rw [StateT.run_bind]
  show ((a.run e) >>= _) = _
  obtain ⟨result, e'⟩ := a.run e
  cases result <;> rfl

namespace Gives

theorem pure (x : α) : Gives (Pure.pure x) x "" :=
  fun e => ⟨e, rfl, String.append_empty.symm⟩

theorem bind {f : α → Act β} (first : Gives a x added) (rest : Gives (f x) y later) :
    Gives (a >>= f) y (added ++ later) := by
  intro e
  obtain ⟨e', run, output⟩ := first e
  obtain ⟨e'', run', output'⟩ := rest e'
  refine ⟨e'', by simpa only [run_bind, run] using run', ?_⟩
  rw [output', output, String.append_assoc]

/-- A step that adds nothing may stand before another. -/
theorem bind_of_silent {f : α → Act β} (first : Gives a x "") (rest : Gives (f x) y later) :
    Gives (a >>= f) y later := by
  simpa using first.bind rest

theorem bind_stops {f : α → Act β} (first : Gives a x "") (rest : Stops (f x) code later) :
    Stops (a >>= f) code later := by
  intro e
  obtain ⟨e', run, output⟩ := first e
  obtain ⟨e'', run', output'⟩ := rest e'
  refine ⟨e'', by simpa only [run_bind, run] using run', ?_⟩
  rw [output', output, String.append_empty]

theorem bind_ends {f : α → Act Unit} (first : Gives a x added) (rest : Ends (f x) code later) :
    Ends (a >>= f) code (added ++ later) := by
  intro e
  obtain ⟨e', run, output⟩ := first e
  obtain ⟨e'', run', output'⟩ := rest e'
  have same : Outcome.ofAct (a >>= f) e = Outcome.ofAct (f x) e' := by
    simp only [Outcome.ofAct, run_bind, run]
  refine ⟨e'', same.trans run', ?_⟩
  rw [output', output, String.append_assoc]

theorem bind_ends_of_silent {f : α → Act Unit} (first : Gives a x "")
    (rest : Ends (f x) code later) : Ends (a >>= f) code later := by
  simpa using first.bind_ends rest

end Gives

/-- What stands after the end of a run is not done. -/
theorem Stops.bind (stops : Stops a code added) (f : α → Act β) : Stops (a >>= f) code added := by
  intro e
  obtain ⟨e', run, output⟩ := stops e
  exact ⟨e', by rw [run_bind, run], output⟩

theorem stops_exit (code : Nat) : Stops (exit code : Act α) code "" :=
  fun e => ⟨e, rfl, String.append_empty.symm⟩

/-- A run that goes on to its last step ends with code 0. -/
theorem Gives.ends {a : Act Unit} (gives : Gives a () added) : Ends a 0 added := by
  intro e
  obtain ⟨e', run, output⟩ := gives e
  exact ⟨e', by rw [Outcome.ofAct, run], output⟩

theorem Stops.ends {a : Act Unit} (stops : Stops a code added) : Ends a code added := by
  intro e
  obtain ⟨e', run, output⟩ := stops e
  exact ⟨e', by rw [Outcome.ofAct, run], output⟩

theorem gives_write (m : Surroundings) (s : String) :
    Gives (write m s) () (echoed m.onTerminal s) :=
  fun _ => ⟨_, rfl, rfl⟩

theorem gives_modify {f : Effects → Effects} (keeps : ∀ e, (f e).output = e.output) :
    Gives (modify f) () "" :=
  fun e => ⟨f e, rfl, (keeps e).trans String.append_empty.symm⟩

theorem gives_log (lines : List String) : Gives (log lines) () "" :=
  gives_modify fun _ => rfl

theorem gives_answered (x : α) : Gives (answered (.ok x)) x "" := .pure x

theorem gives_say {markup : String} {cs : List Char} (shows : Markup.shown markup = .ok cs) :
    Gives (say markup) () "" := by
  have shown : Gives (shown markup) cs "" := by
    rw [Act.shown, shows]
    exact .pure cs
  exact shown.bind_of_silent (gives_modify fun _ => rfl)

end Act

/-! ## Messages -/

open Markup (Part isPlain isStyleWord_bold isStyleWord_cyan isStyleWord_red exists_shown_parts)

theorem toList_styled (style s : String) :
    (styled style s).toList = (Part.styled style.toList s.toList).text := by
  simp [styled, Part.text]

theorem isPlain_ofInt (i : Int) : (Numeral.ofInt i).toList.all isPlain = true := by
  refine List.all_eq_true.mpr fun c member => ?_
  obtain rfl | digit := Numeral.eq_minus_or_isDigit_of_mem_ofInt member
  · decide
  · have bracket : c ≠ '[' := by
      rintro rfl
      cases digit
    have slash : c ≠ '\\' := by
      rintro rfl
      cases digit
    simp [isPlain, bracket, slash]

/-- What is said at the start of a scan of files can be shown. -/
theorem exists_shown_opening (n : Nat) :
    ∃ cs, Markup.shown (opening (styled "cyan" (Numeral.ofInt n) ++ " file(s)")) = .ok cs := by
  refine exists_shown_parts [.styled "bold".toList program.toList, .plain " scanning ".toList,
    .styled "cyan".toList (Numeral.ofInt n).toList, .plain " file(s)\n".toList] ?_ ?_
  · simp only [List.forall_mem_cons, List.not_mem_nil, false_imp_iff, implies_true, and_true]
    exact ⟨.styled isStyleWord_bold (by decide), .plain (by decide +kernel),
      .styled isStyleWord_cyan (isPlain_ofInt n), .plain (by decide +kernel)⟩
  · simp [opening, toList_styled, Part.text]

/-- What is said of critical findings can be shown. -/
theorem exists_shown_critical (n : Nat) :
    ∃ cs, Markup.shown ("\n" ++ styled "red" (Numeral.ofInt n ++ " critical finding(s)")) =
      .ok cs := by
  refine exists_shown_parts [.plain "\n".toList,
    .styled "red".toList (Numeral.ofInt n ++ " critical finding(s)").toList] ?_ ?_
  · simp only [List.forall_mem_cons, List.not_mem_nil, false_imp_iff, implies_true, and_true]
    refine ⟨.plain (by decide +kernel), .styled isStyleWord_red ?_⟩
    rw [String.toList_append, List.all_append, isPlain_ofInt]
    decide +kernel
  · simp [toList_styled, Part.text]

/-- What is said when there is nothing to scan can be shown. -/
theorem exists_shown_noFiles :
    ∃ cs, Markup.shown (styled "red" Rejection.noFiles.message) = .ok cs := by
  refine exists_shown_parts [.styled "red".toList Rejection.noFiles.message.toList] ?_ ?_
  · simp only [List.forall_mem_cons, List.not_mem_nil, false_imp_iff, implies_true, and_true]
    exact .styled isStyleWord_red (by decide +kernel)
  · simp [toList_styled]

end LeakScan.Command
