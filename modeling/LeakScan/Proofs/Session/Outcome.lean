import LeakScan.Proofs.Session.Invariant
import LeakScan.Proofs.Session.Lifetime

/-!
# The outcome of a session

The first event that ends a session says what comes of it (`Event.firstOutcome?`). Nothing after it
changes the session, so a run comes to what its events up to that one come to (`Event.untilEnd`). On
the way there, and beyond, the progress that is shown never goes back: one step does not lower it in
a session that is sound (`progress_le_step`), and every step leads from a sound session to a sound
one.
-/

namespace LeakScan.Session
set_option autoImplicit false

variable {T : Type}

/-- What a session shows once an event has ended it, if it is one that does. -/
def Event.outcome? (now : T) : Event T → Option (View T)
  | complete results totalFiles =>
    some ⟨.complete, 100, "Scan complete", .null, results, .ofResults results totalFiles,
      some now, true⟩
  | fail reason => some ⟨.failed, 100, "Scan failed: " ++ reason, .null, [], .none, some now, true⟩
  | advance .. | clock _ => none

/-- The time after an event. -/
def Event.timeAfter (now : T) : Event T → T
  | clock later => later
  | _ => now

/-- What a session shows once the first of some events has ended it. -/
def Event.firstOutcome? (now : T) : List (Event T) → Option (View T)
  | [] => none
  | e :: events => (e.outcome? now).or (firstOutcome? (e.timeAfter now) events)

/-- Some events, cut right after the first that ends a session. -/
def Event.untilEnd : List (Event T) → List (Event T)
  | [] => []
  | complete results totalFiles :: _ => [complete results totalFiles]
  | fail reason :: _ => [fail reason]
  | advance progress status file :: events => advance progress status file :: untilEnd events
  | clock later :: events => clock later :: untilEnd events

/-! ## Progress -/

variable {t : Timed T}

theorem progress_le_hundred {s : Session T} (sound : s.view.Sound) : s.progress ≤ 100 := by
  by_cases ended : s.view.Ended
  · exact (sound.ended_iff_hundred.mp ended).le
  · have high : s.progress ≤ 99 := (sound.range ended).2
    omega

/-- No event lowers the progress of a sound session. -/
theorem progress_le_step (sound : t.session.view.Sound) (e : Event T) :
    t.session.progress ≤ (t.step e).session.progress := by
  have high := progress_le_hundred sound
  obtain ⟨⟨id, kind, source, phase⟩, now⟩ := t
  cases e with
  | advance progress status file =>
    cases phase with
    | pending | running => exact le_max_left _ _
    | complete | failed => exact le_rfl
  | complete results totalFiles =>
    cases phase with
    | pending | running => exact high
    | complete | failed => exact le_rfl
  | fail reason =>
    cases phase with
    | pending | running => exact high
    | complete | failed => exact le_rfl
  | clock later => exact le_rfl

/-- What a run comes by shows no less progress than its start. -/
theorem progress_le_of_mem_scanl (sound : t.session.view.Sound) {events : List (Event T)}
    {u : Timed T} (passed : u ∈ events.scanl Timed.step t) :
    t.session.progress ≤ u.session.progress := by
  induction events generalizing t with
  | nil =>
    rw [List.scanl_nil, List.mem_singleton] at passed
    rw [passed]
  | cons e events ih =>
    rw [List.scanl_cons, List.mem_cons] at passed
    obtain rfl | later := passed
    · exact le_rfl
    · exact (progress_le_step sound e).trans (ih (sound_step sound e) later)

/-- What a run comes by, one state after another, shows progress that never goes back. -/
theorem pairwise_progress_scanl (sound : t.session.view.Sound) (events : List (Event T)) :
    (events.scanl Timed.step t).Pairwise fun earlier later =>
      earlier.session.progress ≤ later.session.progress := by
  induction events generalizing t with
  | nil => exact List.pairwise_singleton _ _
  | cons e events ih =>
    have next := sound_step sound e
    rw [List.scanl_cons, List.pairwise_cons]
    exact ⟨fun u passed => (progress_le_step sound e).trans (progress_le_of_mem_scanl next passed),
      ih next⟩

/-! ## Ends -/

theorem step_of_ended (ended : t.session.isTerminal = true) (e : Event T) :
    (t.step e).session = t.session :=
  after_of_terminal ended t.now e

theorem run_of_ended (ended : t.session.isTerminal = true) (events : List (Event T)) :
    (t.run events).session = t.session := by
  induction events generalizing t with
  | nil => rfl
  | cons e events ih =>
    have same := step_of_ended ended e
    exact (ih (same ▸ ended)).trans same

theorem isTerminal_step_complete (t : Timed T) (results : List Result) (totalFiles : Int) :
    (t.step (.complete results totalFiles)).session.isTerminal = true := by
  obtain ⟨⟨id, kind, source, phase⟩, now⟩ := t
  cases phase <;> rfl

theorem isTerminal_step_fail (t : Timed T) (reason : String) :
    (t.step (.fail reason)).session.isTerminal = true := by
  obtain ⟨⟨id, kind, source, phase⟩, now⟩ := t
  cases phase <;> rfl

/-- What comes after the first end changes nothing. -/
theorem run_take_untilEnd (t : Timed T) (events : List (Event T)) (n : Nat) :
    (t.run (events.take ((Event.untilEnd events).length + n))).session =
      (t.run (Event.untilEnd events)).session := by
  induction events generalizing t with
  | nil => rw [List.take_nil, Event.untilEnd]
  | cons e events ih =>
    cases e with
    | complete results totalFiles =>
      rw [Event.untilEnd, List.length_singleton, Nat.add_comm, List.take_succ_cons]
      exact run_of_ended (isTerminal_step_complete t results totalFiles) (events.take n)
    | fail reason =>
      rw [Event.untilEnd, List.length_singleton, Nat.add_comm, List.take_succ_cons]
      exact run_of_ended (isTerminal_step_fail t reason) (events.take n)
    | advance progress status file =>
      rw [Event.untilEnd, List.length_cons, Nat.add_right_comm, List.take_succ_cons]
      exact ih (t.step (.advance progress status file))
    | clock later =>
      rw [Event.untilEnd, List.length_cons, Nat.add_right_comm, List.take_succ_cons]
      exact ih (t.step (.clock later))

/-- An event that ends a session that goes on leaves its outcome. -/
theorem view_step_of_outcome {e : Event T} {v : View T} (going : t.session.isTerminal = false)
    (ends : e.outcome? t.now = some v) :
    (t.step e).session.view = v ∧ (t.step e).session.isTerminal = true := by
  obtain ⟨⟨id, kind, source, phase⟩, now⟩ := t
  cases e with
  | complete | fail =>
    cases phase with
    | pending | running =>
      cases ends
      exact ⟨rfl, rfl⟩
    | complete | failed => cases going
  | advance | clock => cases ends

/-- An event without an outcome ends nothing. -/
theorem isTerminal_step_of_outcome {e : Event T} (goesOn : e.outcome? t.now = none) :
    (t.step e).session.isTerminal = t.session.isTerminal := by
  obtain ⟨⟨id, kind, source, phase⟩, now⟩ := t
  cases e with
  | advance => cases phase <;> rfl
  | complete | fail => cases goesOn
  | clock => rfl

theorem now_step (t : Timed T) (e : Event T) : (t.step e).now = e.timeAfter t.now := by
  cases e <;> rfl

/-- A session that goes on ends with the first outcome, and goes on if there is none. -/
theorem firstOutcome?_eq (going : t.session.isTerminal = false) (events : List (Event T)) :
    Event.firstOutcome? t.now events =
      if (t.run events).session.isTerminal then some (t.run events).session.view else none := by
  induction events generalizing t with
  | nil =>
    show none = if t.session.isTerminal then some t.session.view else none
    rw [going]
    rfl
  | cons e events ih =>
    show _ = if ((t.step e).run events).session.isTerminal then
      some ((t.step e).run events).session.view else none
    cases first : e.outcome? t.now with
    | some v =>
      obtain ⟨shown, ended⟩ := view_step_of_outcome going first
      rw [Event.firstOutcome?, first, Option.some_or, run_of_ended ended, if_pos ended, shown]
    | none =>
      have still := (isTerminal_step_of_outcome first).trans going
      rw [Event.firstOutcome?, first, Option.none_or, ← now_step, ih still]

/-- **The first end wins, and progress never goes back.** Whatever happens to a new session, and in
whichever order: the progress that it shows from one event to the next never decreases; at any time
from its first end on it is the very session that it was right after that end; and it has ended
exactly if one of the events ends it, showing in every field what the first of these brings, at the
time of that end. -/
theorem first_end_wins (id kind source : String) (start : T) (events : List (Event T)) :
    let w : Timed T := ⟨create id kind source, start⟩
    ((events.scanl Timed.step w).Pairwise fun earlier later =>
      earlier.session.showProgress.progress ≤ later.session.showProgress.progress) ∧
    (∀ n, (w.run (events.take ((Event.untilEnd events).length + n))).session =
      (w.run (Event.untilEnd events)).session) ∧
    Event.firstOutcome? start events =
      if (w.run events).session.isTerminal then some (w.run events).session.view else none := by
  intro w
  refine ⟨?_, run_take_untilEnd w events, ?_⟩
  · exact pairwise_progress_scanl (sound_create id kind source) events
  · have going : w.session.isTerminal = false := rfl
    exact firstOutcome?_eq going events

/-- A late failure and a late announcement change nothing. -/
example :
    let w : Timed Nat := ⟨create "a" "upload" "x", 0⟩
    let events : List (Event Nat) :=
      [.advance 40 "b" .null, .advance 20 "c" .null, .clock 7, .complete [] 3, .clock 9,
        .fail "late", .advance 50 "d" .null]
    (w.run events).session = (w.run (events.take 4)).session ∧
      (w.run (events.take 2)).session.progress = 40 ∧
      (w.run events).session.finishedAt = some 7 :=
  ⟨rfl, rfl, rfl⟩

end LeakScan.Session
