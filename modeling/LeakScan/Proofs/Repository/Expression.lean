import LeakScan.Proofs.Repository.Reference
import LeakScan.Service.Request

/-!
# Expressions with groups

References to repositories can be described by two expressions. An expression is matched from left
to right: where it leaves a choice it tries one way first, and goes back to the other if what
follows fails (`first?`). A run tries to go on before it stops, a short run to stop before it goes
on, and what may be missing is looked for first; a group keeps the text that its part has matched.
Going back, a match misses no way there is (`first?_ne_none`, for the ways of `Leads`), and a short
run stops at the first place that has a way on (`exists_of_runFirst`). So a search for the long form
finds what stands in the text, a match of the short form what the text is, and both find what the
reader does (`reference_by_grammar`).
-/

namespace LeakScan
set_option autoImplicit false

/-- A place in a text on which an expression is tried: what is left of the text, and the texts of
the groups that were closed. -/
structure Cursor where
  rest : List Char
  groups : List (List Char)

/-- An expression. `atEnd` holds at the end of a text and before a newline that ends it. -/
inductive Expression where
  | literal (text : List Char)
  | run (keep : Char → Bool) (least : Nat) (short : Bool)
  | andThen (e f : Expression)
  | maybe (e : Expression)
  | group (e : Expression)
  | atEnd

namespace Expression

/-- Goes on with a run or stops it, as one of the two leads to something. -/
def runFirst {α : Type} (keep : Char → Bool) (short : Bool) (k : List Char → Option α) :
    (least : Nat) → List Char → Option α
  | least, [] => if least = 0 then k [] else none
  | least, c :: cs =>
    let stop := if least = 0 then k (c :: cs) else none
    let go := if keep c then runFirst keep short k (least - 1) cs else none
    if short then stop.or go else go.or stop

/-- What comes of the first way to match an expression from which `k` can go on. -/
def first? {α : Type} : Expression → (k : Cursor → Option α) → Cursor → Option α
  | literal text, k, c =>
    if text.isPrefixOf c.rest then k ⟨c.rest.drop text.length, c.groups⟩ else none
  | run keep least short, k, c => runFirst keep short (fun rest => k ⟨rest, c.groups⟩) least c.rest
  | andThen e f, k, c => e.first? (f.first? k) c
  | maybe e, k, c => (e.first? k c).or (k c)
  | group e, k, c =>
    e.first? (fun d =>
      k ⟨d.rest, d.groups ++ [c.rest.take (c.rest.length - d.rest.length)]⟩) c
  | atEnd, k, c => if c.rest = [] ∨ c.rest = ['\n'] then k c else none

/-- The groups of the first match at the beginning of a text. -/
def match? (e : Expression) (cs : List Char) : Option (List (List Char)) :=
  e.first? (fun c => some c.groups) ⟨cs, []⟩

/-- The groups of the first match at the first place of a text that has one. -/
def search? (e : Expression) (cs : List Char) : Option (List (List Char)) :=
  firstPlace? e.match? cs

/-- Characters up to a slash, at least one. -/
def part (short : Bool) : Expression := .run (· != '/') 1 short

/-- What may stand behind the name in the long form, up to the end of the text. -/
def ending : Expression :=
  .andThen (.maybe (.literal RepoRef.gitSuffix)) <|
  .andThen (.maybe (.andThen (.literal ['/']) (.run (· != '\n') 0 false))) .atEnd

/-- The long form of a reference. -/
def longForm : Expression :=
  .andThen (.literal RepoRef.hostMark) <| .andThen (.group (part false)) <|
  .andThen (.literal ['/']) <| .andThen (.group (part true)) ending

/-- The short form of a reference. -/
def shortForm : Expression :=
  .andThen (.group (part false)) <| .andThen (.literal ['/']) <|
  .andThen (.group (part false)) .atEnd

/-! ## Ways to match -/

/-- There is a way to match an expression that leads from one place to the other. -/
def Leads : Expression → Cursor → Cursor → Prop
  | literal text, c, d => c.rest = text ++ d.rest ∧ d.groups = c.groups
  | run keep least _, c, d => ∃ t, c.rest = t ++ d.rest ∧ least ≤ t.length ∧
    (∀ x ∈ t, keep x = true) ∧ d.groups = c.groups
  | andThen e f, c, d => ∃ m, e.Leads c m ∧ f.Leads m d
  | maybe e, c, d => e.Leads c d ∨ d = c
  | group e, c, d => ∃ m t, e.Leads c m ∧ c.rest = t ++ m.rest ∧ d = ⟨m.rest, m.groups ++ [t]⟩
  | atEnd, c, d => d = c ∧ (c.rest = [] ∨ c.rest = ['\n'])

section

variable {α : Type} {keep : Char → Bool} {short : Bool} {least : Nat} {cs rest : List Char}
  {e : Expression} {c d : Cursor} {a : α}

/-- A match goes on in the text. -/
theorem Leads.exists_split (leads : e.Leads c d) : ∃ t, c.rest = t ++ d.rest := by
  induction e generalizing c d with
  | literal text => exact ⟨text, leads.1⟩
  | run keep least short =>
    obtain ⟨t, split, -⟩ := leads
    exact ⟨t, split⟩
  | andThen e f ihe ihf =>
    obtain ⟨m, first, second⟩ := leads
    obtain ⟨t, split⟩ := ihe first
    obtain ⟨u, split'⟩ := ihf second
    exact ⟨t ++ u, by rw [split, split', List.append_assoc]⟩
  | maybe e ih =>
    rcases leads with leads | rfl
    · exact ih leads
    · exact ⟨[], rfl⟩
  | group e ih =>
    obtain ⟨m, t, -, split, rfl⟩ := leads
    exact ⟨t, split⟩
  | atEnd =>
    obtain ⟨rfl, -⟩ := leads
    exact ⟨[], rfl⟩

theorem take_length_sub (t rest : List Char) :
    (t ++ rest).take ((t ++ rest).length - rest.length) = t := by
  rw [List.length_append, Nat.add_sub_cancel, List.take_left]

/-- A run that comes to something stops at a place from which there is a way on, and a short run at
the first one. -/
theorem exists_of_runFirst {k : List Char → Option α}
    (found : runFirst keep short k least cs = some a) :
    ∃ t u, cs = t ++ u ∧ least ≤ t.length ∧ (∀ x ∈ t, keep x = true) ∧ k u = some a ∧
      (short = true → ∀ t' u', cs = t' ++ u' → least ≤ t'.length → k u' ≠ none →
        t.length ≤ t'.length) := by
  induction cs generalizing least with
  | nil =>
    rw [runFirst] at found
    split at found
    · rename_i enough
      exact ⟨[], [], rfl, Nat.le_of_eq enough, nofun, found, fun _ _ _ _ _ _ => Nat.zero_le _⟩
    · cases found
  | cons c cs ih =>
    -- Either the run stops here, or it goes on and a short run had no way on from here.
    have step : (least = 0 ∧ k (c :: cs) = some a) ∨
        (keep c = true ∧ runFirst keep short k (least - 1) cs = some a ∧
          (short = true → least = 0 → k (c :: cs) = none)) := by
      rw [runFirst] at found
      cases short with
      | true =>
        simp only [if_true, Option.or_eq_some_iff, Option.ite_none_right_eq_some] at found
        rcases found with stop | ⟨silent, goes, go⟩
        · exact Or.inl stop
        · exact Or.inr ⟨goes, go, fun _ enough => by rwa [if_pos enough] at silent⟩
      | false =>
        simp only [Bool.false_eq_true, if_false, Option.or_eq_some_iff,
          Option.ite_none_right_eq_some] at found
        rcases found with ⟨goes, go⟩ | ⟨-, stop⟩
        · exact Or.inr ⟨goes, go, nofun⟩
        · exact Or.inl stop
    rcases step with ⟨rfl, stop⟩ | ⟨goes, go, silent⟩
    · exact ⟨[], c :: cs, rfl, Nat.le_refl _, nofun, stop, fun _ _ _ _ _ _ => Nat.zero_le _⟩
    · obtain ⟨t, u, rfl, long, inside, reaches, first⟩ := ih go
      refine ⟨c :: t, u, rfl, by simp only [List.length_cons]; omega,
        List.forall_mem_cons.mpr ⟨goes, inside⟩, reaches, ?_⟩
      intro isShort t' u' split long' onward
      rcases List.cons_eq_append_iff.mp split with ⟨rfl, rfl⟩ | ⟨t', rfl, split'⟩
      · exact absurd (silent isShort (Nat.le_zero.mp long')) onward
      · have longer : least - 1 ≤ t'.length := by
          simp only [List.length_cons] at long'
          omega
        have le := first isShort t' u' split' longer onward
        exact Nat.succ_le_succ le

/-- What a match comes to, it comes to at the end of a way. -/
theorem exists_of_first? {k : Cursor → Option α} (found : e.first? k c = some a) :
    ∃ d, e.Leads c d ∧ k d = some a := by
  induction e generalizing k c with
  | literal text =>
    obtain ⟨stands, reaches⟩ := Option.ite_none_right_eq_some.mp found
    obtain ⟨rest, split⟩ := List.isPrefixOf_iff_prefix.mp stands
    rw [← split, List.drop_left] at reaches
    exact ⟨⟨rest, c.groups⟩, ⟨split.symm, rfl⟩, reaches⟩
  | run keep least short =>
    obtain ⟨t, u, split, long, inside, reaches, -⟩ := exists_of_runFirst found
    exact ⟨⟨u, c.groups⟩, ⟨t, split, long, inside, rfl⟩, reaches⟩
  | andThen e f ihe ihf =>
    obtain ⟨m, first, found'⟩ := ihe found
    obtain ⟨d, second, reaches⟩ := ihf found'
    exact ⟨d, ⟨m, first, second⟩, reaches⟩
  | maybe e ih =>
    rcases Option.or_eq_some_iff.mp found with there | ⟨-, missing⟩
    · obtain ⟨d, leads, reaches⟩ := ih there
      exact ⟨d, Or.inl leads, reaches⟩
    · exact ⟨c, Or.inr rfl, missing⟩
  | group e ih =>
    obtain ⟨m, leads, reaches⟩ := ih found
    obtain ⟨t, split⟩ := leads.exists_split
    rw [split, take_length_sub] at reaches
    exact ⟨_, ⟨m, t, leads, split, rfl⟩, reaches⟩
  | atEnd =>
    obtain ⟨ended, reaches⟩ := Option.ite_none_right_eq_some.mp found
    exact ⟨c, ⟨rfl, ended⟩, reaches⟩

/-- A run misses no place from which there is a way on. -/
theorem runFirst_ne_none {k : List Char → Option α} {t : List Char}
    (inside : ∀ x ∈ t, keep x = true) (long : least ≤ t.length) (onward : k rest ≠ none) :
    runFirst keep short k least (t ++ rest) ≠ none := by
  induction t generalizing least with
  | nil =>
    obtain rfl : least = 0 := Nat.le_zero.mp long
    cases rest with
    | nil => simpa [runFirst] using onward
    | cons c rest => cases short <;> simp [runFirst, onward]
  | cons c t ih =>
    have go := @ih (least - 1) (fun x member => inside x (List.mem_cons_of_mem c member))
      (by simp only [List.length_cons] at long; omega)
    rw [List.cons_append, runFirst, if_pos (inside c List.mem_cons_self)]
    cases short <;> simp [go]

/-- **Going back misses no way.** -/
theorem first?_ne_none {k : Cursor → Option α} (leads : e.Leads c d) (onward : k d ≠ none) :
    e.first? k c ≠ none := by
  induction e generalizing k c d with
  | literal text =>
    obtain ⟨split, groups⟩ := leads
    rw [first?, if_pos (List.isPrefixOf_iff_prefix.mpr (split ▸ List.prefix_append _ _)), split,
      List.drop_left, ← groups]
    exact onward
  | run keep least short =>
    obtain ⟨t, split, long, inside, groups⟩ := leads
    rw [first?, split]
    refine runFirst_ne_none inside long ?_
    rwa [← groups]
  | andThen e f ihe ihf =>
    obtain ⟨m, first, second⟩ := leads
    exact ihe first (ihf second onward)
  | maybe e ih =>
    intro silent
    obtain ⟨there, missing⟩ := Option.or_eq_none_iff.mp silent
    rcases leads with leads | rfl
    · exact ih leads onward there
    · exact onward missing
  | group e ih =>
    obtain ⟨m, t, leads, split, rfl⟩ := leads
    refine ih leads ?_
    rwa [split, take_length_sub]
  | atEnd =>
    obtain ⟨rfl, ended⟩ := leads
    rwa [first?, if_pos ended]

end

/-! ## The two forms -/

/-- The text does not end in a newline. -/
def Unended (cs : List Char) : Prop := '\n' ∉ cs.getLast?

section

variable {owner segment rest name cs u : List Char} {groups found : List (List Char)} {d : Cursor}

theorem Unended.of_append {t : List Char} (unended : Unended (t ++ cs)) : Unended cs := by
  intro last
  apply unended
  rw [List.getLast?_append, Option.mem_def.mp last]
  rfl

/-- At the end of a text that does not end in a newline nothing is left. -/
theorem Unended.eq_nil (unended : Unended cs) (ended : cs = [] ∨ cs = ['\n']) : cs = [] := by
  rcases ended with rfl | rfl
  · rfl
  · exact absurd rfl unended

/-- What stands behind the name: a `.git` or nothing, and then a rest. -/
theorem leads_ending (suffix : u = [] ∨ u = RepoRef.gitSuffix) (isRest : RepoRef.IsRest rest) :
    ending.Leads ⟨u ++ rest, groups⟩ ⟨[], groups⟩ := by
  have git : (maybe (literal RepoRef.gitSuffix)).Leads ⟨u ++ rest, groups⟩ ⟨rest, groups⟩ := by
    rcases suffix with rfl | rfl
    · exact Or.inr rfl
    · exact Or.inl ⟨rfl, rfl⟩
  have line : (maybe (andThen (literal ['/']) (run (· != '\n') 0 false))).Leads ⟨rest, groups⟩
      ⟨[], groups⟩ := by
    rcases isRest with rfl | ⟨line, rfl, unbroken⟩
    · exact Or.inr rfl
    · exact Or.inl ⟨⟨line, groups⟩, ⟨rfl, rfl⟩, line, by simp, Nat.zero_le _,
        RepoRef.notMem_iff_forall_bne.mp unbroken, rfl⟩
  exact ⟨_, git, _, line, rfl, Or.inl rfl⟩

theorem exists_of_leads_ending (unended : Unended u)
    (leads : ending.Leads ⟨u, groups⟩ d) :
    d.groups = groups ∧ ∃ suffix rest, u = suffix ++ rest ∧
      (suffix = [] ∨ suffix = RepoRef.gitSuffix) ∧ RepoRef.IsRest rest := by
  obtain ⟨m, git, m', line, rfl, ended⟩ := leads
  obtain ⟨suffix, split, isSuffix, groups'⟩ : ∃ suffix, u = suffix ++ m.rest ∧
      (suffix = [] ∨ suffix = RepoRef.gitSuffix) ∧ m.groups = groups := by
    rcases git with ⟨split, groups'⟩ | rfl
    · exact ⟨_, split, Or.inr rfl, groups'⟩
    · exact ⟨[], rfl, Or.inl rfl, rfl⟩
  have unended' : Unended m.rest := (split ▸ unended).of_append
  rcases line with ⟨n, ⟨slash, groups₁⟩, t, rest, -, inside, groups₂⟩ | rfl
  · have nothing : d.rest = [] := by
      rw [slash, rest] at unended'
      exact (unended'.of_append (t := ['/'])).of_append.eq_nil ended
    refine ⟨groups₂.trans (groups₁.trans groups'), suffix, m.rest, split, isSuffix,
      Or.inr ⟨t, ?_, RepoRef.notMem_iff_forall_bne.mpr inside⟩⟩
    rw [slash, rest, nothing, List.append_nil]
    rfl
  · exact ⟨groups', suffix, d.rest, split, isSuffix, Or.inl (unended'.eq_nil ended)⟩

theorem leads_part (isPart : RepoRef.IsPart owner) (short : Bool) :
    (group (part short)).Leads ⟨owner ++ rest, groups⟩ ⟨rest, groups ++ [owner]⟩ := by
  refine ⟨⟨rest, groups⟩, owner, ?_, rfl, rfl⟩
  exact ⟨owner, rfl, List.length_pos_iff.mpr isPart.1,
    RepoRef.notMem_iff_forall_bne.mp isPart.2, rfl⟩

theorem isPart_of_inside (long : 1 ≤ owner.length) (inside : ∀ x ∈ owner, (x != '/') = true) :
    RepoRef.IsPart owner :=
  ⟨List.length_pos_iff.mp long, RepoRef.notMem_iff_forall_bne.mpr inside⟩

theorem exists_of_leads_part {short : Bool} (leads : (group (part short)).Leads ⟨cs, groups⟩ d) :
    ∃ owner, cs = owner ++ d.rest ∧ RepoRef.IsPart owner ∧ d.groups = groups ++ [owner] := by
  obtain ⟨m, t, ⟨t', split, long, inside, groups'⟩, split', rfl⟩ := leads
  obtain rfl : t = t' := List.append_cancel_right (split'.symm.trans split)
  exact ⟨t, split, isPart_of_inside long inside, by rw [groups']⟩

/-- A long reference is matched by the long form. -/
theorem match?_longForm_ne_none (isLong : RepoRef.IsLong cs owner segment rest) :
    longForm.match? cs ≠ none := by
  obtain ⟨rfl, isOwner, isSegment, isRest⟩ := isLong
  have leads : longForm.Leads
      ⟨RepoRef.hostMark ++ (owner ++ '/' :: (segment ++ rest)), []⟩ ⟨[], [owner, segment]⟩ :=
    ⟨⟨owner ++ '/' :: (segment ++ rest), []⟩, ⟨rfl, rfl⟩, _, leads_part isOwner false,
      ⟨segment ++ rest, [owner]⟩, ⟨rfl, rfl⟩, _, leads_part isSegment true,
      leads_ending (u := []) (Or.inl rfl) isRest⟩
  exact first?_ne_none leads nofun

/-- The name is the shortest part behind which the ending leads to the end of the text. So it is
the segment, or what stands before a final `.git` of the segment. -/
theorem exists_of_name (unended : Unended cs)
    (found' : (andThen (group (part true)) ending).first? (fun c => some c.groups) ⟨cs, groups⟩ =
      some found) :
    ∃ segment rest name, cs = segment ++ rest ∧ RepoRef.IsPart segment ∧ RepoRef.IsRest rest ∧
      RepoRef.IsNameOf name segment ∧ found = groups ++ [name] := by
  obtain ⟨name, u, rfl, long, inside, found₁, shortest⟩ := exists_of_runFirst found'
  obtain ⟨d, leads, reaches⟩ := exists_of_first? (e := ending) found₁
  obtain ⟨groups', suffix, rest, rfl, isSuffix, isRest⟩ :=
    exists_of_leads_ending unended.of_append leads
  have isName := isPart_of_inside long inside
  have unbroken : '/' ∉ suffix := by
    rcases isSuffix with rfl | rfl
    · exact List.not_mem_nil
    · decide
  refine ⟨name ++ suffix, rest, name, (List.append_assoc name suffix rest).symm,
    ⟨List.append_ne_nil_of_left_ne_nil isName.1 suffix, ?_⟩, isRest, ?_, ?_⟩
  · rw [List.mem_append, not_or]
    exact ⟨isName.2, unbroken⟩
  · rcases isSuffix with rfl | rfl
    · refine Or.inr ⟨List.append_nil name, fun shorter ends => ?_⟩
      rw [List.append_nil] at ends
      -- Otherwise the run would have stopped before the `.git`.
      cases shorter with
      | nil => rfl
      | cons c shorter =>
        have le := shortest rfl (c :: shorter) (RepoRef.gitSuffix ++ rest)
          (by rw [ends, List.nil_append, List.append_assoc]) (Nat.succ_pos _)
          (first?_ne_none (leads_ending (Or.inr rfl) isRest) nofun)
        rw [ends, List.length_append] at le
        exact absurd le (by simp [RepoRef.gitSuffix])
    · exact Or.inl ⟨rfl, isName.1⟩
  · rw [← Option.some.inj reaches, groups']
    simp only [take_length_sub]

/-- What the long form matches is a long reference, and its groups are the owner and the name. -/
theorem exists_of_match?_longForm (unended : Unended cs)
    (found' : longForm.match? cs = some found) :
    ∃ owner segment rest name, RepoRef.IsLong cs owner segment rest ∧
      RepoRef.IsNameOf name segment ∧ found = [owner, name] := by
  obtain ⟨⟨owned, groups₁⟩, ⟨mark, rfl⟩, found₁⟩ :=
    exists_of_first? (e := literal RepoRef.hostMark) found'
  obtain ⟨⟨slashed, groups₂⟩, leads₂, found₂⟩ := exists_of_first? (e := group (part false)) found₁
  obtain ⟨owner, rfl, isOwner, rfl⟩ := exists_of_leads_part leads₂
  obtain ⟨⟨named, groups₃⟩, ⟨slash, rfl⟩, found₃⟩ := exists_of_first? (e := literal ['/']) found₂
  obtain rfl : cs = RepoRef.hostMark ++ (owner ++ '/' :: named) := by
    rw [show slashed = '/' :: named from slash] at mark
    exact mark
  have unended' : Unended named :=
    (unended.of_append.of_append (t := owner)).of_append (t := ['/'])
  obtain ⟨segment, rest, name, rfl, isSegment, isRest, isName, rfl⟩ :=
    exists_of_name unended' found₃
  exact ⟨owner, segment, rest, name, ⟨rfl, isOwner, isSegment, isRest⟩, isName, rfl⟩

/-- A short reference is matched by the short form. -/
theorem match?_shortForm_ne_none (isShort : RepoRef.IsShort cs owner name) :
    shortForm.match? cs ≠ none := by
  obtain ⟨rfl, isOwner, isName⟩ := isShort
  have ended : (group (part false)).Leads ⟨name ++ [], [owner]⟩ ⟨[], [owner, name]⟩ :=
    leads_part isName false
  rw [List.append_nil] at ended
  have leads : shortForm.Leads ⟨owner ++ '/' :: name, []⟩ ⟨[], [owner, name]⟩ :=
    ⟨_, leads_part isOwner false, ⟨name, [owner]⟩, ⟨rfl, rfl⟩, _, ended, rfl, Or.inl rfl⟩
  exact first?_ne_none leads nofun

/-- What the short form matches is a short reference, and its groups are the owner and the name. -/
theorem exists_of_match?_shortForm (unended : Unended cs)
    (found' : shortForm.match? cs = some found) :
    ∃ owner name, RepoRef.IsShort cs owner name ∧ found = [owner, name] := by
  obtain ⟨d, leads, reaches⟩ := exists_of_first? found'
  obtain ⟨⟨slashed, groups₁⟩, leads₁, ⟨named, groups₂⟩, ⟨slash, rfl⟩, ⟨left, groups₃⟩, leads₃, rfl,
    ended⟩ := leads
  obtain ⟨owner, rfl, isOwner, rfl⟩ := exists_of_leads_part leads₁
  obtain ⟨name, rfl, isName, rfl⟩ := exists_of_leads_part leads₃
  obtain rfl : slashed = '/' :: (name ++ left) := slash
  have unended' : Unended left :=
    (unended.of_append.of_append (t := ['/'])).of_append (t := name)
  obtain rfl : left = [] := unended'.eq_nil ended
  rw [List.append_nil] at *
  exact ⟨owner, name, ⟨rfl, isOwner, isName⟩, (Option.some.inj reaches).symm⟩

/-- The repository that two groups name. -/
def repoOf (groups : List (List Char)) : RepoRef :=
  ⟨String.ofList (groups.getD 0 []), String.ofList (groups.getD 1 [])⟩

theorem match?_longForm_map (unended : Unended cs) :
    (longForm.match? cs).map repoOf = RepoRef.longHere? cs := by
  cases matched : longForm.match? cs with
  | none =>
    refine (RepoRef.longHere?_eq_none_iff.mpr ?_).symm
    intro owner segment rest isLong
    exact match?_longForm_ne_none isLong matched
  | some found =>
    obtain ⟨owner, segment, rest, name, isLong, isName, rfl⟩ :=
      exists_of_match?_longForm unended matched
    exact (RepoRef.longHere?_eq_some_iff.mpr
      ⟨owner, segment, rest, name, isLong, isName, rfl⟩).symm

theorem match?_shortForm_map (unended : Unended cs) :
    (shortForm.match? cs).map repoOf = RepoRef.short? cs := by
  cases matched : shortForm.match? cs with
  | none =>
    refine (RepoRef.short?_eq_none_iff.mpr ?_).symm
    intro owner name isShort
    exact match?_shortForm_ne_none isShort matched
  | some found =>
    obtain ⟨owner, name, isShort, rfl⟩ := exists_of_match?_shortForm unended matched
    exact (RepoRef.short?_eq_some_iff.mpr ⟨owner, name, isShort, rfl⟩).symm

/-- No newline is left at the end of a text when its blanks are dropped. -/
theorem unended_strip (cs : List Char) : Unended (Text.strip cs) := by
  intro last
  have blank := (Text.surrounds_strip cs).last '\n' last
  exact absurd blank (by decide)

/-- **The reader finds what the two forms match.** -/
theorem ofText?_eq_matched (u : String) :
    RepoRef.ofText? u = ((longForm.search? (Text.strip u.toList)).or
      (shortForm.match? (Text.strip u.toList))).map repoOf := by
  have unended := unended_strip u.toList
  rw [RepoRef.ofText?, ← match?_shortForm_map unended]
  generalize Text.strip u.toList = cs at *
  have long : RepoRef.long? cs = (longForm.search? cs).map repoOf := by
    rw [RepoRef.long?_eq, search?]
    apply firstPlace?_map
    rintro before rest rfl
    exact (match?_longForm_map unended.of_append).symm
  rw [long]
  cases longForm.search? cs <;> rfl

end

end Expression

/-- A request names no repository if its text names none. -/
theorem Task.ofRequest_eq_notARepository_iff (limit : Int) (u : Text.Loose)
    (maxFiles : Option Int) :
    Task.ofRequest limit (.repository u maxFiles) = .error (.notARepository u) ↔
      RepoRef.ofText? u.repaired = none := by
  rw [Task.ofRequest]
  cases RepoRef.ofText? u.repaired with
  | none => simp
  | some repo =>
    cases maxFiles with
    | none => simp [Task.capOf]
    | some n => by_cases allowed : 1 ≤ n ∧ n ≤ limit <;> simp [Task.capOf, allowed]

/-- **A reference is read by its grammar.** With the blanks around it dropped, a text refers to the
first long reference in it, else to the short reference that it is, else to nothing; it is what the
two forms match. A text that refers to nothing is rejected as it was given. -/
theorem reference_by_grammar (u : Text.Loose) :
    ∃ c, Text.Surrounds u.repaired.toList c ∧
      (∀ found, RepoRef.ofText? u.repaired = found ↔ RepoRef.Denotes c found) ∧
      RepoRef.ofText? u.repaired = ((Expression.longForm.search? c).or
        (Expression.shortForm.match? c)).map Expression.repoOf ∧
      (∀ limit maxFiles, Task.ofRequest limit (.repository u maxFiles) =
        .error (.notARepository u) ↔ RepoRef.Denotes c none) ∧
      (Rejection.notARepository u).message = "Invalid GitHub repository URL: " ++ u.quoted ∧
      ∀ r, RepoRef.ofText? u.repaired = some r →
        RepoRef.IsPart r.owner.toList ∧ RepoRef.IsPart r.name.toList := by
  have denotes (found : Option RepoRef) : RepoRef.ofText? u.repaired = found ↔
      RepoRef.Denotes (Text.strip u.repaired.toList) found := RepoRef.ofText?_eq_iff
  refine ⟨Text.strip u.repaired.toList, Text.surrounds_strip _, denotes,
    Expression.ofText?_eq_matched u.repaired, ?_, rfl, ?_⟩
  · intro limit maxFiles
    exact (Task.ofRequest_eq_notARepository_iff limit u maxFiles).trans (denotes none)
  · intro r reads
    exact ((denotes (some r)).mp reads).isPart

/-- A long reference at the end of a text is found behind one that its line breaks off. -/
theorem reference_by_grammar_second_line :
    RepoRef.ofText? " github.com/a/b/c\nsee github.com/o/r.git\n" = some ⟨"o", "r"⟩ ∧
      RepoRef.IsPart "o".toList ∧ RepoRef.IsPart "r".toList := by
  have reads : RepoRef.ofText? " github.com/a/b/c\nsee github.com/o/r.git\n" = some ⟨"o", "r"⟩ := by
    decide +kernel
  obtain ⟨c, -, -, -, -, -, parts⟩ :=
    reference_by_grammar (.whole " github.com/a/b/c\nsee github.com/o/r.git\n")
  exact ⟨reads, parts _ reads⟩

end LeakScan
