import LeakScan.Pattern.Basic

/-!
# The language of a pattern

A pattern reads a piece of a text that stands between what comes before it and what comes after
it. `Reads` says so by the shape of the pattern, without any order of preference and without
backtracking; conditions on the neighbouring character look into the text around the piece.
`mem_ends_iff` ties it to the matcher: the places that `ends` lists are exactly the ends of the
pieces that the pattern reads. `MatchesAt` is the same with the piece's offset in a whole text.
-/

namespace LeakScan
set_option autoImplicit false

/-- The place between two parts of a text. -/
def Place.between (before rest : List Char) : Place := ⟨before.length, before.getLast?, rest⟩

@[simp] theorem Place.between_offset (before rest : List Char) :
    (Place.between before rest).offset = before.length := rfl

@[simp] theorem Place.between_before (before rest : List Char) :
    (Place.between before rest).before = before.getLast? := rfl

@[simp] theorem Place.between_rest (before rest : List Char) :
    (Place.between before rest).rest = rest := rfl

namespace Pattern

/-- A run of a class with at least `least` and at most `most` characters. -/
structure IsRun (k : CharClass) (least : Nat) (most : Option Nat) (found : List Char) : Prop where
  long : least ≤ found.length
  short : ∀ m ∈ most, found.length ≤ m
  inClass : ∀ c ∈ found, k.contains c = true

/-- The pattern matches `found` where it stands between `before` and `after`. -/
def Reads : Pattern → (before found after : List Char) → Prop
  | literal text, _, found, _ => found = text
  | run k least most, _, found, _ => IsRun k least most found
  | notAfter k, before, found, _ => found = [] ∧ ∀ c ∈ before.getLast?, k.contains c = false
  | notBefore k, _, found, after => found = [] ∧ ∀ c ∈ after.head?, k.contains c = false
  | andThen p q, before, found, after =>
    ∃ u v, found = u ++ v ∧ p.Reads before u (v ++ after) ∧ q.Reads (before ++ u) v after
  | orElse p q, before, found, after => p.Reads before found after ∨ q.Reads before found after

/-- The pattern matches `found`, which stands in the text `cs` from offset `i` on. -/
def MatchesAt (p : Pattern) (cs : List Char) (i : Nat) (found : List Char) : Prop :=
  ∃ before after, cs = before ++ found ++ after ∧ before.length = i ∧ p.Reads before found after

theorem after?_eq_some_iff {text before rest : List Char} {e : Place} :
    Place.after? text (.between before rest) = some e ↔
      ∃ after, rest = text ++ after ∧ e = .between (before ++ text) after := by
  induction text generalizing before rest with
  | nil => simp [Place.after?, eq_comm]
  | cons c text ih =>
    cases rest with
    | nil => simp [Place.after?, Place.between]
    | cons d rest =>
      by_cases same : c = d
      · subst same
        have step : Place.after? (c :: text) (.between before (c :: rest)) =
            Place.after? text (.between (before ++ [c]) rest) := by
          simp [Place.after?, Place.between]
        rw [step, ih]
        simp
      · have stop : Place.after? (c :: text) (.between before (d :: rest)) = none := by
          simp [Place.after?, Place.between, same]
        rw [stop]
        simp [Ne.symm same]

theorem isRun_nil {k : CharClass} {need : Nat} {room : Option Nat} :
    IsRun k need room [] ↔ need = 0 :=
  ⟨fun h => Nat.le_zero.mp h.long, fun enough => ⟨by simp [enough], by simp, by simp⟩⟩

theorem isRun_cons {k : CharClass} {need : Nat} {room : Option Nat} {c : Char}
    {found : List Char} :
    IsRun k need room (c :: found) ↔
      (room ≠ some 0 ∧ k.contains c = true) ∧ IsRun k (need - 1) (room.map (· - 1)) found := by
  constructor
  · intro h
    have long := h.long
    simp only [List.length_cons] at long
    refine ⟨⟨?_, h.inClass c List.mem_cons_self⟩, by omega, ?_, ?_⟩
    · rintro rfl
      simpa using h.short 0 rfl
    · intro m fewer
      obtain ⟨m', rfl, rfl⟩ := Option.map_eq_some_iff.mp fewer
      have short := h.short m' rfl
      simp only [List.length_cons] at short
      omega
    · exact fun x member => h.inClass x (List.mem_cons_of_mem _ member)
  · rintro ⟨⟨room_left, inClass⟩, rest⟩
    have long := rest.long
    refine ⟨by simp only [List.length_cons]; omega, ?_, ?_⟩
    · rintro m rfl
      have short := rest.short (m - 1) rfl
      have positive : m ≠ 0 := fun zero => room_left (by rw [zero])
      simp only [List.length_cons]
      omega
    · exact fun x member => (List.mem_cons.mp member).elim (· ▸ inClass) (rest.inClass x)

/-- A run may end at `e`, while `need` characters are still needed and `room` more are allowed. -/
def RunEndsAt (k : CharClass) (need : Nat) (room : Option Nat) (before rest : List Char)
    (e : Place) : Prop :=
  ∃ found after, rest = found ++ after ∧ e = .between (before ++ found) after ∧
    IsRun k need room found

theorem runEndsAt_nil {k : CharClass} {need : Nat} {room : Option Nat} {before : List Char}
    {e : Place} : RunEndsAt k need room before [] e ↔ need = 0 ∧ e = .between before [] := by
  constructor
  · rintro ⟨found, after, split, here, isRun⟩
    obtain ⟨rfl, rfl⟩ := List.nil_eq_append_iff.mp split
    exact ⟨isRun_nil.mp isRun, by simpa using here⟩
  · rintro ⟨enough, rfl⟩
    exact ⟨[], [], rfl, by simp, isRun_nil.mpr enough⟩

theorem runEndsAt_cons {k : CharClass} {need : Nat} {room : Option Nat} {before rest : List Char}
    {c : Char} {e : Place} :
    RunEndsAt k need room before (c :: rest) e ↔
      (need = 0 ∧ e = .between before (c :: rest)) ∨
        (room ≠ some 0 ∧ k.contains c = true) ∧
          RunEndsAt k (need - 1) (room.map (· - 1)) (before ++ [c]) rest e := by
  constructor
  · rintro ⟨found, after, split, rfl, isRun⟩
    rcases List.cons_eq_append_iff.mp split with ⟨rfl, rfl⟩ | ⟨found, rfl, rfl⟩
    · exact Or.inl ⟨isRun_nil.mp isRun, by simp⟩
    · obtain ⟨goes, isRun⟩ := isRun_cons.mp isRun
      exact Or.inr ⟨goes, found, after, rfl, by simp, isRun⟩
  · rintro (⟨enough, rfl⟩ | ⟨goes, found, after, rfl, rfl, isRun⟩)
    · exact ⟨[], c :: rest, rfl, by simp, isRun_nil.mpr enough⟩
    · exact ⟨c :: found, after, rfl, by simp, isRun_cons.mpr ⟨goes, isRun⟩⟩

theorem mem_stopping {need : Nat} {before rest : List Char} {acc : List Place} {e : Place} :
    e ∈ (if need = 0 then (⟨before.length, before.getLast?, rest⟩ : Place) :: acc else acc) ↔
      e ∈ acc ∨ (need = 0 ∧ e = .between before rest) := by
  by_cases enough : need = 0 <;> simp [enough, Place.between, or_comm]

theorem mem_runEnds_iff {k : CharClass} {need : Nat} {room : Option Nat} {before rest : List Char}
    {acc : List Place} {e : Place} :
    e ∈ Place.runEnds k need room before.length before.getLast? acc rest ↔
      e ∈ acc ∨ RunEndsAt k need room before rest e := by
  induction rest generalizing need room before acc with
  | nil => rw [Place.runEnds, mem_stopping, runEndsAt_nil]
  | cons c rest ih =>
    rw [Place.runEnds, runEndsAt_cons]
    simp only [Bool.and_eq_true, bne_iff_ne]
    by_cases goes : room ≠ some 0 ∧ k.contains c = true
    · have later := fun acc => @ih (need - 1) (room.map (· - 1)) (before ++ [c]) acc
      simp only [List.length_append, List.length_singleton, List.getLast?_concat] at later
      rw [if_pos goes, later, mem_stopping, or_assoc]
      simp only [goes, ne_eq, not_false_eq_true, and_self, true_and]
    · rw [if_neg goes, mem_stopping]
      simp only [goes, false_and, or_false]

/-- What reads nothing ends where it starts. -/
theorem exists_reads_nothing {before rest : List Char} {e : Place} {P : List Char → Prop} :
    (∃ found after, rest = found ++ after ∧ e = .between (before ++ found) after ∧
      found = [] ∧ P after) ↔ e = .between before rest ∧ P rest := by
  constructor
  · rintro ⟨_, after, rfl, here, rfl, holds⟩
    exact ⟨by simpa using here, holds⟩
  · rintro ⟨here, holds⟩
    exact ⟨[], rest, rfl, by simpa using here, rfl, holds⟩

theorem mem_unless_any {k : CharClass} {neighbour : Option Char} {a e : Place} :
    e ∈ (if neighbour.any k.contains then [] else [a]) ↔
      e = a ∧ ∀ c ∈ neighbour, k.contains c = false := by
  cases neighbour with
  | none => simp
  | some c => by_cases inClass : k.contains c <;> simp [inClass]

/-- The matcher lists exactly the ends of the pieces that the pattern reads. -/
theorem mem_ends_iff {p : Pattern} {before rest : List Char} {e : Place} :
    e ∈ p.ends (.between before rest) ↔
      ∃ found after, rest = found ++ after ∧ e = .between (before ++ found) after ∧
        p.Reads before found after := by
  induction p generalizing before rest e with
  | literal text =>
    rw [ends, Option.mem_toList, after?_eq_some_iff]
    constructor
    · rintro ⟨after, rfl, rfl⟩
      exact ⟨text, after, rfl, rfl, rfl⟩
    · rintro ⟨_, after, rfl, rfl, rfl⟩
      exact ⟨after, rfl, rfl⟩
  | run k least most =>
    rw [ends, Place.between_offset, Place.between_before, Place.between_rest, mem_runEnds_iff]
    simp only [List.not_mem_nil, false_or, Reads, RunEndsAt]
  | notAfter k =>
    rw [ends, mem_unless_any, Place.between_before]
    exact (exists_reads_nothing (P := fun _ => ∀ c ∈ before.getLast?, k.contains c = false)).symm
  | notBefore k =>
    rw [ends, mem_unless_any, Place.between_rest]
    exact (exists_reads_nothing (P := fun after => ∀ c ∈ after.head?, k.contains c = false)).symm
  | andThen p q ihp ihq =>
    rw [ends, List.mem_flatMap]
    constructor
    · rintro ⟨m, hm, he⟩
      obtain ⟨u, rest', rfl, rfl, readsP⟩ := ihp.mp hm
      obtain ⟨v, after, rfl, rfl, readsQ⟩ := ihq.mp he
      exact ⟨u ++ v, after, by simp, by simp, u, v, rfl, readsP, readsQ⟩
    · rintro ⟨_, after, rfl, rfl, u, v, rfl, readsP, readsQ⟩
      refine ⟨.between (before ++ u) (v ++ after), ?_, ihq.mpr ⟨v, after, rfl, by simp, readsQ⟩⟩
      exact ihp.mpr ⟨u, v ++ after, by simp, rfl, readsP⟩
  | orElse p q ihp ihq =>
    rw [ends, List.mem_append, ihp, ihq]
    constructor
    · rintro (⟨found, after, split, here, reads⟩ | ⟨found, after, split, here, reads⟩)
      · exact ⟨found, after, split, here, Or.inl reads⟩
      · exact ⟨found, after, split, here, Or.inr reads⟩
    · rintro ⟨found, after, split, here, reads | reads⟩
      · exact Or.inl ⟨found, after, split, here, reads⟩
      · exact Or.inr ⟨found, after, split, here, reads⟩

/-- Whether a pattern matches at an offset is computed by the matcher. -/
theorem matchesAt_iff {p : Pattern} {cs : List Char} {i : Nat} {found : List Char} :
    p.MatchesAt cs i found ↔ i ≤ cs.length ∧ found <+: cs.drop i ∧
      Place.between (cs.take i ++ found) (cs.drop (i + found.length)) ∈
        p.ends (.between (cs.take i) (cs.drop i)) := by
  constructor
  · rintro ⟨before, after, rfl, rfl, reads⟩
    have text : (before ++ found ++ after).drop before.length = found ++ after := by simp
    have rest : (before ++ found ++ after).drop (before.length + found.length) = after := by
      rw [← List.length_append, List.drop_left]
    have head : (before ++ found ++ after).take before.length = before := by simp
    rw [text, rest, head]
    exact ⟨by simp, List.prefix_append _ _, mem_ends_iff.mpr ⟨found, after, rfl, rfl, reads⟩⟩
  · rintro ⟨inside, ⟨tail, text⟩, member⟩
    obtain ⟨found', after, split, here, reads⟩ := mem_ends_iff.mp member
    have offsets := congrArg Place.offset here
    simp only [Place.between_offset, List.length_append, Nat.add_left_cancel_iff] at offsets
    rw [← text] at split
    obtain ⟨rfl, rfl⟩ := List.append_inj split offsets
    refine ⟨cs.take i, tail, ?_, by simp [inside], reads⟩
    rw [List.append_assoc, text, List.take_append_drop]

instance {p : Pattern} {cs : List Char} {i : Nat} {found : List Char} :
    Decidable (p.MatchesAt cs i found) :=
  decidable_of_iff _ matchesAt_iff.symm

end Pattern
end LeakScan
