import LeakScan.Pattern.Search
import LeakScan.Proofs.Pattern.Language

/-!
# What a search finds

A search reports matches of its pattern only (`matchesAt_of_mem_occurrencesFrom`), from left to
right and apart from each other (`pairwise_occurrences`). It misses none in this sense: where a
match starts, some reported occurrence reaches (`exists_occurrence_over`). The match itself may go
unreported, because an occurrence that started earlier has taken up the place. The last statement
needs a pattern that never matches the empty text; `least` bounds the length of a match from below
and is computed.
-/

namespace LeakScan.Pattern
set_option autoImplicit false

variable {p : Pattern} {before rest : List Char} {e : Place}

/-- The least length of a match. -/
def least : Pattern → Nat
  | literal text => text.length
  | run _ least _ => least
  | notAfter _ => 0
  | notBefore _ => 0
  | andThen p q => p.least + q.least
  | orElse p q => min p.least q.least

theorem Reads.least_le {before found after : List Char} (reads : p.Reads before found after) :
    p.least ≤ found.length := by
  induction p generalizing before found after with
  | literal text => exact Nat.le_of_eq (congrArg List.length reads).symm
  | run k low most => exact IsRun.long reads
  | notAfter k => exact Nat.zero_le _
  | notBefore k => exact Nat.zero_le _
  | andThen p q ihp ihq =>
    obtain ⟨u, v, rfl, readsP, readsQ⟩ := reads
    have lowP := ihp readsP
    have lowQ := ihq readsQ
    simp only [least, List.length_append]
    omega
  | orElse p q ihp ihq =>
    simp only [least]
    rcases reads with readsP | readsQ
    · have := ihp readsP
      omega
    · have := ihq readsQ
      omega

theorem match?_eq_some (h : p.match? (.between before rest) = some e) :
    ∃ found after, rest = found ++ after ∧ e = .between (before ++ found) after ∧
      p.Reads before found after :=
  mem_ends_iff.mp (List.mem_of_mem_head? h)

theorem match?_eq_none (h : p.match? (.between before rest) = none) (found after : List Char)
    (split : rest = found ++ after) : ¬ p.Reads before found after := by
  intro reads
  have member := mem_ends_iff.mpr ⟨found, after, split, rfl, reads⟩
  rw [List.head?_eq_none_iff.mp h] at member
  exact List.not_mem_nil member

/-! ## One step of a search

The text before the place at hand is kept whole, so that offsets and the character before are
read off it. -/

theorem occurrencesFrom_skip (skip : Nat) (c : Char) :
    p.occurrencesFrom before.length before.getLast? (skip + 1) (c :: rest) =
      p.occurrencesFrom (before ++ [c]).length (before ++ [c]).getLast? skip rest := by
  simp [occurrencesFrom]

theorem occurrencesFrom_none (c : Char) (h : p.match? (.between before (c :: rest)) = none) :
    p.occurrencesFrom before.length before.getLast? 0 (c :: rest) =
      p.occurrencesFrom (before ++ [c]).length (before ++ [c]).getLast? 0 rest := by
  unfold Place.between at h
  simp [occurrencesFrom, h]

theorem occurrencesFrom_some (c : Char) (found after : List Char)
    (split : c :: rest = found ++ after)
    (h : p.match? (.between before (c :: rest)) = some (.between (before ++ found) after)) :
    p.occurrencesFrom before.length before.getLast? 0 (c :: rest) =
      ⟨before.length, found⟩ ::
        p.occurrencesFrom (before ++ [c]).length (before ++ [c]).getLast? (found.length - 1)
          rest := by
  unfold Place.between at h
  rw [occurrencesFrom, h]
  simp only [split, List.length_append, Nat.add_sub_cancel_left, List.take_left,
    List.length_singleton, List.getLast?_concat]

/-! ## What is found -/

/-- An occurrence that a search reports is a match, and it starts after what was skipped. -/
theorem matchesAt_of_mem_occurrencesFrom {skip : Nat} {o : Occurrence}
    (h : o ∈ p.occurrencesFrom before.length before.getLast? skip rest) :
    p.MatchesAt (before ++ rest) o.start o.text ∧ before.length + skip ≤ o.start := by
  induction rest generalizing before skip with
  | nil => simp [occurrencesFrom] at h
  | cons c rest ih =>
    have later : ∀ {n},
        o ∈ p.occurrencesFrom (before ++ [c]).length (before ++ [c]).getLast? n rest →
        p.MatchesAt (before ++ c :: rest) o.start o.text ∧ before.length + (n + 1) ≤ o.start := by
      intro n member
      obtain ⟨isMatch, low⟩ := ih member
      rw [List.append_assoc, List.singleton_append] at isMatch
      rw [List.length_append, List.length_singleton] at low
      exact ⟨isMatch, by omega⟩
    cases skip with
    | succ skip => exact later (by rwa [occurrencesFrom_skip] at h)
    | zero =>
      cases first : p.match? (.between before (c :: rest)) with
      | none =>
        rw [occurrencesFrom_none c first] at h
        obtain ⟨isMatch, low⟩ := later h
        exact ⟨isMatch, by omega⟩
      | some e =>
        obtain ⟨found, after, split, rfl, reads⟩ := match?_eq_some first
        rw [occurrencesFrom_some c found after split first] at h
        rcases List.mem_cons.mp h with rfl | member
        · exact ⟨⟨before, after, by rw [split, List.append_assoc], rfl, reads⟩, Nat.le_refl _⟩
        · obtain ⟨isMatch, low⟩ := later member
          exact ⟨isMatch, by omega⟩

theorem matchesAt_of_mem_occurrences {cs : List Char} {o : Occurrence}
    (h : o ∈ p.occurrences cs) : p.MatchesAt cs o.start o.text :=
  (@matchesAt_of_mem_occurrencesFrom p [] cs 0 o h).1

/-- Where a match starts, at or after what was skipped, some reported occurrence reaches. -/
theorem exists_occurrenceFrom_over (positive : 0 < p.least) {skip i : Nat} {found : List Char}
    (isMatch : p.MatchesAt (before ++ rest) i found) (low : before.length + skip ≤ i) :
    ∃ o ∈ p.occurrencesFrom before.length before.getLast? skip rest,
      o.start ≤ i ∧ i < o.start + o.text.length := by
  induction rest generalizing before skip with
  | nil =>
    obtain ⟨b, a, split, rfl, reads⟩ := isMatch
    have size := congrArg List.length split
    have nonempty := reads.least_le
    simp only [List.length_append, List.length_nil] at size
    omega
  | cons c rest ih =>
    have isMatch' : p.MatchesAt ((before ++ [c]) ++ rest) i found := by
      rwa [List.append_assoc, List.singleton_append]
    have later : ∀ {n}, before.length + (n + 1) ≤ i →
        ∃ o ∈ p.occurrencesFrom (before ++ [c]).length (before ++ [c]).getLast? n rest,
          o.start ≤ i ∧ i < o.start + o.text.length := by
      intro n low
      apply ih isMatch'
      rw [List.length_append, List.length_singleton]
      omega
    cases skip with
    | succ skip =>
      rw [occurrencesFrom_skip]
      exact later low
    | zero =>
      cases first : p.match? (.between before (c :: rest)) with
      | none =>
        rw [occurrencesFrom_none c first]
        apply later
        -- The match cannot start here, since nothing does.
        rcases Nat.lt_or_eq_of_le low with less | here
        · omega
        · obtain ⟨b, a, split, size, reads⟩ := isMatch
          have same : b.length = before.length := by omega
          rw [List.append_assoc] at split
          obtain ⟨rfl, tail⟩ := List.append_inj split same.symm
          exact absurd reads (match?_eq_none first found a tail)
      | some e =>
        obtain ⟨taken, after, split, rfl, reads⟩ := match?_eq_some first
        rw [occurrencesFrom_some c taken after split first]
        have nonempty := reads.least_le
        by_cases reaches : i < before.length + taken.length
        · exact ⟨_, List.mem_cons_self, by omega, reaches⟩
        · obtain ⟨o, member, reach⟩ := later (n := taken.length - 1) (by omega)
          exact ⟨o, List.mem_cons_of_mem _ member, reach⟩

/-- **No match is missed**: where one starts, some reported occurrence reaches. -/
theorem exists_occurrence_over (positive : 0 < p.least) {cs : List Char} {i : Nat}
    {found : List Char} (isMatch : p.MatchesAt cs i found) :
    ∃ o ∈ p.occurrences cs, o.start ≤ i ∧ i < o.start + o.text.length :=
  @exists_occurrenceFrom_over p [] cs positive 0 i found isMatch (Nat.zero_le _)

/-- Where no match begins inside another, a search reports all of them. -/
theorem mem_occurrences_iff_of_apart (positive : 0 < p.least) {cs : List Char}
    (apart : ∀ i found j other, p.MatchesAt cs i found → p.MatchesAt cs j other →
      i ≤ j → j < i + found.length → i = j ∧ found = other) {o : Occurrence} :
    o ∈ p.occurrences cs ↔ p.MatchesAt cs o.start o.text := by
  constructor
  · exact matchesAt_of_mem_occurrences
  · intro isMatch
    obtain ⟨taken, reported, low, high⟩ := exists_occurrence_over positive isMatch
    have isMatch' := matchesAt_of_mem_occurrences reported
    obtain ⟨start, text⟩ := apart _ _ _ _ isMatch' isMatch low high
    have same : taken = o := by
      cases taken
      cases o
      simp_all
    exact same ▸ reported

/-- Occurrences come from left to right and do not overlap. -/
theorem pairwise_occurrencesFrom {skip : Nat} :
    (p.occurrencesFrom before.length before.getLast? skip rest).Pairwise
      fun a b => a.start < b.start ∧ a.start + a.text.length ≤ b.start := by
  induction rest generalizing before skip with
  | nil => simp [occurrencesFrom]
  | cons c rest ih =>
    cases skip with
    | succ skip =>
      rw [occurrencesFrom_skip]
      exact ih
    | zero =>
      cases first : p.match? (.between before (c :: rest)) with
      | none =>
        rw [occurrencesFrom_none c first]
        exact ih
      | some e =>
        obtain ⟨found, after, split, rfl, -⟩ := match?_eq_some first
        rw [occurrencesFrom_some c found after split first]
        refine List.pairwise_cons.mpr ⟨fun o member => ?_, ih⟩
        have low := (matchesAt_of_mem_occurrencesFrom member).2
        rw [List.length_append, List.length_singleton] at low
        exact ⟨by simp only; omega, by simp only; omega⟩

theorem pairwise_occurrences (p : Pattern) (cs : List Char) :
    (p.occurrences cs).Pairwise
      fun a b => a.start < b.start ∧ a.start + a.text.length ≤ b.start :=
  @pairwise_occurrencesFrom p [] cs 0

end LeakScan.Pattern
