import LeakScan.Proofs.Pattern.Greedy
import LeakScan.Proofs.Pattern.Search

/-!
# Leftmost and longest

A search with a greedy pattern takes the longest match at the first place that has one, and goes on
behind it (`leftmostLongest_occurrences`). `LeftmostLongest` says this of any list of occurrences,
by the matches of the pattern alone, and one list only has it (`LeftmostLongest.unique`).
-/

namespace LeakScan.Pattern
set_option autoImplicit false

variable {p : Pattern} {e : Place} {cs before rest found : List Char} {i low high : Nat}
  {os os' : List Occurrence}

theorem matchesAt_length_iff :
    p.MatchesAt (before ++ rest) before.length found ↔
      ∃ after, rest = found ++ after ∧ p.Reads before found after := by
  constructor
  · rintro ⟨b, after, split, size, reads⟩
    rw [List.append_assoc] at split
    obtain ⟨rfl, rfl⟩ := List.append_inj split size.symm
    exact ⟨after, rfl, reads⟩
  · rintro ⟨after, rfl, reads⟩
    exact ⟨before, after, (List.append_assoc _ _ _).symm, rfl, reads⟩

theorem MatchesAt.isPrefix (isMatch : p.MatchesAt cs i found) : found <+: cs.drop i :=
  (matchesAt_iff.mp isMatch).2.1

theorem MatchesAt.le_length (isMatch : p.MatchesAt cs i found) : i + found.length ≤ cs.length := by
  obtain ⟨before, after, rfl, rfl, -⟩ := isMatch
  simp

theorem MatchesAt.ne_nil (positive : 0 < p.least) (isMatch : p.MatchesAt cs i found) :
    found ≠ [] := by
  obtain ⟨before, after, -, -, reads⟩ := isMatch
  exact List.ne_nil_of_length_pos (Nat.lt_of_lt_of_le positive reads.least_le)

/-- The longest match that starts at an offset. -/
structure LongestAt (p : Pattern) (cs : List Char) (i : Nat) (found : List Char) : Prop where
  isMatch : p.MatchesAt cs i found
  longest : ∀ other, p.MatchesAt cs i other → other.length ≤ found.length

theorem LongestAt.unique {other : List Char} (longest : p.LongestAt cs i found)
    (longest' : p.LongestAt cs i other) : found = other := by
  have size : found.length = other.length :=
    Nat.le_antisymm (longest'.longest _ longest.isMatch) (longest.longest _ longest'.isMatch)
  have first := List.prefix_of_prefix_length_le longest.isMatch.isPrefix longest'.isMatch.isPrefix
    (Nat.le_of_eq size)
  exact first.eq_of_length size

/-- What stands at offset `low` and after it: from there on each occurrence is the longest match at
the first place behind the occurrence before it that has a match at all, and behind the last one
there is none. -/
inductive LeftmostLongest (p : Pattern) (cs : List Char) :
    (low : Nat) → List Occurrence → Prop where
  | done {low : Nat} (clear : ∀ i found, low ≤ i → ¬ p.MatchesAt cs i found) :
    LeftmostLongest p cs low []
  | next {low : Nat} {o : Occurrence} {os : List Occurrence} (reached : low ≤ o.start)
    (clear : ∀ i found, low ≤ i → i < o.start → ¬ p.MatchesAt cs i found)
    (nonempty : o.text ≠ []) (longest : p.LongestAt cs o.start o.text)
    (rest : LeftmostLongest p cs (o.start + o.text.length) os) :
    LeftmostLongest p cs low (o :: os)

/-- Where nothing matches nothing is reported. -/
theorem LeftmostLongest.lower (reported : LeftmostLongest p cs high os) (le : low ≤ high)
    (clear : ∀ i found, low ≤ i → i < high → ¬ p.MatchesAt cs i found) :
    LeftmostLongest p cs low os := by
  cases reported with
  | done clear' =>
    refine .done fun i found reached => ?_
    by_cases near : i < high
    · exact clear i found reached near
    · exact clear' i found (Nat.le_of_not_lt near)
  | next reached clear' nonempty longest rest =>
    refine .next (Nat.le_trans le reached) (fun i found reached' less => ?_) nonempty longest rest
    by_cases near : i < high
    · exact clear i found reached' near
    · exact clear' i found (Nat.le_of_not_lt near) less

/-- There is one way only to report the longest match at the first place that has one. -/
theorem LeftmostLongest.unique (reported : LeftmostLongest p cs low os)
    (reported' : LeftmostLongest p cs low os') : os = os' := by
  induction reported generalizing os' with
  | done clear =>
    cases reported' with
    | done => rfl
    | next reached _ _ longest _ => exact absurd longest.isMatch (clear _ _ reached)
  | @next low o os reached clear nonempty longest rest ih =>
    cases reported' with
    | done clear' => exact absurd longest.isMatch (clear' _ _ reached)
    | @next _ o' os' reached' clear' nonempty' longest' rest' =>
      have start : o.start = o'.start := by
        rcases Nat.lt_trichotomy o.start o'.start with less | same | less
        · exact absurd longest.isMatch (clear' _ _ reached less)
        · exact same
        · exact absurd longest'.isMatch (clear _ _ reached' less)
      have text : o.text = o'.text := longest.unique (start ▸ longest')
      obtain ⟨_, _⟩ := o
      obtain ⟨_, _⟩ := o'
      simp only at start text
      subst start text
      rw [ih rest']

/-- The match that a greedy pattern prefers is the longest. -/
theorem longestAt_of_match? (greedy : p.isGreedy = true)
    (first : p.match? (.between before rest) = some e) :
    ∃ found after, rest = found ++ after ∧ e = .between (before ++ found) after ∧
      p.LongestAt (before ++ rest) before.length found := by
  obtain ⟨found, after, split, here, reads⟩ := match?_eq_some first
  refine ⟨found, after, split, here, matchesAt_length_iff.mpr ⟨after, split, reads⟩, ?_⟩
  intro other isMatch
  obtain ⟨after', split', reads'⟩ := matchesAt_length_iff.mp isMatch
  have member : Place.between (before ++ other) after' ∈ p.ends (.between before rest) :=
    mem_ends_iff.mpr ⟨other, after', split', rfl, reads'⟩
  have inOrder := (graded_ends greedy before rest).inOrder
  rw [match?] at first
  cases choices : p.ends (.between before rest) with
  | nil =>
    rw [choices] at member
    cases member
  | cons m others =>
    rw [choices] at first member inOrder
    cases first
    rcases List.mem_cons.mp member with same | later
    · have offsets := congrArg Place.offset same
      simp only [here, Place.between_offset, List.length_append] at offsets
      omega
    · have least := (List.pairwise_cons.mp inOrder).1 _ later
      simp only [here, Place.between_offset, List.length_append] at least
      omega

theorem leftmostLongest_occurrencesFrom (greedy : p.isGreedy = true) (positive : 0 < p.least)
    (skip : Nat) :
    LeftmostLongest p (before ++ rest) (before.length + skip)
      (p.occurrencesFrom before.length before.getLast? skip rest) := by
  induction rest generalizing before skip with
  | nil =>
    rw [occurrencesFrom]
    refine .done fun i found reached isMatch => ?_
    have inside := isMatch.le_length
    have some := List.length_pos_iff.mpr (isMatch.ne_nil positive)
    rw [List.append_nil] at inside
    omega
  | cons c rest ih =>
    have later (skip : Nat) : LeftmostLongest p (before ++ c :: rest) (before.length + (skip + 1))
        (p.occurrencesFrom (before ++ [c]).length (before ++ [c]).getLast? skip rest) := by
      have low : (before ++ [c]).length + skip = before.length + (skip + 1) := by
        rw [List.length_append, List.length_singleton]
        omega
      have behind := @ih (before ++ [c]) skip
      rwa [low, List.append_assoc, List.singleton_append] at behind
    cases skip with
    | succ skip =>
      rw [occurrencesFrom_skip]
      exact later skip
    | zero =>
      cases first : p.match? (.between before (c :: rest)) with
      | none =>
        rw [occurrencesFrom_none c first]
        refine (later 0).lower (Nat.le_succ _) fun i found reached less isMatch => ?_
        obtain rfl : i = before.length := by omega
        obtain ⟨after, split, reads⟩ := matchesAt_length_iff.mp isMatch
        exact match?_eq_none first found after split reads
      | some e =>
        obtain ⟨found, after, split, rfl, longest⟩ := longestAt_of_match? greedy first
        rw [occurrencesFrom_some c found after split first]
        have nonempty := longest.isMatch.ne_nil positive
        have behind := later (found.length - 1)
        rw [Nat.sub_add_cancel (List.length_pos_iff.mpr nonempty)] at behind
        refine .next (Nat.le_refl _) (fun i found reached less => ?_) nonempty longest behind
        simp only at less
        omega

/-- A search with a greedy pattern reports the longest match at the first place that has one. -/
theorem leftmostLongest_occurrences (greedy : p.isGreedy = true) (positive : 0 < p.least)
    (cs : List Char) : LeftmostLongest p cs 0 (p.occurrences cs) :=
  @leftmostLongest_occurrencesFrom p [] cs greedy positive 0

end LeakScan.Pattern
