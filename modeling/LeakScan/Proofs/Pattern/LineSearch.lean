import LeakScan.Proofs.Pattern.Line
import LeakScan.Proofs.Pattern.Longest

/-!
# Searching line by line

A greedy pattern that avoids the newline finds in a text what it finds in the lines of the text: no
match reaches over the end of a line, and in a line the same places have the same longest matches
(`occurrences_eq_flatMap_lines`).
-/

namespace LeakScan
set_option autoImplicit false

/-- An occurrence in a text that begins at an offset of another. -/
def Occurrence.shift (offset : Nat) (o : Occurrence) : Occurrence := ⟨offset + o.start, o.text⟩

namespace Pattern

variable {p : Pattern} {cs above line below found : List Char} {n i low : Nat}
  {os later : List Occurrence}

/-- Inside a part of a text that a character bounds which the pattern avoids, the matches of the
text are those of the part. -/
theorem matchesAt_iff_of_bounded {c : Char} (avoided : p.avoids c = true)
    {above part below found : List Char} {i : Nat} (starts : ∀ x ∈ above.getLast?, x = c)
    (ends : ∀ x ∈ below.head?, x = c) (inside : i ≤ part.length) :
    p.MatchesAt (above ++ part ++ below) (above.length + i) found ↔ p.MatchesAt part i found := by
  refine ⟨?_, MatchesAt.of_bounded avoided starts ends⟩
  rintro ⟨before, after, split, size, reads⟩
  obtain ⟨b, rest, rfl, rfl⟩ : ∃ b rest, part = b ++ rest ∧ b.length = i :=
    ⟨part.take i, part.drop i, (List.take_append_drop i part).symm,
      List.length_take_of_le inside⟩
  have same : (above ++ b) ++ (rest ++ below) = before ++ (found ++ after) := by
    rw [← List.append_assoc before, ← split]
    simp
  obtain ⟨rfl, tail⟩ := List.append_inj same (by rw [List.length_append, size])
  -- The match ends in the part, since it does not hold the character behind it.
  obtain ⟨a, rfl, rfl⟩ : ∃ a, rest = found ++ a ∧ after = a ++ below := by
    rcases List.append_eq_append_iff.mp tail with ⟨beyond, rfl, behind⟩ | ⟨a, rfl, rfl⟩
    · cases beyond with
      | nil => exact ⟨[], by simp, by simpa using behind.symm⟩
      | cons d beyond =>
        obtain rfl : d = c := ends d (by rw [behind]; rfl)
        exact absurd (by simp) (reads.notMem avoided)
    · exact ⟨a, rfl, rfl⟩
  refine ⟨b, a, (List.append_assoc _ _ _).symm, rfl, ?_⟩
  exact (reads_iff_of_bounded avoided starts ends).mp reads

/-- Inside a line, the matches of a text are those of the line. -/
theorem matchesAt_in_line_iff (avoided : p.avoids '\n' = true)
    (isLine : Text.IsLine cs n above line below) (inside : i ≤ line.length) :
    p.MatchesAt cs (above.length + i) found ↔ p.MatchesAt line i found := by
  rw [isLine.text]
  exact matchesAt_iff_of_bounded avoided isLine.starts isLine.ends inside

theorem longestAt_in_line_iff (avoided : p.avoids '\n' = true)
    (isLine : Text.IsLine cs n above line below) (inside : i ≤ line.length) :
    p.LongestAt cs (above.length + i) found ↔ p.LongestAt line i found := by
  constructor
  · rintro ⟨isMatch, longest⟩
    exact ⟨(matchesAt_in_line_iff avoided isLine inside).mp isMatch,
      fun other other' => longest other (other'.of_line avoided isLine)⟩
  · rintro ⟨isMatch, longest⟩
    exact ⟨isMatch.of_line avoided isLine,
      fun other other' => longest other ((matchesAt_in_line_iff avoided isLine inside).mp other')⟩

/-- What is reported in a line, and then what is reported behind it. -/
theorem LeftmostLongest.in_line (avoided : p.avoids '\n' = true)
    (isLine : Text.IsLine cs n above line below) (inside : low ≤ line.length)
    (reported : LeftmostLongest p line low os)
    (behind : LeftmostLongest p cs (above.length + line.length) later) :
    LeftmostLongest p cs (above.length + low) (os.map (.shift above.length) ++ later) := by
  have clear_of {low high : Nat} (within : high ≤ line.length)
      (clear : ∀ i found, low ≤ i → i < high → ¬ p.MatchesAt line i found) (i : Nat)
      (found : List Char) (reached : above.length + low ≤ i) (less : i < above.length + high) :
      ¬ p.MatchesAt cs i found := by
    obtain ⟨j, rfl⟩ := Nat.exists_eq_add_of_le (Nat.le_trans (Nat.le_add_right _ low) reached)
    rw [matchesAt_in_line_iff avoided isLine (by omega)]
    exact clear j found (by omega) (by omega)
  induction reported with
  | @done low clear =>
    rw [List.map_nil, List.nil_append]
    refine behind.lower (by omega) (clear_of (Nat.le_refl _) fun i found reached _ => ?_)
    exact clear i found reached
  | @next low o os reached clear nonempty longest rest ih =>
    have end_le := longest.isMatch.le_length
    have here : o.start ≤ line.length := by omega
    rw [List.map_cons, List.cons_append]
    refine .next (Nat.add_le_add_left reached _) (clear_of here clear) nonempty
      ((longestAt_in_line_iff avoided isLine here).mpr longest) ?_
    rw [Occurrence.shift, Nat.add_assoc]
    exact ih end_le

/-- No match begins where a line ends. -/
theorem not_matchesAt_end (avoided : p.avoids '\n' = true) (positive : 0 < p.least)
    (isLine : Text.IsLine cs n above line below) :
    ¬ p.MatchesAt cs (above.length + line.length) found := by
  rw [matchesAt_in_line_iff avoided isLine (Nat.le_refl _)]
  intro isMatch
  have inside := isMatch.le_length
  have some := List.length_pos_iff.mpr (isMatch.ne_nil positive)
  omega

variable (greedy : p.isGreedy = true) (positive : 0 < p.least) (avoided : p.avoids '\n' = true)

include greedy positive avoided

/-- Line after line, the longest matches at the first places of the lines are those of the text. -/
theorem leftmostLongest_lines (above rest : List Char) (starts : ∀ c ∈ above.getLast?, c = '\n') :
    LeftmostLongest p (above ++ rest) above.length
      ((Text.placed above.length (Text.lines rest)).flatMap fun l =>
        (p.occurrences l.2).map (.shift l.1)) := by
  rcases Text.eq_or_eq_append_cons '\n' rest with whole | ⟨a, b, rfl, unbroken⟩
  · have isLine : Text.IsLine (above ++ rest) (above.count '\n') above rest [] :=
      ⟨by simp, rfl, whole, starts, by simp⟩
    have behind : LeftmostLongest p (above ++ rest) (above.length + rest.length) [] := by
      refine .done fun i found reached isMatch => ?_
      have inside := isMatch.le_length
      have some := List.length_pos_iff.mpr (isMatch.ne_nil positive)
      rw [List.length_append] at inside
      omega
    rw [Text.lines, Text.split_of_notMem whole, Text.placed, Text.placed, List.flatMap_cons,
      List.flatMap_nil]
    exact (leftmostLongest_occurrences greedy positive rest).in_line avoided isLine
      (Nat.zero_le _) behind
  · have isLine : Text.IsLine (above ++ (a ++ '\n' :: b)) (above.count '\n') above a ('\n' :: b) :=
      ⟨by simp, rfl, unbroken, starts, by simp⟩
    have next := leftmostLongest_lines (above ++ a ++ ['\n']) b (by simp)
    have text : above ++ a ++ ['\n'] ++ b = above ++ (a ++ '\n' :: b) := by simp
    have size : (above ++ a ++ ['\n']).length = above.length + a.length + 1 := by
      simp only [List.length_append, List.length_singleton]
    rw [text, size] at next
    have behind := next.lower (Nat.le_succ _) fun i found reached less => by
      obtain rfl : i = above.length + a.length := by omega
      exact not_matchesAt_end avoided positive isLine
    rw [Text.placed_cons_of_notMem _ unbroken, List.flatMap_cons]
    exact (leftmostLongest_occurrences greedy positive a).in_line avoided isLine
      (Nat.zero_le _) behind
termination_by rest.length

/-- **A search of a text is a search of its lines**: it finds what the lines hold, in the same
order, each occurrence moved by the offset of its line. -/
theorem occurrences_eq_flatMap_lines (cs : List Char) :
    p.occurrences cs = (Text.placed 0 (Text.lines cs)).flatMap fun l =>
      (p.occurrences l.2).map (.shift l.1) :=
  (leftmostLongest_occurrences greedy positive cs).unique
    (leftmostLongest_lines greedy positive avoided [] cs (by simp))

end Pattern
end LeakScan
