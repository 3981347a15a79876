import LeakScan.Proofs.Pattern.Language
import LeakScan.Proofs.Text.Line

/-!
# Matches and lines

A pattern that avoids a character reads no piece with it, and a neighbour that is this character
counts for it like no neighbour at all. So the matches of a pattern that avoids the newline in a
whole text are its matches in the single lines, moved by what stands above the line.
-/

namespace LeakScan.Pattern
set_option autoImplicit false

/-- No literal of a pattern holds a character, and none of its classes contains it. -/
def avoids (c : Char) : Pattern → Bool
  | literal text => !text.contains c
  | run k _ _ => !k.contains c
  | notAfter k => !k.contains c
  | notBefore k => !k.contains c
  | andThen p q => p.avoids c && q.avoids c
  | orElse p q => p.avoids c && q.avoids c

variable {p : Pattern} {c : Char}

theorem Reads.notMem (avoided : p.avoids c = true) {before found after : List Char}
    (reads : p.Reads before found after) : c ∉ found := by
  induction p generalizing before found after with
  | literal text =>
    have same : found = text := reads
    simpa [avoids, same] using avoided
  | run k least most =>
    intro member
    have inClass := IsRun.inClass reads c member
    simp [avoids, inClass] at avoided
  | notAfter k =>
    have none_read : found = [] := reads.1
    simp [none_read]
  | notBefore k =>
    have none_read : found = [] := reads.1
    simp [none_read]
  | andThen p q ihp ihq =>
    simp only [avoids, Bool.and_eq_true] at avoided
    obtain ⟨u, v, rfl, readsP, readsQ⟩ := reads
    simp [ihp avoided.1 readsP, ihq avoided.2 readsQ]
  | orElse p q ihp ihq =>
    simp only [avoids, Bool.and_eq_true] at avoided
    rcases reads with readsP | readsQ
    · exact ihp avoided.1 readsP
    · exact ihq avoided.2 readsQ

theorem MatchesAt.notMem (avoided : p.avoids c = true) {cs found : List Char} {i : Nat}
    (isMatch : p.MatchesAt cs i found) : c ∉ found := by
  obtain ⟨before, after, -, -, reads⟩ := isMatch
  exact reads.notMem avoided

/-- A condition on a neighbour that the class of the condition leaves out is a condition on no
neighbour. -/
theorem free_or_iff {k : CharClass} (avoided : k.contains c = false) {near far : Option Char}
    (bound : ∀ x ∈ far, x = c) :
    (∀ x ∈ near.or far, k.contains x = false) ↔ ∀ x ∈ near, k.contains x = false := by
  cases near with
  | some x => simp
  | none =>
    simp only [Option.none_or, Option.mem_def, reduceCtorEq, false_implies, implies_true, iff_true]
    intro x isFar
    rw [bound x isFar, avoided]

/-- What stands beyond a character that a pattern avoids does not count for it. -/
theorem reads_iff_of_bounded (avoided : p.avoids c = true) {above below : List Char}
    (starts : ∀ x ∈ above.getLast?, x = c) (ends : ∀ x ∈ below.head?, x = c)
    {before found after : List Char} :
    p.Reads (above ++ before) found (after ++ below) ↔ p.Reads before found after := by
  induction p generalizing before found after with
  | literal text => exact Iff.rfl
  | run k least most => exact Iff.rfl
  | notAfter k =>
    have avoided' : k.contains c = false := by simpa [avoids] using avoided
    simp only [Reads, List.getLast?_append, free_or_iff avoided' starts]
  | notBefore k =>
    have avoided' : k.contains c = false := by simpa [avoids] using avoided
    simp only [Reads, List.head?_append, free_or_iff avoided' ends]
  | andThen p q ihp ihq =>
    simp only [avoids, Bool.and_eq_true] at avoided
    simp only [Reads, ← List.append_assoc _ after below, List.append_assoc above, ihp avoided.1,
      ihq avoided.2]
  | orElse p q ihp ihq =>
    simp only [avoids, Bool.and_eq_true] at avoided
    simp only [Reads, ihp avoided.1, ihq avoided.2]

/-- A match in a part of a text is a match in the text, moved by what stands before the part. -/
theorem MatchesAt.of_bounded (avoided : p.avoids c = true) {above part below found : List Char}
    {i : Nat} (starts : ∀ x ∈ above.getLast?, x = c) (ends : ∀ x ∈ below.head?, x = c)
    (isMatch : p.MatchesAt part i found) :
    p.MatchesAt (above ++ part ++ below) (above.length + i) found := by
  obtain ⟨before, after, rfl, rfl, reads⟩ := isMatch
  refine ⟨above ++ before, after ++ below, by simp, by simp, ?_⟩
  exact (reads_iff_of_bounded avoided starts ends).mpr reads

variable {cs line above below found : List Char} {n i : Nat}

/-- A match in a line is a match in the text, moved by what stands above the line. -/
theorem MatchesAt.of_line (avoided : p.avoids '\n' = true)
    (isLine : Text.IsLine cs n above line below) (isMatch : p.MatchesAt line i found) :
    p.MatchesAt cs (above.length + i) found := by
  rw [isLine.text]
  exact isMatch.of_bounded avoided isLine.starts isLine.ends

/-- A match in a text is a match in one of its lines. -/
theorem MatchesAt.exists_line (avoided : p.avoids '\n' = true) {j : Nat}
    (isMatch : p.MatchesAt cs j found) :
    ∃ n above line below i, Text.IsLine cs n above line below ∧ j = above.length + i ∧
      p.MatchesAt line i found := by
  obtain ⟨before, after, rfl, rfl, reads⟩ := isMatch
  obtain ⟨above, b, a, below, rfl, rfl, isLine⟩ :=
    Text.exists_isLine_around before found after (reads.notMem avoided)
  refine ⟨_, above, _, below, b.length, isLine, by simp, b, a, rfl, rfl, ?_⟩
  exact (reads_iff_of_bounded avoided isLine.starts isLine.ends).mp reads

end LeakScan.Pattern
