/-!
# Control sequences

A terminal takes some characters for orders: an escape character and an opening bracket, then
digits, semicolons and question marks, and a letter at the end. Where a text is shown on no terminal
it goes without them.
-/

set_option autoImplicit false

namespace LeakScan.Console

/-- Whether a character may stand between the bracket and the letter of a control sequence. -/
def isParameter (c : Char) : Bool := c = ';' || c = '?' || c.isDigit

/-- How many characters the control sequence has that a text begins with, if it begins with one. -/
def sequenceLength : List Char → Nat
  | '\x1b' :: '[' :: cs =>
    match cs.dropWhile isParameter with
    | c :: _ => if c.isAlpha then (cs.takeWhile isParameter).length + 3 else 0
    | [] => 0
  | _ => 0

/-- A text without its control sequences, the first of which began before it and has `more`
characters to come. -/
def withoutSequencesAfter : (more : Nat) → List Char → List Char
  | _, [] => []
  | more + 1, _ :: cs => withoutSequencesAfter more cs
  | 0, c :: cs =>
    match sequenceLength (c :: cs) with
    | 0 => c :: withoutSequencesAfter 0 cs
    | more + 1 => withoutSequencesAfter more cs

/-- A text without its control sequences. -/
def withoutSequences (s : String) : String := String.ofList (withoutSequencesAfter 0 s.toList)

theorem sequenceLength_of_ne {c : Char} (other : c ≠ '\x1b') (cs : List Char) :
    sequenceLength (c :: cs) = 0 := by
  unfold sequenceLength
  split
  · rename_i same
    exact absurd (List.cons.inj same).1 other
  · rfl

/-- A text without the escape character holds no control sequence. -/
theorem withoutSequences_of_notMem {s : String} (plain : '\x1b' ∉ s.toList) :
    withoutSequences s = s := by
  have kept (cs : List Char) (plain : '\x1b' ∉ cs) : withoutSequencesAfter 0 cs = cs := by
    induction cs with
    | nil => rfl
    | cons c cs ih =>
      have other : c ≠ '\x1b' := fun same => plain (same ▸ List.mem_cons_self)
      simp only [withoutSequencesAfter, sequenceLength_of_ne other]
      rw [ih fun member => plain (List.mem_cons_of_mem c member)]
  rw [withoutSequences, kept _ plain, String.ofList_toList]

example : withoutSequences "a\x1b[1;31mb\x1b[?c\x1b[" = "ab\x1b[" := by decide +kernel

end LeakScan.Console
