/-!
# Similar names

A misspelt name is answered with the known names like it. How alike two names are is measured by
what they share: the longest run of characters that stands in both, and then what the parts before
it and the parts after it share. Names are similar when they share at least three fifths of their
characters.
-/

set_option autoImplicit false

namespace LeakScan.Command

/-- The number of characters that two names share at their beginnings. -/
def commonStart : List Char → List Char → Nat
  | a :: as, b :: bs => if a = b then commonStart as bs + 1 else 0
  | _, _ => 0

/-- A run of characters in two names: where it begins in each, and its length. -/
structure Run where
  left : Nat
  right : Nat
  length : Nat
deriving DecidableEq, Repr

/-- The longer of two runs, the first if they are as long. -/
def Run.longer (a b : Run) : Run := if a.length < b.length then b else a

/-- The longest run that two names share, the first of several. -/
def longestRun (as bs : List Char) : Run :=
  (List.range as.length).foldl (fun best i =>
    (List.range bs.length).foldl (fun best j =>
      best.longer ⟨i, j, commonStart (as.drop i) (bs.drop j)⟩) best) ⟨0, 0, 0⟩

/-- The number of characters that two names share. -/
def shared (as bs : List Char) : Nat :=
  match longestRun as bs with
  | ⟨i, j, n⟩ =>
    if _h : i < as.length ∧ 0 < n then
      shared (as.take i) (bs.take j) + n + shared (as.drop (i + n)) (bs.drop (j + n))
    else 0
termination_by as.length
decreasing_by all_goals simp only [List.length_take, List.length_drop]; omega

/-- Whether two names share at least three fifths of their characters. -/
def areSimilar (a b : String) : Bool :=
  3 * (a.toList.length + b.toList.length) ≤ 10 * shared a.toList b.toList

/-- The names among some that are similar to a name, in order. -/
def similarTo (name : String) (known : List String) : List String :=
  (known.filter (areSimilar · name)).mergeSort fun a b => decide (a ≤ b)

example : similarTo "--formt" ["--format", "--output", "--help"] = ["--format"] ∧
    similarTo "--qqq" ["--format", "--output", "--help"] = [] := by decide +kernel

end LeakScan.Command
