import LeakScan.Pattern.Basic

/-!
# Searching a text for a pattern

A search goes through a text from left to right. At each place it takes the preferred match, if
there is one, and goes on where that match ends; so the occurrences it reports do not overlap.
-/

set_option autoImplicit false

namespace LeakScan

/-- A match found in a text: where it starts, and what it is. -/
structure Occurrence where
  start : Nat
  text : List Char
deriving DecidableEq, Repr

namespace Pattern

/-- The occurrences from a place on. The first `skip` characters belong to the occurrence found
before. -/
def occurrencesFrom (p : Pattern) (offset : Nat) (before : Option Char) :
    (skip : Nat) → List Char → List Occurrence
  | _, [] => []
  | skip + 1, c :: cs => occurrencesFrom p (offset + 1) (some c) skip cs
  | 0, c :: cs =>
    match p.match? ⟨offset, before, c :: cs⟩ with
    | none => occurrencesFrom p (offset + 1) (some c) 0 cs
    | some e =>
      let length := e.offset - offset
      ⟨offset, (c :: cs).take length⟩ ::
        occurrencesFrom p (offset + 1) (some c) (length - 1) cs

/-- The occurrences of a pattern in a text, from left to right. -/
def occurrences (p : Pattern) (cs : List Char) : List Occurrence :=
  occurrencesFrom p 0 none 0 cs

end Pattern
end LeakScan
