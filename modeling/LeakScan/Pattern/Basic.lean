/-!
# Patterns

A pattern describes pieces of text: literal text, runs of characters of one class, one pattern
after another, one or another, and conditions on the character before or after a place. A
pattern leads from a place in a text to the places where a match that starts there ends. It
prefers longer runs to shorter ones and the first alternative to the second; `ends` lists the
places in that order, so its head is the match that a search reports.
-/

set_option autoImplicit false

namespace LeakScan

/-- A class of characters: those in one of the closed ranges. -/
structure CharClass where
  ranges : List (Char × Char)
deriving DecidableEq, Repr

namespace CharClass

/-- Whether a character belongs to a class. -/
def contains (k : CharClass) (c : Char) : Bool :=
  k.ranges.any fun r => r.1 ≤ c && c ≤ r.2

instance : Append CharClass := ⟨fun a b => ⟨a.ranges ++ b.ranges⟩⟩

/-- The class of some single characters. -/
def ofChars (cs : List Char) : CharClass := ⟨cs.map fun c => (c, c)⟩

@[simp] theorem contains_append (a b : CharClass) (c : Char) :
    (a ++ b).contains c = (a.contains c || b.contains c) := by
  change (a.ranges ++ b.ranges).any _ = _
  simp [contains]

end CharClass

/-- A place in a text: how many characters stand before it, the last of them, and what
follows. -/
structure Place where
  offset : Nat
  before : Option Char
  rest : List Char
deriving DecidableEq, Repr

/-- A pattern. In a run, `most` bounds the length if it is given. -/
inductive Pattern where
  | literal (text : List Char)
  | run (k : CharClass) (least : Nat) (most : Option Nat)
  | notAfter (k : CharClass)
  | notBefore (k : CharClass)
  | andThen (p q : Pattern)
  | orElse (p q : Pattern)
deriving DecidableEq, Repr

namespace Place

/-- The first place of a text. -/
def start (cs : List Char) : Place := ⟨0, none, cs⟩

/-- The place after a literal text that stands here, if it does. -/
def after? : (text : List Char) → Place → Option Place
  | [], p => some p
  | _ :: _, ⟨_, _, []⟩ => none
  | c :: cs, ⟨offset, _, d :: ds⟩ => if c = d then after? cs ⟨offset + 1, some d, ds⟩ else none

/-- The places where a run of a class ends, the longest first. `need` characters are still
needed and `room` more are allowed; `acc` holds the places of shorter runs. -/
def runEnds (k : CharClass) (need : Nat) (room : Option Nat) (offset : Nat)
    (before : Option Char) (acc : List Place) : List Char → List Place
  | [] => if need = 0 then ⟨offset, before, []⟩ :: acc else acc
  | c :: cs =>
    let acc := if need = 0 then ⟨offset, before, c :: cs⟩ :: acc else acc
    if room != some 0 && k.contains c then
      runEnds k (need - 1) (room.map (· - 1)) (offset + 1) (some c) acc cs
    else acc

end Place

namespace Pattern

/-- The places where a match that starts at a place ends, in order of preference. -/
def ends : Pattern → Place → List Place
  | literal text, p => (Place.after? text p).toList
  | run k least most, p => Place.runEnds k least most p.offset p.before [] p.rest
  | notAfter k, p => if p.before.any k.contains then [] else [p]
  | notBefore k, p => if p.rest.head?.any k.contains then [] else [p]
  | andThen a b, p => (a.ends p).flatMap b.ends
  | orElse a b, p => a.ends p ++ b.ends p

/-- The match that a search prefers at a place. -/
def match? (p : Pattern) (a : Place) : Option Place :=
  (p.ends a).head?

instance : Append Pattern := ⟨andThen⟩
instance : OrElse Pattern := ⟨fun a b => orElse a (b ())⟩

end Pattern
end LeakScan
