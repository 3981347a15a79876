import LeakScan.Text.Case

/-!
# Loose texts

Formats that escape characters as units of sixteen bits can write half of a surrogate pair on its
own. A loose text is a text, or one that such halves tear apart: a list of code points that no text
is. Where only characters may stand, a half is replaced.
-/

set_option autoImplicit false

namespace LeakScan.Text

/-- A code point: a character, or half of a surrogate pair on its own. -/
inductive CodePoint where
  | char (c : Char)
  | half (n : Nat)
deriving DecidableEq, Repr

namespace CodePoint

/-- The code point of a number. -/
def ofNat (n : Nat) : CodePoint :=
  if n.isValidChar then .char (Char.ofNat n) else .half n

/-- The character that a code point is, if it is one. -/
def char? : CodePoint → Option Char
  | char c => some c
  | half _ => none

/-- The character of a code point; a half is replaced. -/
def repaired : CodePoint → Char
  | char c => c
  | half _ => '\ufffd'

/-- The code points of a list of numbers in which surrogate pairs stand for one each. -/
def joined : List Nat → List CodePoint
  | [] => []
  | [n] => [.ofNat n]
  | n :: m :: ns =>
    if 0xD800 ≤ n && n < 0xDC00 && 0xDC00 ≤ m && m < 0xE000 then
      .ofNat (0x10000 + (n - 0xD800) * 0x400 + (m - 0xDC00)) :: joined ns
    else .ofNat n :: joined (m :: ns)

/-- Code points in lower case. `segment` holds the characters since the last half, the last
first. -/
def loweredFrom (segment : List Char) : List CodePoint → List CodePoint
  | [] => (lowered segment.reverse).map .char
  | char c :: ps => loweredFrom (c :: segment) ps
  | half n :: ps => (lowered segment.reverse).map .char ++ half n :: loweredFrom [] ps

end CodePoint

/-- A text, or code points that are none. -/
inductive Loose where
  | whole (s : String)
  | torn (ps : List CodePoint)
deriving DecidableEq, Repr

instance : Inhabited Loose := ⟨.whole ""⟩

instance : Coe String Loose := ⟨.whole⟩

namespace Loose

/-- The text of some code points. -/
def ofPoints (ps : List CodePoint) : Loose :=
  match ps.mapM CodePoint.char? with
  | some cs => .whole (String.ofList cs)
  | none => .torn ps

/-- The code points of a text. -/
def points : Loose → List CodePoint
  | whole s => s.toList.map .char
  | torn ps => ps

/-- A text in which every half is replaced. -/
def repaired : Loose → String
  | whole s => s
  | torn ps => String.ofList (ps.map CodePoint.repaired)

/-- The text, unless it is torn. -/
def whole? : Loose → Option String
  | whole s => some s
  | torn _ => none

/-- A text with its characters in lower case. -/
def lowered : Loose → Loose
  | whole s => .whole (String.ofList (Text.lowered s.toList))
  | torn ps => .torn (CodePoint.loweredFrom [] ps)

theorem ofPoints_map_char (cs : List Char) :
    ofPoints (cs.map .char) = .whole (String.ofList cs) := by
  have h : (cs.map CodePoint.char).mapM CodePoint.char? = some cs := by
    induction cs with
    | nil => rfl
    | cons c cs ih => simp [List.mapM_cons, CodePoint.char?, ih]
  simp [ofPoints, h]

end Loose
end LeakScan.Text
