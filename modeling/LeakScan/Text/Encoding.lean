import LeakScan.Text.Loose
import LeakScan.Text.Utf8

/-!
# Encodings

A text that starts with a character of ASCII shows by its first bytes how it is encoded: those
that are zero tell how many bytes a unit has and in which order they stand. Units of two bytes are
code points or the halves of surrogate pairs, units of four bytes are code points.
-/

set_option autoImplicit false

namespace LeakScan.Text

/-- How a text is encoded. The units of two and of four bytes start with the most significant one
or with the least. -/
inductive Encoding where
  | utf8
  | utf16 (bigEndian : Bool)
  | utf32 (bigEndian : Bool)
deriving DecidableEq, Repr

namespace Encoding

/-- The encoding that the first bytes of a text show. -/
def ofBytes : List UInt8 → Encoding
  | a :: b :: c :: d :: _ =>
    if a = 0 then (if b = 0 then utf32 true else utf16 true)
    else if b = 0 then (if c = 0 && d = 0 then utf32 false else utf16 false)
    else utf8
  | [a, b] => if a = 0 then utf16 true else if b = 0 then utf16 false else utf8
  | _ => utf8

/-- The number that the bytes of a unit make. -/
def unit (bigEndian : Bool) (bs : List UInt8) : Nat :=
  (if bigEndian then bs else bs.reverse).foldl (fun n b => 256 * n + b.toNat) 0

/-- The units of two bytes that bytes make, if none is left over. -/
def pairs? (bigEndian : Bool) : List UInt8 → Option (List Nat)
  | [] => some []
  | a :: b :: bs => (pairs? bigEndian bs).map (unit bigEndian [a, b] :: ·)
  | _ => none

/-- The units of four bytes that bytes make, if none is left over. -/
def quads? (bigEndian : Bool) : List UInt8 → Option (List Nat)
  | [] => some []
  | a :: b :: c :: d :: bs => (quads? bigEndian bs).map (unit bigEndian [a, b, c, d] :: ·)
  | _ => none

/-- Reads bytes of an encoding. -/
def decode? (e : Encoding) (bytes : ByteArray) : Option (List CodePoint) :=
  match e with
  | utf8 => (Utf8.decode bytes).toOption.map fun s => s.toList.map .char
  | utf16 bigEndian => (pairs? bigEndian bytes.toList).map CodePoint.joined
  | utf32 bigEndian =>
    ((quads? bigEndian bytes.toList).filter (·.all (· ≤ 0x10FFFF))).map (·.map .ofNat)

end Encoding

example : Encoding.ofBytes [0x7b, 0, 0x7d, 0] = .utf16 false ∧
    (Encoding.utf16 true).decode? ⟨#[0, 0x61, 0xD8, 0x3D, 0xDE, 0]⟩ =
      some [.char 'a', .char '😀'] := by decide +kernel

end LeakScan.Text
