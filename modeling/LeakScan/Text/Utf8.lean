import LeakScan.Text.Digit

/-!
# UTF-8

Bytes are the UTF-8 form of a text or they are not, and then the first fault is reported: the
bytes of the sequence it stands in, as far as they are right. A sequence starts with a lead byte,
which tells in which range each of the bytes after it lies; the second byte's range is narrower
where it keeps out long forms, surrogates and what is beyond the last code point.
-/

set_option autoImplicit false

namespace LeakScan.Text.Utf8

/-- Why the reading of bytes stops. -/
inductive Reason where
  | invalidStart
  | invalidContinuation
  | unexpectedEnd
deriving DecidableEq, Repr

def Reason.message : Reason → String
  | invalidStart => "invalid start byte"
  | invalidContinuation => "invalid continuation byte"
  | unexpectedEnd => "unexpected end of data"

/-- Where the reading of bytes stops: the lead byte of the sequence at hand, its position, the
number of its bytes that were read, and the reason. -/
structure Fault where
  lead : UInt8
  position : Nat
  length : Nat
  reason : Reason
deriving DecidableEq, Repr

/-- Says which byte or bytes are not UTF-8. -/
def Fault.message (e : Fault) : String :=
  let place :=
    if e.length = 1 then
      "byte 0x" ++ String.ofList (hexDigits 2 e.lead.toNat) ++ " in position " ++
        toString e.position
    else
      "bytes in position " ++ toString e.position ++ "-" ++ toString (e.position + e.length - 1)
  "'utf-8' codec can't decode " ++ place ++ ": " ++ e.reason.message

/-- A closed range of bytes. -/
abbrev Range := UInt8 × UInt8

def Range.contains (r : Range) (b : UInt8) : Bool := r.1 ≤ b && b ≤ r.2

/-- The range of the bytes that continue a sequence. -/
def tail : Range := (0x80, 0xBF)

/-- The ranges of the bytes after a lead byte. -/
def after? (lead : UInt8) : Option (List Range) :=
  if lead < 0x80 then some []
  else if lead < 0xC2 then none
  else if lead < 0xE0 then some [tail]
  else if lead = 0xE0 then some [(0xA0, 0xBF), tail]
  else if lead = 0xED then some [(0x80, 0x9F), tail]
  else if lead < 0xF0 then some [tail, tail]
  else if lead = 0xF0 then some [(0x90, 0xBF), tail, tail]
  else if lead < 0xF4 then some [tail, tail, tail]
  else if lead = 0xF4 then some [(0x80, 0x8F), tail, tail]
  else none

/-- Where the reading of bytes stops. `taken` bytes of a sequence that starts with `lead` were
read, and bytes in the ranges `expected` are still to come. -/
def stopFrom (position : Nat) (lead : UInt8) (taken : Nat) : (expected : List Range) →
    List UInt8 → Fault
  | [], [] => ⟨lead, position, 0, .unexpectedEnd⟩
  | _ :: _, [] => ⟨lead, position - taken, taken, .unexpectedEnd⟩
  | [], b :: bs =>
    match after? b with
    | some ranges => stopFrom (position + 1) b 1 ranges bs
    | none => ⟨b, position, 1, .invalidStart⟩
  | r :: ranges, b :: bs =>
    if r.contains b then stopFrom (position + 1) lead (taken + 1) ranges bs
    else ⟨lead, position - taken, taken, .invalidContinuation⟩

/-- Reads a text from its UTF-8 form. -/
def decode (bytes : ByteArray) : Except Fault String :=
  match String.fromUTF8? bytes with
  | some s => .ok s
  | none => .error (stopFrom 0 0 0 [] bytes.toList)

/-- Reads a text from bytes, in at most `steps` pieces: what is not UTF-8 becomes the replacement
character, once for every fault. -/
def repaired : (steps : Nat) → List UInt8 → List Char
  | 0, _ => []
  | steps + 1, bytes =>
    match decode ⟨bytes.toArray⟩ with
    | .ok s => s.toList
    | .error e =>
      let good := (decode ⟨(bytes.take e.position).toArray⟩).toOption.getD ""
      good.toList ++ '\ufffd' :: repaired steps (bytes.drop (e.position + max 1 e.length))

example : (stopFrom 0 0 0 [] [0x61, 0xE2, 0x82]).message =
    "'utf-8' codec can't decode bytes in position 1-2: unexpected end of data" := by decide +kernel

end LeakScan.Text.Utf8
