import LeakScan.Yaml.Fault
import LeakScan.Yaml.Kind

/-!
# Numbers of a YAML text

An integer has one of four bases or parts of sixty, and underscores where they help; a real number
has names for infinity and for the value that is not a number, and may have parts of sixty too. What
is read here was said by a tag or by its spelling to be a number, so a text that is none is a fault.
-/

set_option autoImplicit false

namespace LeakScan.Yaml

open Text (CodePoint Loose)

/-- Takes the underscores out of a number. -/
def withoutBars (s : Loose) : List CodePoint := s.points.filter (· != .char '_')

/-- Takes the sign off a number that is not empty: whether it was a minus, and the rest. -/
def signed : List CodePoint → Except Fault (Bool × List CodePoint)
  | [] => .error .emptyNumber
  | .char '-' :: ps => .ok (true, ps)
  | .char '+' :: ps => .ok (false, ps)
  | ps => .ok (false, ps)

/-- The pieces of a number between its colons. -/
def sixtiethPieces (ps : List CodePoint) : List (List CodePoint) := ps.splitOn (.char ':')

/-- The sum of parts of sixty, the least last. -/
def sixtieths (parts : List Int) : Int :=
  parts.foldl (fun n d => 60 * n + d) 0

/-- Reads an integer of base ten. -/
def decimalInt (ps : List CodePoint) : Except Fault Int :=
  let s := Loose.ofPoints ps
  match Numeral.toInt s.repaired with
  | .ok i => .ok i
  | .error .malformed => .error (.integer 10 s)
  | .error (.tooLong n) => .error (.integerTooLong n)

/-- Reads an integer of a base with a sign and a mark of the base, if there are any. -/
def intOfBase (base : Nat) (mark : Char) (ps : List CodePoint) : Except Fault Int :=
  let s := Loose.ofPoints ps
  let (negative, ds) := Numeral.splitSign (Numeral.trimmed s.repaired)
  let ds := match ds with
    | '0' :: m :: rest => if m.toLower = mark then rest else ds
    | _ => ds
  let digit? (c : Char) : Option Nat := (Text.hexDigit? c).filter (· < base)
  match ds.mapM digit? with
  | some (d :: rest) =>
    let n := rest.foldl (fun n d => base * n + d) d
    .ok (if negative then -(n : Int) else n)
  | _ => .error (.integer base s)

/-- Reads the text of an integer. -/
def intOf (s : Loose) : Except Fault Int := do
  let (negative, ps) ← signed (withoutBars s)
  let n ← match ps with
    | [] => .error .emptyNumber
    | [.char '0'] => .ok 0
    | .char '0' :: .char 'b' :: ps => intOfBase 2 'b' ps
    | .char '0' :: .char 'x' :: ps => intOfBase 16 'x' ps
    | .char '0' :: _ => intOfBase 8 'o' ps
    | ps =>
      if ps.contains (.char ':') then do
        return sixtieths (← (sixtiethPieces ps).mapM decimalInt)
      else decimalInt ps
  return if negative then -n else n

/-- Reads a real number of base ten. -/
def decimalReal (ps : List CodePoint) : Except Fault Double :=
  let s := Loose.ofPoints ps
  match Numeral.toDouble? s.repaired with
  | some d => .ok d
  | none => .error (.real s)

/-- Adds real parts of sixty to a sum, the least first. `base` is what one of the first part counts,
which must be a floating-point value too. -/
def realSixtieths (sum : Double) (base : Nat) : List Double → Except Fault Double
  | [] => .ok sum
  | d :: ds =>
    match Double.ofInt base with
    | .inf _ => .error .realTooLarge
    | b => realSixtieths (sum + d * b) (base * 60) ds

/-- A real number as it is written: the name for the value that is not a number, or a value. -/
inductive WrittenReal where
  | named
  | value (d : Double)

/-- Reads the text of a real number. -/
def realOf (s : Loose) : Except Fault WrittenReal := do
  let (negative, ps) ← signed (Loose.ofPoints (withoutBars s)).lowered.points
  let signOf (d : Double) := WrittenReal.value (if negative then -d else d)
  match Loose.ofPoints ps with
  | .whole ".inf" => return signOf (.inf false)
  | .whole ".nan" => return .named
  | _ =>
    if ps.contains (.char ':') then
      let parts ← (sixtiethPieces ps).mapM decimalReal
      return signOf (← realSixtieths .zero 1 parts.reverse)
    else return signOf (← decimalReal ps)

/-- Reads the text of a truth value. -/
def truthOf (s : Loose) : Except Fault Bool :=
  let word := s.lowered
  match word.whole?.bind fun w => Kind.truthWords.lookup w with
  | some b => .ok b
  | none => .error (.truth word)

/-- The value of a digit of base 64. -/
def base64Digit? (c : Char) : Option Nat :=
  if 'A' ≤ c && c ≤ 'Z' then some (c.toNat - 65)
  else if 'a' ≤ c && c ≤ 'z' then some (c.toNat - 97 + 26)
  else if '0' ≤ c && c ≤ '9' then some (c.toNat - 48 + 52)
  else if c = '+' then some 62
  else if c = '/' then some 63
  else none

/-- Reads digits of base 64, four for three bytes. `count` digits of a group were read, which
left `kept` bits, and `pads` pads after them. What is no digit is passed over. -/
def base64From (count kept pads : Nat) : List Char → Except Fault (List UInt8)
  | [] => if count = 0 then .ok [] else .error .malformed
  | c :: cs =>
    if c = '=' then
      if 2 ≤ count then
        if 4 ≤ count + pads + 1 then .ok [] else base64From count kept (pads + 1) cs
      else base64From count kept pads cs
    else
      match base64Digit? c with
      | none => base64From count kept pads cs
      | some d =>
        let more (b : Nat) (r : Except Fault (List UInt8)) : Except Fault (List UInt8) :=
          r.map (UInt8.ofNat b :: ·)
        match count with
        | 0 => base64From 1 d 0 cs
        | 1 => more (kept * 4 + d / 16) (base64From 2 (d % 16) 0 cs)
        | 2 => more (kept * 16 + d / 4) (base64From 3 (d % 4) 0 cs)
        | _ => more (kept * 64 + d) (base64From 0 0 0 cs)

/-- Reads bytes written in base 64. -/
def bytesOf (s : Loose) : Except Fault (List UInt8) :=
  match s with
  | .whole s =>
    if s.toList.all (·.toNat < 128) then base64From 0 0 0 s.toList else .error .malformed
  | .torn _ => .error .malformed

end LeakScan.Yaml
