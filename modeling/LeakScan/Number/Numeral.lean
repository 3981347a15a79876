import LeakScan.Number.Double
import LeakScan.Text.Blank
import LeakScan.Text.Digit
import LeakScan.Text.Quoted

/-!
# Numerals

The texts of numbers. An integer is written in base ten. It is read from a text with optional
blanks around it, an optional sign, and digits of any script with single underscores between
them; one of more than `maxDigits` digits is refused, whatever follows them, and is not written
either. A floating-point value is read from the same digits with a point and an exponent, or from
the words for infinity and for the value that is not a number, in any case. Of the blanks in ASCII
only the space, the tab and the line breaks may surround a numeral.
-/

set_option autoImplicit false

namespace LeakScan.Numeral

/-- The number of digits an integer's text may have. -/
def maxDigits : Nat := 4300

/-- Why a text is not the text of an integer. -/
inductive Fault where
  | malformed
  | tooLong (digits : Nat)
deriving DecidableEq, Repr

/-- The text of an integer, with a minus sign for a negative one. -/
def ofInt (i : Int) : String :=
  String.ofList (if i < 0 then '-' :: Nat.toDigits 10 i.natAbs else Nat.toDigits 10 i.natAbs)

/-- The text of an integer, unless it has more than `maxDigits` digits. -/
def ofInt? (i : Int) : Option String :=
  if Nat.pow 10 maxDigits ≤ i.natAbs then none else some (ofInt i)

/-- What is said first of an integer with too many digits. -/
def limitText : String :=
  "Exceeds the limit (" ++ ofInt maxDigits ++ " digits) for integer string conversion"

/-- What is said of an integer that has too many digits to be written. -/
def tooWideMessage : String :=
  limitText ++ "; use sys.set_int_max_str_digits() to increase the limit"

/-- What is said of a text that has too many digits to be read. -/
def tooLongMessage (digits : Nat) : String :=
  limitText ++ ": value has " ++ ofInt digits ++
    " digits; use sys.set_int_max_str_digits() to increase the limit"

/-- What is said of a text that is no integer of a base; a long text is cut. -/
def malformedMessage (base : Nat) (s : Text.Loose) : String :=
  "invalid literal for int() with base " ++ ofInt base ++ ": " ++
    String.ofList (s.quoted.toList.take 200)

/-- Writes the digits of other scripts as ASCII digits and the blanks outside ASCII as spaces. -/
def folded (cs : List Char) : List Char :=
  cs.map fun c =>
    if c.toNat < 128 then c
    else if Text.isBlank c then ' '
    else match Text.digitValue? c with
      | some d => Char.ofNat (48 + d)
      | none => c

/-- A numeral without the blanks around it. -/
def trimmed (s : String) : List Char :=
  Text.stripWhile Text.isAsciiBlank (folded s.toList)

/-- Takes a leading sign off: whether it was a minus, and the rest. -/
def splitSign : List Char → Bool × List Char
  | '-' :: cs => (true, cs)
  | '+' :: cs => (false, cs)
  | cs => (false, cs)

/-- Reads digits with single underscores between them: the value and the number of digits.
`afterDigit` says that the last character read was a digit. -/
def digits? (afterDigit : Bool) (value count : Nat) : List Char → Option (Nat × Nat)
  | [] => if afterDigit then some (value, count) else none
  | '_' :: cs => if afterDigit then digits? false value count cs else none
  | c :: cs =>
    match Text.asciiDigit? c with
    | some d => digits? true (10 * value + d) (count + 1) cs
    | none => none

/-- Whether a character is an ASCII digit or an underscore. -/
def isDigitOrBar (c : Char) : Bool := c.isDigit || c = '_'

/-- Reads an integer. Its digits are counted before what follows them is looked at. -/
def toInt (s : String) : Except Fault Int :=
  let (negative, cs) := splitSign ((folded s.toList).dropWhile Text.isAsciiBlank)
  match digits? false 0 0 (cs.takeWhile isDigitOrBar) with
  | none => .error .malformed
  | some (value, count) =>
    if maxDigits < count then .error (.tooLong count)
    else if (cs.dropWhile isDigitOrBar).all Text.isAsciiBlank then
      .ok (if negative then -(value : Int) else value)
    else .error .malformed

/-- Takes out the underscores that stand between two digits; another underscore is a fault.
`previous` is the character before. -/
def ungrouped? (previous : Char) : List Char → Option (List Char)
  | [] => if previous = '_' then none else some []
  | c :: cs =>
    if c = '_' then
      if previous.isDigit then ungrouped? c cs else none
    else if previous = '_' && !c.isDigit then none
    else (ungrouped? c cs).map (c :: ·)

/-- The value of a run of ASCII digits. -/
def value (cs : List Char) : Nat :=
  cs.foldl (fun n c => 10 * n + (c.toNat - 48)) 0

/-- Reads `digits[.digits][e[sign]digits]`, with a digit before the exponent. -/
def decimal? (negative : Bool) (cs : List Char) : Option Double :=
  let whole := cs.takeWhile Char.isDigit
  let rest := cs.dropWhile Char.isDigit
  let (fraction, rest) := match rest with
    | '.' :: r => (r.takeWhile Char.isDigit, r.dropWhile Char.isDigit)
    | r => ([], r)
  if whole.isEmpty && fraction.isEmpty then none else
  let significand := value (whole ++ fraction)
  let scale : Int := -(fraction.length : Int)
  match rest with
  | [] => some (.ofDecimal negative significand scale)
  | c :: r =>
    if c != 'e' && c != 'E' then none else
    let (down, ds) := splitSign r
    if ds.isEmpty || !ds.all Char.isDigit then none
    else
      let exponent : Int := if down then -(value ds : Int) else value ds
      some (.ofDecimal negative significand (scale + exponent))

/-- Reads a floating-point value. -/
def toDouble? (s : String) : Option Double :=
  match ungrouped? 'x' (trimmed s) with
  | none => none
  | some cs =>
    let (negative, cs) := splitSign cs
    let word := String.ofList (cs.map Char.toLower)
    if word = "inf" || word = "infinity" then some (.inf negative)
    else if word = "nan" then some .nan
    else decimal? negative cs

example : (toInt " +1_000\n").toOption = some 1000 ∧ (toInt "٣").toOption = some 3 ∧
    (toInt "1__0").toOption = none ∧ (toInt "1 2").toOption = none := by decide +kernel

end LeakScan.Numeral
