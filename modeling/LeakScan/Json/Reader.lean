import LeakScan.Json.Basic

/-!
# Reading JSON

A reader of JSON texts. Blanks are the space, the tab and the two line breaks. Besides the
standard it accepts the names of the floating-point values without a numeral, and it takes the
last of several values of a key. An integer's numeral may have `Numeral.maxDigits` digits, and
lists and objects may stand `maxNesting` deep inside one another. Half of a surrogate pair on its
own tears the text that it stands in.

Every call of the recursive readers takes at least one character off the text, so the length of
the text bounds their steps.
-/

set_option autoImplicit false

namespace LeakScan.Json

/-- Why a text is not read: it is no JSON, it holds an integer of too many digits, or a list or
object in it stands too deep. -/
inductive Fault where
  | malformed
  | tooLong (digits : Nat)
  | tooDeep (isObject : Bool)
deriving DecidableEq, Repr

/-- How deep lists and objects may stand inside one another. -/
def maxNesting : Nat := 988

/-- What is said of a fault, where something is said. -/
def Fault.message : Fault → Option String
  | malformed => none
  | tooLong digits => some (Numeral.tooLongMessage digits)
  | tooDeep isObject =>
    some ("maximum recursion depth exceeded while decoding a JSON " ++
      (if isObject then "object" else "array") ++ " from a unicode string")

def isJsonBlank (c : Char) : Bool :=
  c = ' ' || c = '\t' || c = '\n' || c = '\r'

/-- Drops the blanks at the front. -/
def skipBlanks (cs : List Char) : List Char :=
  cs.dropWhile isJsonBlank

/-- The value of four hexadecimal digits. -/
def unit? (a b c d : Char) : Option Nat := do
  let a ← Text.hexDigit? a
  let b ← Text.hexDigit? b
  let c ← Text.hexDigit? c
  let d ← Text.hexDigit? d
  return ((a * 16 + b) * 16 + c) * 16 + d

/-- The character a letter stands for after a backslash. -/
def unescaped? : Char → Option Char
  | '"' => some '"'
  | '\\' => some '\\'
  | '/' => some '/'
  | 'b' => some '\x08'
  | 'f' => some '\x0c'
  | 'n' => some '\n'
  | 'r' => some '\r'
  | 't' => some '\t'
  | _ => none

/-- Reads a text up to its closing quote, as code points and escaped units; `acc` holds those
before, last first. -/
def units (acc : List Nat) : List Char → Except Fault (List Nat × List Char)
  | [] => .error .malformed
  | '"' :: cs => .ok (acc.reverse, cs)
  | '\\' :: 'u' :: a :: b :: c :: d :: cs =>
    match unit? a b c d with
    | some n => units (n :: acc) cs
    | none => .error .malformed
  | '\\' :: e :: cs =>
    match unescaped? e with
    | some c => units (c.toNat :: acc) cs
    | none => .error .malformed
  | c :: cs =>
    if c.toNat < 32 || c = '\\' then .error .malformed else units (c.toNat :: acc) cs

/-- Reads a text after its opening quote. -/
def text (cs : List Char) : Except Fault (Text.Loose × List Char) := do
  let (ns, cs) ← units [] cs
  return (.ofPoints (Text.CodePoint.joined ns), cs)

/-- Splits off a fraction: a point with digits after it. -/
def splitFraction : List Char → List Char × List Char
  | '.' :: cs =>
    let ds := cs.takeWhile Char.isDigit
    if ds.isEmpty then ([], '.' :: cs) else ('.' :: ds, cs.dropWhile Char.isDigit)
  | cs => ([], cs)

/-- Splits off an exponent: its letter, a sign if there is one, and digits. -/
def splitExponent : List Char → List Char × List Char
  | [] => ([], [])
  | c :: cs =>
    if c = 'e' || c = 'E' then
      let (sign, r) := match cs with
        | '+' :: r => (['+'], r)
        | '-' :: r => (['-'], r)
        | r => ([], r)
      let ds := r.takeWhile Char.isDigit
      if ds.isEmpty then ([], c :: cs) else (c :: sign ++ ds, r.dropWhile Char.isDigit)
    else ([], c :: cs)

/-- Splits off the digits of a whole number: a zero alone, or digits that do not start with
one. -/
def splitWhole : List Char → List Char × List Char
  | '0' :: cs => (['0'], cs)
  | cs => (cs.takeWhile Char.isDigit, cs.dropWhile Char.isDigit)

/-- Reads a number after its sign. -/
def number (negative : Bool) (cs : List Char) : Except Fault (Json × List Char) :=
  let (whole, cs) := splitWhole cs
  if whole.isEmpty then .error .malformed else
  let (fraction, cs) := splitFraction cs
  let (exponent, cs) := splitExponent cs
  if fraction.isEmpty && exponent.isEmpty then
    if Numeral.maxDigits < whole.length then .error (.tooLong whole.length)
    else
      let n := Numeral.value whole
      .ok (.int (if negative then -(n : Int) else n), cs)
  else
    match Numeral.decimal? negative (whole ++ fraction ++ exponent) with
    | some d => .ok (.num d, cs)
    | none => .error .malformed

/-- Takes a word off the front. -/
def after? (word cs : List Char) : Option (List Char) :=
  if word.isPrefixOf cs then some (cs.drop word.length) else none

/-- Reads a value that is not a text, a list or an object. -/
def scalar (cs : List Char) : Except Fault (Json × List Char) :=
  if let some r := after? "null".toList cs then .ok (.null, r)
  else if let some r := after? "true".toList cs then .ok (.bool true, r)
  else if let some r := after? "false".toList cs then .ok (.bool false, r)
  else if let some r := after? "NaN".toList cs then .ok (.num .nan, r)
  else if let some r := after? "Infinity".toList cs then .ok (.num (.inf false), r)
  else if let some r := after? "-Infinity".toList cs then .ok (.num (.inf true), r)
  else match cs with
    | '-' :: cs => number true cs
    | cs => number false cs

mutual

/-- Reads a value, in which lists and objects may stand `room` deep. -/
def value (room : Nat) : (steps : Nat) → List Char → Except Fault (Json × List Char)
  | 0, _ => .error .malformed
  | _ + 1, '"' :: cs => do
    let (s, cs) ← text cs
    return (.str s, cs)
  | steps + 1, '[' :: cs =>
    match room with
    | 0 => .error (.tooDeep false)
    | room + 1 =>
      match skipBlanks cs with
      | ']' :: cs => .ok (.arr [], cs)
      | cs => items room steps [] cs
  | steps + 1, '\x7b' :: cs =>
    match room with
    | 0 => .error (.tooDeep true)
    | room + 1 =>
      match skipBlanks cs with
      | '\x7d' :: cs => .ok (.obj [], cs)
      | cs => fields room steps [] cs
  | _ + 1, cs => scalar cs

/-- Reads the items of a list from one on; `acc` holds those before, last first. -/
def items (room : Nat) : (steps : Nat) → (acc : List Json) → List Char →
    Except Fault (Json × List Char)
  | 0, _, _ => .error .malformed
  | steps + 1, acc, cs => do
    let (v, cs) ← value room steps cs
    match skipBlanks cs with
    | ',' :: cs => items room steps (v :: acc) (skipBlanks cs)
    | ']' :: cs => return (.arr (v :: acc).reverse, cs)
    | _ => .error .malformed

/-- Reads the fields of an object from one on; `acc` holds those before. -/
def fields (room : Nat) : (steps : Nat) → (acc : Fields) → List Char →
    Except Fault (Json × List Char)
  | 0, _, _ => .error .malformed
  | steps + 1, acc, '"' :: cs => do
    let (key, cs) ← text cs
    match skipBlanks cs with
    | ':' :: cs =>
      let (v, cs) ← value room steps (skipBlanks cs)
      match skipBlanks cs with
      | ',' :: cs => fields room steps (insert key v acc) (skipBlanks cs)
      | '\x7d' :: cs => return (.obj (insert key v acc), cs)
      | _ => .error .malformed
    | _ => .error .malformed
  | _ + 1, _, _ => .error .malformed

end

/-- Reads a whole text as one value with blanks around it. -/
def ofText (s : String) : Except Fault Json := do
  let cs := s.toList
  let (v, rest) ← value maxNesting (cs.length + 1) (skipBlanks cs)
  if (skipBlanks rest).isEmpty then return v else .error .malformed

end LeakScan.Json
