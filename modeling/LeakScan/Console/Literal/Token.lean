import LeakScan.Number.Numeral
import LeakScan.Text.Printable

/-!
# Tokens of a literal

A literal is written in words, numbers, texts between quotes, brackets and signs. What goes wrong
here is found before the order of the tokens is looked at: texts that do not end, brackets that do
not close what is open, numbers with letters after them, and characters that stand for nothing.
-/

set_option autoImplicit false

namespace LeakScan.Console.Literal

/-- A token. A sign stands for an operation; a number has a count of digits if it is whole. -/
inductive Token where
  | word (name : String)
  | number (digits : Nat)
  | text
  | dots
  | opening (c : Char)
  | closing (c : Char)
  | comma
  | colon
  | point
  | equals
  | binding
  | sign (text : String)
  | stray
deriving DecidableEq, Repr

/-- A base that digits may be written in. -/
inductive Base where
  | binary
  | octal
  | decimal
  | hexadecimal
deriving DecidableEq, Repr

def Base.name : Base → String
  | binary => "binary"
  | octal => "octal"
  | decimal => "decimal"
  | hexadecimal => "hexadecimal"

/-- Whether a character is a digit of a base. -/
def Base.isDigit (c : Char) : Base → Bool
  | binary => c = '0' || c = '1'
  | octal => '0' ≤ c && c ≤ '7'
  | decimal => c.isDigit
  | hexadecimal => (Text.hexDigit? c).isSome

/-- Why a text is no literal. -/
inductive Fault where
  | malformed
  | neverClosed (opening : Char)
  | unmatched (closing : Char)
  | mismatched (closing opening : Char)
  | endlessText (line : Nat)
  | endlessLongText (line : Nat)
  | character (c : Char)
  | number (base : Base)
  | digit (c : Char) (base : Base)
  | imaginary
  | leadingZeros
  | backslash
  | notAscii
  | tooNested
  | tooLong (digits : Nat)
  | commaLeftOut
  | comparisonMeant
  | assigned (kind : String)
  | bound (kind : String)
  | bracketsLeftOut (name : String)
  | elseExpected
  | starred
  | doublyStarred
  | starredValue
  | nothingStarred
  | colonExpected
  | valueExpected
  | unhashable (kind : String)
  | keyLeftOut
deriving DecidableEq, Repr

/-- The characters that are neither letters nor digits, as closed ranges in ascending order. -/
def symbols : List (Nat × Nat) := [
  (0x80, 0xA9), (0xAB, 0xB4), (0xB6, 0xB6), (0xB8, 0xB9), (0xBB, 0xBF), (0xD7, 0xD7), (0xF7, 0xF7),
  (0x2C2, 0x2C5), (0x37E, 0x37E), (0x55A, 0x55F), (0x589, 0x58A), (0x5BE, 0x5BE), (0x60C, 0x60F),
  (0x61B, 0x61F), (0x964, 0x965), (0xE3F, 0xE3F), (0x2000, 0x203E), (0x2041, 0x2053),
  (0x2055, 0x2070), (0x207A, 0x207E), (0x208A, 0x208F), (0x20A0, 0x20CF), (0x2190, 0x2BFF),
  (0x2E00, 0x3004), (0x3008, 0x3020), (0x3030, 0x3030), (0x303D, 0x3040), (0x30A0, 0x30A0),
  (0x30FB, 0x30FB), (0xE000, 0xF8FF), (0xFE10, 0xFE1F), (0xFE30, 0xFE32), (0xFE35, 0xFE4C),
  (0xFE50, 0xFE6F), (0xFEFF, 0xFF0F), (0xFF1A, 0xFF20), (0xFF3B, 0xFF3E), (0xFF40, 0xFF40),
  (0xFF5B, 0xFF65), (0xFFE0, 0xFFFF), (0x1F000, 0x1FAFF), (0xE0000, 0xE00FF)]

/-- Whether a character may stand in a word. -/
def inWord (c : Char) : Bool :=
  c.isAlphanum || c = '_' ||
    (128 ≤ c.toNat && !symbols.any fun r => r.1 ≤ c.toNat && c.toNat ≤ r.2)

/-- What is said of a character that stands for nothing. -/
def characterMessage (c : Char) : String :=
  let digits := Nat.toDigits 16 c.toNat |>.map Char.toUpper
  let code := "U+" ++ String.ofList (List.replicate (4 - digits.length) '0' ++ digits)
  if Text.isPrintable c then
    "invalid character '" ++ String.ofList [c] ++ "' (" ++ code ++ ")"
  else "invalid non-printable character " ++ code

def Fault.message : Fault → String
  | malformed => "invalid syntax"
  | neverClosed c => "'" ++ String.ofList [c] ++ "' was never closed"
  | unmatched c => "unmatched '" ++ String.ofList [c] ++ "'"
  | mismatched c o =>
    "closing parenthesis '" ++ String.ofList [c] ++ "' does not match opening parenthesis '" ++
      String.ofList [o] ++ "'"
  | endlessText line =>
    "unterminated string literal (detected at line " ++ Numeral.ofInt line ++ ")"
  | endlessLongText line =>
    "unterminated triple-quoted string literal (detected at line " ++ Numeral.ofInt line ++ ")"
  | character c => characterMessage c
  | number base => "invalid " ++ base.name ++ " literal"
  | digit c base => "invalid digit '" ++ String.ofList [c] ++ "' in " ++ base.name ++ " literal"
  | imaginary => "invalid imaginary literal"
  | leadingZeros =>
    "leading zeros in decimal integer literals are not permitted; " ++
      "use an 0o prefix for octal integers"
  | backslash => "unexpected character after line continuation character"
  | notAscii => "bytes can only contain ASCII literal characters"
  | tooNested => "too many nested parentheses"
  | tooLong digits =>
    Numeral.tooLongMessage digits ++
      " - Consider hexadecimal for huge integer literals to avoid decimal conversion limits."
  | commaLeftOut => "invalid syntax. Perhaps you forgot a comma?"
  | comparisonMeant => "invalid syntax. Maybe you meant '==' or ':=' instead of '='?"
  | assigned kind =>
    "cannot assign to " ++ kind ++ " here. Maybe you meant '==' instead of '='?"
  | bound kind => "cannot use assignment expressions with " ++ kind
  | bracketsLeftOut name =>
    "Missing parentheses in call to '" ++ name ++ "'. Did you mean " ++ name ++ "(...)?"
  | elseExpected => "expected 'else' after 'if' expression"
  | starred => "cannot use starred expression here"
  | doublyStarred => "cannot use double starred expression here"
  | starredValue => "cannot use a starred expression in a dictionary value"
  | nothingStarred => "Invalid star expression"
  | colonExpected => "':' expected after dictionary key"
  | valueExpected => "expression expected after dictionary key and ':'"
  | unhashable kind => "unhashable type: '" ++ kind ++ "'"
  | keyLeftOut => "malformed node or string: None"

/-- Whether a fault is one of what a literal stands for, not of how it is written. -/
def Fault.isOfMeaning : Fault → Bool
  | unhashable _ | keyLeftOut => true
  | _ => false

/-! ## Numbers -/

/-- Takes digits of a base off, which single underscores may part. -/
def takeDigits (base : Base) (afterDigit : Bool) : List Char → Except Fault (List Char)
  | [] => if afterDigit then .ok [] else .error (.number base)
  | c :: cs =>
    if base.isDigit c then takeDigits base true cs
    else if c = '_' && afterDigit then takeDigits base false cs
    else if afterDigit then .ok (c :: cs)
    else if c.isDigit then .error (.digit c base)
    else .error (.number base)

/-- Takes digits off if one is next. -/
def takeAnyDigits (cs : List Char) : Except Fault (List Char) :=
  if cs.head?.any Char.isDigit then takeDigits .decimal false cs else .ok cs

/-- Takes an exponent off, if there is one. -/
def takeExponent : List Char → Except Fault (List Char)
  | e :: s :: c :: cs =>
    if e = 'e' || e = 'E' then
      if s.isDigit then takeDigits .decimal false (s :: c :: cs)
      else if (s = '+' || s = '-') && c.isDigit then takeDigits .decimal false (c :: cs)
      else .error (.number .decimal)
    else .ok (e :: s :: c :: cs)
  | [e, s] =>
    if e = 'e' || e = 'E' then
      if s.isDigit then .ok [] else .error (.number .decimal)
    else .ok [e, s]
  | cs => .ok cs

/-- The words that may follow a number at once. -/
def joiningWords : List String := ["and", "else", "for", "if", "in", "is", "not", "or"]

/-- Whether a word follows at once that may not. -/
def isRunOn (cs : List Char) : Bool :=
  let word := cs.takeWhile inWord
  !word.isEmpty && !joiningWords.any fun w => w.toList.isPrefixOf word

/-- Refuses a number of a base that a word follows at once. -/
def endNumber (base : Base) (cs : List Char) : Except Fault (List Char) :=
  if isRunOn cs then
    match cs.head?.filter Char.isDigit with
    | some c => .error (.digit c base)
    | none => .error (.number base)
  else .ok cs

/-- Takes what may follow the digits before the point of a number off. -/
def takeFraction (cs : List Char) : Except Fault (List Char) := do
  let cs ← match cs with
    | '.' :: cs => takeAnyDigits cs
    | cs => pure cs
  let cs ← takeExponent cs
  match cs with
  | 'j' :: cs | 'J' :: cs => if isRunOn cs then .error .imaginary else .ok cs
  | cs => endNumber .decimal cs

/-- Whether a number goes on after the digits before its point. -/
def goesOn (cs : List Char) : Bool :=
  match cs with
  | c :: _ => ['.', 'e', 'E', 'j', 'J'].contains c
  | [] => false

/-- Takes a number off that begins with a digit. -/
def takeNumber : List Char → Except Fault (List Char)
  | '0' :: c :: cs =>
    let prefixed (base : Base) : Except Fault (List Char) := do
      let cs := match cs with
        | '_' :: cs => cs
        | cs => cs
      endNumber base (← takeDigits base false cs)
    if c = 'x' || c = 'X' then prefixed .hexadecimal
    else if c = 'o' || c = 'O' then prefixed .octal
    else if c = 'b' || c = 'B' then prefixed .binary
    else do
      let rest ← takeDigits .decimal false ('0' :: c :: cs)
      let zeros := (c :: cs).dropWhile fun c => c = '0' || c = '_'
      if zeros.head?.any Char.isDigit && !goesOn rest then throw .leadingZeros
      takeFraction rest
  | cs => do takeFraction (← takeDigits .decimal false cs)

/-! ## Texts -/

/-- Takes a text off up to its quote. -/
def takeText (quote : Char) (ascii : Bool) (line : Nat) : List Char → Except Fault (List Char)
  | [] => .error (.endlessText line)
  | '\\' :: _ :: cs => takeText quote ascii line cs
  | c :: cs =>
    if c = quote then .ok cs
    else if c = '\n' then .error (.endlessText line)
    else if ascii && 128 ≤ c.toNat then .error .notAscii
    else takeText quote ascii line cs

/-- Takes a text off up to three of its quotes; it may have several lines. -/
def takeLongText (quote : Char) (ascii : Bool) (line : Nat) : List Char → Except Fault (List Char)
  | [] => .error (.endlessLongText line)
  | '\\' :: _ :: cs => takeLongText quote ascii line cs
  | c :: cs =>
    if c = quote && [quote, quote].isPrefixOf cs then .ok (cs.drop 2)
    else if ascii && 128 ≤ c.toNat then .error .notAscii
    else takeLongText quote ascii (if c = '\n' then line + 1 else line) cs

/-- Takes a text off after its first quote. -/
def takeQuoted (quote : Char) (ascii : Bool) (line : Nat) (cs : List Char) :
    Except Fault (List Char) :=
  if [quote, quote].isPrefixOf cs then takeLongText quote ascii line (cs.drop 2)
  else takeText quote ascii line cs

/-- What may stand before the quote of a text, in small letters. -/
def textMarks : List String := ["r", "u", "b", "f", "br", "rb", "fr", "rf"]

/-! ## Tokens -/

/-- The bracket that closes one. -/
def closingOf (c : Char) : Char := if c = '(' then ')' else '\x7d'

/-- The token of a character that is one on its own, if it is. -/
def signOf? (c : Char) : Option Token :=
  if c = ',' then some .comma
  else if c = ':' then some .colon
  else if ['+', '-', '~', '*', '/', '%', '@', '|', '&', '^', '<', '>'].contains c then
    some (.sign (String.ofList [c]))
  else if c = '.' then some .point
  else if [';', '!', '?', '$', '\x60'].contains c then some .stray
  else none

/-- The operations of two characters. -/
def pairsOfSigns : List String := ["==", "!=", "<=", ">=", "**", "//", "<<", ">>"]

/-- The signs of assignments and arrows, none of which stands in a literal. -/
def straySigns : List String :=
  ["**=", "//=", "<<=", ">>=", "+=", "-=", "*=", "/=", "%=", "@=", "|=", "&=", "^=", "->", "<>"]

/-- How deep brackets may stand in each other. -/
def maxNesting : Nat := 200

/-- The token of a number between a place and a later one. -/
def numberToken (start rest : List Char) : Token :=
  let written := (start.take (start.length - rest.length)).filter (· != '_')
  .number (if written.all Char.isDigit then (written.dropWhile (· = '0')).length else 0)

/-- The tokens of a text; `line` is the number of its line and `around` holds the brackets that
are open, the last first. What is still open at the end is given too. -/
def tokensFrom : (steps : Nat) → (line : Nat) → (around : List Char) → List Char →
    Except Fault (List Token × List Char)
  | 0, _, around, _ => .ok ([], around)
  | _, _, around, [] => .ok ([], around)
  | steps + 1, line, around, c :: cs =>
    let add (t : Token) (r : Except Fault (List Token × List Char)) :=
      r.map fun (ts, around) => (t :: ts, around)
    let next := tokensFrom steps
    if c = ' ' || c = '\t' || c = '\x0c' then next line around cs
    else if c = '\n' then
      if around.isEmpty then add .stray (next (line + 1) around cs) else next (line + 1) around cs
    else if c = '#' then next line around (cs.dropWhile (· != '\n'))
    else if c = '\\' then
      match cs with
      | '\n' :: cs => next (line + 1) around cs
      | _ => .error .backslash
    else if c = '(' || c = '\x7b' then
      if maxNesting ≤ around.length then .error .tooNested
      else add (.opening c) (next line (c :: around) cs)
    else if c = ')' || c = '\x7d' then
      match around with
      | [] => .error (.unmatched c)
      | o :: around =>
        if closingOf o = c then add (.closing c) (next line around cs)
        else .error (.mismatched c o)
    else if c = '"' || c = '\'' then
      match takeQuoted c false line cs with
      | .ok rest => add .text (next line around rest)
      | .error e => .error e
    else if c.isDigit || (c = '.' && cs.head?.any Char.isDigit) then
      match takeNumber (if c = '.' then '0' :: c :: cs else c :: cs) with
      | .ok rest => add (numberToken (c :: cs) rest) (next line around rest)
      | .error e => .error e
    else if inWord c then
      let word := String.ofList ((c :: cs).takeWhile inWord)
      let mark := word.toLower
      match (c :: cs).dropWhile inWord with
      | [] => add (.word word) (next line around [])
      | q :: rest =>
        if (q = '"' || q = '\'') && textMarks.contains mark then
          match takeQuoted q (mark.contains 'b') line rest with
          | .ok rest => add .text (next line around rest)
          | .error e => .error e
        else if 128 ≤ q.toNat then .error (.character q)
        else add (.word word) (next line around (q :: rest))
    else if [c, '.', '.'] = ['.', '.', '.'] && ['.', '.'].isPrefixOf cs then
      add .dots (next line around (cs.drop 2))
    else if let some s := straySigns.find? (·.toList.isPrefixOf (c :: cs)) then
      add .stray (next line around (cs.drop (s.length - 1)))
    else if pairsOfSigns.contains (String.ofList (c :: cs.take 1)) then
      add (.sign (String.ofList (c :: cs.take 1))) (next line around (cs.drop 1))
    else if [':', '='].isPrefixOf (c :: cs) then add .binding (next line around (cs.drop 1))
    else if c = '=' then add .equals (next line around cs)
    else
      match signOf? c with
      | some t => add t (next line around cs)
      | none => .error (.character c)

/-- The tokens of a text, and the bracket that was opened last of those that stay open. -/
def tokens (cs : List Char) : Except Fault (List Token × Option Char) := do
  let (ts, around) ← tokensFrom (cs.length + 1) 1 [] cs
  return (ts, around.head?)

end LeakScan.Console.Literal
