import LeakScan.Json.Basic

/-!
# Writing JSON

A JSON text is written in ASCII. Quotes, backslashes and the common control characters are
escaped by a letter, every other character outside the printing ones of ASCII by its UTF-16
units in four hexadecimal digits each. The indented form puts every item and field on a line of
its own, two spaces further in than what holds it; the one-line form separates by a space.
-/

set_option autoImplicit false

namespace LeakScan.Json

/-- The escape of one UTF-16 unit. -/
def escapedUnit (n : Nat) : List Char :=
  '\\' :: 'u' :: Text.hexDigits 4 n

/-- How a character is written inside a JSON text. -/
def escapedChar (c : Char) : List Char :=
  if c = '"' then ['\\', '"']
  else if c = '\\' then ['\\', '\\']
  else if c = '\n' then ['\\', 'n']
  else if c = '\r' then ['\\', 'r']
  else if c = '\t' then ['\\', 't']
  else if c = '\x08' then ['\\', 'b']
  else if c = '\x0c' then ['\\', 'f']
  else if 32 ≤ c.toNat && c.toNat ≤ 126 then [c]
  else if c.toNat < 0x10000 then escapedUnit c.toNat
  else
    let n := c.toNat - 0x10000
    escapedUnit (0xD800 + n / 0x400) ++ escapedUnit (0xDC00 + n % 0x400)

/-- How a code point is written inside a JSON text. -/
def escapedPoint : Text.CodePoint → List Char
  | .char c => escapedChar c
  | .half n => escapedUnit n

/-- A text between double quotes. -/
def quotedText : Text.Loose → List Char
  | .whole s => '"' :: s.toList.flatMap escapedChar ++ ['"']
  | .torn ps => '"' :: ps.flatMap escapedPoint ++ ['"']

/-- The text of a floating-point value; the values without a numeral have a name. -/
def doubleText : Double → String
  | .nan => "NaN"
  | .inf n => if n then "-Infinity" else "Infinity"
  | d => d.text

/-- A line break and the indentation of a level. -/
def newline (level : Nat) : List Char :=
  '\n' :: List.replicate (2 * level) ' '

mutual

/-- The indented form of a value that stands at a level. -/
def indentedAt (level : Nat) : Json → List Char
  | null => "null".toList
  | bool b => if b then "true".toList else "false".toList
  | int i => (Numeral.ofInt i).toList
  | num d => (doubleText d).toList
  | str s => quotedText s
  | arr [] => ['[', ']']
  | arr items => '[' :: indentedItems (level + 1) items ++ newline level ++ [']']
  | obj [] => ['\x7b', '\x7d']
  | obj fields => '\x7b' :: indentedFields (level + 1) fields ++ newline level ++ ['\x7d']

/-- Items, each on its line. -/
def indentedItems (level : Nat) : List Json → List Char
  | [] => []
  | [v] => newline level ++ indentedAt level v
  | v :: w :: items =>
    newline level ++ indentedAt level v ++ ',' :: indentedItems level (w :: items)

/-- Fields, each on its line. -/
def indentedFields (level : Nat) : List (Text.Loose × Json) → List Char
  | [] => []
  | [(k, v)] => newline level ++ quotedText k ++ ':' :: ' ' :: indentedAt level v
  | (k, v) :: f :: fields =>
    newline level ++ quotedText k ++ ':' :: ' ' :: indentedAt level v ++
      ',' :: indentedFields level (f :: fields)

end

/-- The indented form of a value. -/
def indented (v : Json) : String :=
  String.ofList (indentedAt 0 v)

mutual

/-- The one-line form of a value. -/
def onLine : Json → List Char
  | null => "null".toList
  | bool b => if b then "true".toList else "false".toList
  | int i => (Numeral.ofInt i).toList
  | num d => (doubleText d).toList
  | str s => quotedText s
  | arr items => '[' :: onLineItems items ++ [']']
  | obj fields => '\x7b' :: onLineFields fields ++ ['\x7d']

/-- Items after one another. -/
def onLineItems : List Json → List Char
  | [] => []
  | [v] => onLine v
  | v :: w :: items => onLine v ++ ',' :: ' ' :: onLineItems (w :: items)

/-- Fields after one another. -/
def onLineFields : List (Text.Loose × Json) → List Char
  | [] => []
  | [(k, v)] => quotedText k ++ ':' :: ' ' :: onLine v
  | (k, v) :: f :: fields =>
    quotedText k ++ ':' :: ' ' :: onLine v ++ ',' :: ' ' :: onLineFields (f :: fields)

end

/-- The one-line form of a value. -/
def line (v : Json) : String :=
  String.ofList (onLine v)

end LeakScan.Json
