import LeakScan.Text.Digit
import LeakScan.Text.Loose
import LeakScan.Text.Printable

/-!
# Quoted texts

Error messages show a text between quotes. Single quotes are used unless the text holds one
and no double quote. The quote in use and the backslash get a backslash before them, the
common control characters their letter, and any other character that does not print its code
point in as few of two, four or eight hexadecimal digits as hold it. Half of a surrogate pair does
not print either.
-/

set_option autoImplicit false

namespace LeakScan.Text

/-- The quote a text is shown in. -/
def quoteFor (cs : List Char) : Char :=
  if cs.contains '\'' && !cs.contains '"' then '"' else '\''

/-- How the number of a code point shows where the code point does not print. -/
def escapedNumber (n : Nat) : List Char :=
  if n < 0x100 then '\\' :: 'x' :: hexDigits 2 n
  else if n < 0x10000 then '\\' :: 'u' :: hexDigits 4 n
  else '\\' :: 'U' :: hexDigits 8 n

/-- How one character shows between `quote`s. -/
def quoteChar (quote c : Char) : List Char :=
  if c = quote || c = '\\' then ['\\', c]
  else if c = '\n' then ['\\', 'n']
  else if c = '\r' then ['\\', 'r']
  else if c = '\t' then ['\\', 't']
  else if isPrintable c then [c]
  else escapedNumber c.toNat

/-- How one code point shows between `quote`s. -/
def quotePoint (quote : Char) : CodePoint → List Char
  | .char c => quoteChar quote c
  | .half n => escapedNumber n

/-- A text between quotes, with escapes. -/
def quoted (s : String) : String :=
  let quote := quoteFor s.toList
  String.ofList (quote :: s.toList.flatMap (quoteChar quote) ++ [quote])

/-- A loose text between quotes, with escapes. -/
def Loose.quoted : Loose → String
  | whole s => Text.quoted s
  | torn ps =>
    let quote := quoteFor (ps.filterMap CodePoint.char?)
    String.ofList (quote :: ps.flatMap (quotePoint quote) ++ [quote])

example : quoted "it's" = "\"it's\"" ∧ quoted "a\n\x7f" = "'a\\n\\x7f'" := by decide +kernel

example : (Loose.ofPoints [.ofNat 0xd83d, .ofNat 0x61]).quoted = "'\\ud83da'" := by decide +kernel

end LeakScan.Text
