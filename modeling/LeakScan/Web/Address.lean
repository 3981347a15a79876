import LeakScan.Text.Part
import LeakScan.Text.Utf8

/-!
# Addresses of requests

The target of a request is a path and perhaps, after a question mark, a query of names and values.
In both a percent sign and two hexadecimal digits stand for a byte; in a query a plus stands for a
space, and what is not escaped is read byte by byte.
-/

set_option autoImplicit false

namespace LeakScan.Web

/-- Reads the bytes that percent signs announce, and the rest of the text. -/
def percentBytes : List Char → List UInt8 × List Char
  | '%' :: a :: b :: cs =>
    match Text.hexDigit? a, Text.hexDigit? b with
    | some x, some y =>
      let (bytes, rest) := percentBytes cs
      (UInt8.ofNat (16 * x + y) :: bytes, rest)
    | _, _ => ([], '%' :: a :: b :: cs)
  | cs => ([], cs)

/-- A text with its percent signs read, in at most `steps` steps. -/
def unescapedFrom : (steps : Nat) → List Char → List Char
  | 0, cs => cs
  | _ + 1, [] => []
  | steps + 1, c :: cs =>
    match percentBytes (c :: cs) with
    | ([], _) => c :: unescapedFrom steps cs
    | (bytes, rest) => Text.Utf8.repaired (bytes.length + 1) bytes ++ unescapedFrom steps rest

/-- A text with its percent signs read. -/
def unescaped (cs : List Char) : List Char := unescapedFrom cs.length cs

/-- The bytes of a text, each as the character of its number. -/
def byteChars (s : String) : List Char :=
  s.toUTF8.toList.map fun b => Char.ofNat b.toNat

/-- A name or value of a query. -/
def queryText (cs : List Char) : String :=
  String.ofList (unescaped (cs.map fun c => if c = '+' then ' ' else c))

/-- A name of a query with its value, which is empty where none is given. -/
def queryField (cs : List Char) : String × String :=
  (queryText (cs.takeWhile (· != '=')), queryText ((cs.dropWhile (· != '=')).drop 1))

/-- Where a request goes: the decoded path, and the fields of the query. -/
structure Address where
  path : String
  query : List (String × String)
deriving Repr

namespace Address

/-- The address that a target gives. -/
def ofTarget (s : String) : Address :=
  let cs := s.toList
  let query := byteChars (String.ofList ((cs.dropWhile (· != '?')).drop 1))
  { path := String.ofList (unescaped (cs.takeWhile (· != '?')))
    query := ((Text.split '&' query).filter (!·.isEmpty)).map queryField }

/-- The last value that a query gives a name. -/
def value? (a : Address) (name : String) : Option String :=
  (a.query.reverse.find? (·.1 = name)).map (·.2)

end Address
end LeakScan.Web
