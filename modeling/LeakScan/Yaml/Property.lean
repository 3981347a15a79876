import LeakScan.Text.Utf8
import LeakScan.Yaml.Scalar

/-!
# Anchors, tags and directives

An anchor or alias is a name. A tag is a handle, which a directive or the standard gives a meaning,
and a suffix; without a handle the suffix is the whole tag. A directive stands on a line of its own
before a document.
-/

set_option autoImplicit false

namespace LeakScan.Yaml

/-- A tag as it is written. -/
structure WrittenTag where
  handle : Option String
  suffix : String
deriving DecidableEq, Repr

/-- A directive: the version of the language, the meaning of a handle, or one that is not known. -/
inductive Directive where
  | version (major : Nat)
  | handle (handle meaning : String)
  | unknown
deriving DecidableEq, Repr

/-- The characters of names. -/
def isNameChar (c : Char) : Bool :=
  c.isAlphanum || c = '-' || c = '_'

/-- Splits off a name. -/
def name (cs : List Char) : Except Fault (String × List Char) :=
  let name := cs.takeWhile isNameChar
  if name.isEmpty then .error .malformed
  else .ok (String.ofList name, cs.dropWhile isNameChar)

/-- The marks that may follow the name of an anchor or alias. -/
def anchorEnds : List Char := ['?', ':', ',', ']', '\x7d', '%', '@', Char.ofNat 96]

/-- Reads the name of an anchor or alias. -/
def anchorName (cs : List Char) : Except Fault (String × List Char) := do
  let (name, cs) ← name cs
  if endsWord cs.head? || cs.head?.any anchorEnds.contains then .ok (name, cs)
  else .error .malformed

/-- The characters of the addresses that tags are, the percent sign among them. -/
def isUriChar (c : Char) : Bool :=
  c.isAlphanum || "-;/?:@&=+$,_.!~*'()[]%".toList.contains c

/-- Reads bytes, each a percent sign and two hexadecimal digits. -/
def escapedBytes : List Char → Except Fault (List UInt8 × List Char)
  | '%' :: a :: b :: cs =>
    match Text.hexDigit? a, Text.hexDigit? b with
    | some x, some y =>
      match escapedBytes cs with
      | .ok (bytes, rest) => .ok (UInt8.ofNat (16 * x + y) :: bytes, rest)
      | .error e => .error e
    | _, _ => .error .malformed
  | '%' :: _ => .error .malformed
  | cs => .ok ([], cs)

/-- Reads the characters of an address; escaped bytes are the UTF-8 form of characters. -/
def uriChars : (steps : Nat) → List Char → Except Fault (List Char × List Char)
  | 0, cs => .ok ([], cs)
  | _ + 1, [] => .ok ([], [])
  | steps + 1, c :: cs =>
    if c = '%' then do
      let (bytes, rest) ← escapedBytes (c :: cs)
      match Text.Utf8.decode ⟨bytes.toArray⟩ with
      | .ok s =>
        let (text, rest) ← uriChars steps rest
        return (s.toList ++ text, rest)
      | .error _ => .error .malformed
    else if isUriChar c then do
      let (text, rest) ← uriChars steps cs
      return (c :: text, rest)
    else .ok ([], c :: cs)

/-- Reads an address, which is not empty. -/
def uri (cs : List Char) : Except Fault (String × List Char) := do
  let (text, rest) ← uriChars cs.length cs
  if text.isEmpty then .error .malformed else .ok (String.ofList text, rest)

/-- Reads the handle of a tag: an exclamation mark, or a name between two. -/
def tagHandle : List Char → Except Fault (String × List Char)
  | '!' :: cs =>
    if cs.head? = some ' ' then .ok ("!", cs)
    else
      match cs.dropWhile isNameChar with
      | '!' :: rest => .ok ("!" ++ String.ofList (cs.takeWhile isNameChar) ++ "!", rest)
      | _ => .error .malformed
  | _ => .error .malformed

/-- Whether a tag names a handle: another exclamation mark follows the first in its field. -/
def namesHandle (cs : List Char) : Bool :=
  (cs.takeWhile fun c => !(c = ' ' || isBreak c)).contains '!'

/-- Reads a tag after its exclamation mark. -/
def tagAfterMark (cs : List Char) : Except Fault (WrittenTag × List Char) :=
  match cs with
  | '<' :: rest => do
    let (suffix, rest) ← uri rest
    match rest with
    | '>' :: rest => .ok (⟨none, suffix⟩, rest)
    | _ => .error .malformed
  | cs =>
    if endsWord cs.head? then .ok (⟨none, "!"⟩, cs)
    else if namesHandle cs then do
      let (handle, rest) ← tagHandle ('!' :: cs)
      let (suffix, rest) ← uri rest
      return (⟨some handle, suffix⟩, rest)
    else do
      let (suffix, rest) ← uri cs
      return (⟨some "!", suffix⟩, rest)

/-- Reads a tag after its exclamation mark; a space or the end of the line follows it. -/
def tag (cs : List Char) : Except Fault (WrittenTag × List Char) := do
  let (tag, rest) ← tagAfterMark cs
  if endsField rest.head? then .ok (tag, rest) else .error .malformed

/-- Splits off spaces. -/
def skipSpaces (cs : List Char) : List Char := cs.dropWhile (· = ' ')

/-- Splits off a number, which may not be too long. -/
def versionNumber (cs : List Char) : Except Fault (Nat × List Char) :=
  let digits := cs.takeWhile Char.isDigit
  if digits.isEmpty then .error .malformed
  else if Numeral.maxDigits < digits.length then .error (.integerTooLong digits.length)
  else .ok (Numeral.value digits, cs.dropWhile Char.isDigit)

/-- Reads the version that a directive gives. -/
def versionDirective (cs : List Char) : Except Fault (Directive × List Char) := do
  let (major, cs) ← versionNumber (skipSpaces cs)
  match cs with
  | '.' :: cs =>
    let (_, cs) ← versionNumber cs
    if endsField cs.head? then .ok (.version major, cs) else .error .malformed
  | _ => .error .malformed

/-- Reads the handle that a directive gives a meaning, and the meaning. -/
def handleDirective (cs : List Char) : Except Fault (Directive × List Char) := do
  let (handle, cs) ← tagHandle (skipSpaces cs)
  if cs.head? != some ' ' then .error .malformed
  else
    let (meaning, cs) ← uri (skipSpaces cs)
    if endsField cs.head? then .ok (.handle handle meaning, cs) else .error .malformed

/-- Reads a directive after its percent sign. -/
def directive (cs : List Char) : Except Fault (Directive × List Char) := do
  let (name, cs) ← name cs
  if !endsField cs.head? then .error .malformed
  else if name = "YAML" then versionDirective cs
  else if name = "TAG" then handleDirective cs
  else .ok (.unknown, cs.dropWhile (!isBreak ·))

end LeakScan.Yaml
