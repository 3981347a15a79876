import LeakScan.Number.Numeral

/-!
# Kinds of YAML values

A tag says what kind of value a node is. A plain scalar without a tag says so itself, by how it is
written: truth values are a few words, integers have several bases, and real numbers have a point.
A newline after it does not count.
-/

set_option autoImplicit false

namespace LeakScan.Yaml

/-- A kind of value. The last three are no values of their own: the mark of a mapping to merge,
the mark of a default value, and whatever is not known. -/
inductive Kind where
  | null
  | bool
  | int
  | real
  | text
  | bytes
  | moment
  | list
  | map
  | set
  | orderedMap
  | pairs
  | merge
  | default
  | unknown
deriving DecidableEq, Repr

namespace Kind

/-- What the tags of the standard kinds start with. -/
def tagStart : String := "tag:yaml.org,2002:"

/-- The standard tags, without their start. -/
def named : List (String × Kind) :=
  [("null", null), ("bool", bool), ("int", int), ("float", real), ("str", text),
    ("binary", bytes), ("timestamp", moment), ("seq", list), ("map", map), ("set", set),
    ("omap", orderedMap), ("pairs", pairs), ("merge", merge), ("value", default)]

/-- The kind that a tag names. -/
def ofTag (tag : String) : Kind :=
  ((named.find? fun n => tagStart ++ n.1 = tag).map (·.2)).getD unknown

/-- The words for truth values, each with its value. -/
def truthWords : List (String × Bool) :=
  [("yes", true), ("no", false), ("true", true), ("false", false), ("on", true), ("off", false)]

/-- A word as it is, with a capital, and in capitals. -/
def spellings (word : String) : List String :=
  [word, word.capitalize, word.map Char.toUpper]

/-- Whether a text starts with a digit and goes on with digits and underscores. -/
def isGrouped : List Char → Bool
  | c :: cs => c.isDigit && cs.all Numeral.isDigitOrBar
  | [] => false

/-- Whether a text is a number below sixty of one or two digits. -/
def isSixtieth : List Char → Bool
  | [c] => c.isDigit
  | [c, d] => '0' ≤ c && c ≤ '5' && d.isDigit
  | _ => false

/-- The pieces of a text between its colons. -/
def colonPieces : List Char → List (List Char)
  | [] => [[]]
  | c :: cs =>
    if c = ':' then [] :: colonPieces cs
    else match colonPieces cs with
      | [] => [[c]]
      | p :: ps => (c :: p) :: ps

def withoutSign : List Char → List Char
  | '-' :: cs => cs
  | '+' :: cs => cs
  | cs => cs

/-- Whether a text is a list of at least one number below sixty. -/
def areSixtieths (pieces : List (List Char)) : Bool :=
  !pieces.isEmpty && pieces.all isSixtieth

/-- Whether a text without its sign is written as an integer. -/
def isUnsignedInt : List Char → Bool
  | '0' :: 'b' :: cs => !cs.isEmpty && cs.all fun c => c = '0' || c = '1' || c = '_'
  | '0' :: 'x' :: cs => !cs.isEmpty && cs.all fun c => (Text.hexDigit? c).isSome || c = '_'
  | '0' :: cs => cs.all fun c => '0' ≤ c && c ≤ '7' || c = '_'
  | cs =>
    match colonPieces cs with
    | [] => false
    | first :: rest => isGrouped first && (rest.isEmpty || areSixtieths rest)

/-- Whether a text is an exponent: its letter, a sign, and digits. Nothing is one too. -/
def isExponent : List Char → Bool
  | [] => true
  | e :: sign :: ds =>
    (e = 'e' || e = 'E') && (sign = '-' || sign = '+') && !ds.isEmpty && ds.all Char.isDigit
  | _ => false

/-- Whether a text is the digits after a point, with an exponent if there is one. -/
def isFraction (cs : List Char) : Bool :=
  isExponent (cs.dropWhile Numeral.isDigitOrBar)

/-- Whether a text without its sign is written as a real number with digits before the point. -/
def isUnsignedReal (cs : List Char) : Bool :=
  let whole := cs.takeWhile (· != '.')
  match cs.dropWhile (· != '.') with
  | [] => false
  | _ :: fraction =>
    match colonPieces whole with
    | [] => false
    | first :: rest =>
      isGrouped first &&
        if rest.isEmpty then isFraction fraction
        else areSixtieths rest && fraction.all Numeral.isDigitOrBar

/-- Whether a text is written as a real number. -/
def isReal (cs : List Char) : Bool :=
  isUnsignedReal (withoutSign cs) ||
    (match cs with
      | '.' :: c :: cs => c.isDigit && isFraction (c :: cs)
      | _ => false) ||
    [".inf", ".Inf", ".INF"].contains (String.ofList (withoutSign cs)) ||
    [".nan", ".NaN", ".NAN"].contains (String.ofList cs)

/-- Splits off digits: at least `least` and at most `most`. -/
def digits? (least most : Nat) (cs : List Char) : Option (List Char × List Char) :=
  let ds := (cs.takeWhile Char.isDigit).take most
  if ds.length < least then none else some (ds, cs.drop ds.length)

/-- Splits off a character. -/
def mark? (c : Char) (cs : List Char) : Option (List Char) :=
  match cs with
  | d :: cs => if d = c then some cs else none
  | [] => none

/-- The zone of a moment: not said, that of the prime meridian, or an offset in hours and
minutes. -/
inductive Zone where
  | unsaid
  | prime
  | offset (negative : Bool) (hours minutes : List Char)
deriving Repr

/-- A moment as it is written: a date of year, month and day, and perhaps a time of hour, minute,
second and fraction in a zone. -/
structure WrittenMoment where
  year : List Char
  month : List Char
  day : List Char
  time : Option (List Char × List Char × List Char × List Char × Zone)

/-- Reads a zone at the end of a moment. -/
def zone? (cs : List Char) : Option Zone :=
  match cs.dropWhile fun c => c = ' ' || c = '\t' with
  | [] => if cs.isEmpty then some .unsaid else none
  | 'Z' :: rest => if rest.isEmpty then some .prime else none
  | sign :: rest =>
    if sign = '+' || sign = '-' then do
      let (hours, rest) ← digits? 1 2 rest
      if rest.isEmpty then return .offset (sign = '-') hours []
      let rest ← mark? ':' rest
      let (minutes, rest) ← digits? 2 2 rest
      if rest.isEmpty then return .offset (sign = '-') hours minutes else none
    else none

/-- Reads the mark between a date and a time. -/
def timeMark? : List Char → Option (List Char)
  | c :: cs =>
    if c = 'T' || c = 't' then some cs
    else if c = ' ' || c = '\t' then some (cs.dropWhile fun c => c = ' ' || c = '\t')
    else none
  | [] => none

/-- A text without a newline at its end. -/
def withoutNewline (cs : List Char) : List Char :=
  if cs.getLast? = some '\n' then cs.dropLast else cs

/-- Reads a moment, after which a newline may stand. -/
def moment? (cs : List Char) : Option WrittenMoment := do
  let (year, cs) ← digits? 4 4 (withoutNewline cs)
  let (month, cs) ← digits? 1 2 (← mark? '-' cs)
  let (day, cs) ← digits? 1 2 (← mark? '-' cs)
  if cs.isEmpty then return ⟨year, month, day, none⟩
  let (hour, cs) ← digits? 1 2 (← timeMark? cs)
  let (minute, cs) ← digits? 2 2 (← mark? ':' cs)
  let (second, cs) ← digits? 2 2 (← mark? ':' cs)
  let (fraction, cs) := match cs with
    | '.' :: cs => (cs.takeWhile Char.isDigit, cs.dropWhile Char.isDigit)
    | cs => ([], cs)
  return ⟨year, month, day, some (hour, minute, second, fraction, ← zone? cs)⟩

/-- Whether a plain text is written as a moment: a date alone has a month and a day of two
digits. -/
def isMoment (cs : List Char) : Bool :=
  match moment? cs with
  | some m => m.time.isSome || (m.month.length = 2 && m.day.length = 2)
  | none => false

/-- The kind of a text without a newline at its end. -/
def ofWritten (cs : List Char) : Kind :=
  let s := String.ofList cs
  if truthWords.any fun w => (spellings w.1).contains s then bool
  else if isReal cs then real
  else if isUnsignedInt (withoutSign cs) then int
  else if s = "<<" then merge
  else if s = "" || s = "~" || (spellings "null").contains s then null
  else if isMoment cs then moment
  else if s = "=" then default
  else if ["!", "&", "*"].contains s then unknown
  else text

/-- The kind that a scalar says itself. One that starts with a newline is a text. -/
def ofText : Text.Loose → Kind
  | .torn _ => text
  | .whole s =>
    let cs := s.toList
    if cs.head? = some '\n' then text else ofWritten (withoutNewline cs)

end Kind
end LeakScan.Yaml
