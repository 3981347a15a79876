import LeakScan.Console.Color
import LeakScan.Text.Case

/-!
# Styles

A style is written as words: attributes, each of which may be switched off by `not`, a colour, the
colour after `on` that text stands on, and the address after `link`. The name of a style writes its
words in one order, each once, so the same style has the same name however it was written.
-/

set_option autoImplicit false

namespace LeakScan.Console

/-- What a style switches on or off. -/
inductive Attribute where
  | bold
  | dim
  | italic
  | underline
  | blink
  | fastBlink
  | reverse
  | conceal
  | strike
  | doubleUnderline
  | frame
  | encircle
  | overline
deriving DecidableEq, Repr

namespace Attribute

/-- The attributes, in the order in which they are named. -/
def all : List Attribute :=
  [bold, dim, italic, underline, blink, fastBlink, reverse, conceal, strike, doubleUnderline, frame,
    encircle, overline]

def name : Attribute → String
  | bold => "bold"
  | dim => "dim"
  | italic => "italic"
  | underline => "underline"
  | blink => "blink"
  | fastBlink => "blink2"
  | reverse => "reverse"
  | conceal => "conceal"
  | strike => "strike"
  | doubleUnderline => "underline2"
  | frame => "frame"
  | encircle => "encircle"
  | overline => "overline"

/-- The short name of an attribute that has one. -/
def shortName? : Attribute → Option String
  | bold => some "b"
  | dim => some "d"
  | italic => some "i"
  | underline => some "u"
  | reverse => some "r"
  | conceal => some "c"
  | strike => some "s"
  | doubleUnderline => some "uu"
  | overline => some "o"
  | _ => none

/-- The attribute that a word names. -/
def ofWord? (word : List Char) : Option Attribute :=
  let s := String.ofList word
  all.find? fun a => a.name = s || a.shortName? = some s

end Attribute

/-- A style: its attributes, those set last first, its colours, and the address it links to. -/
structure Style where
  attributes : List (Attribute × Bool)
  color : Option (List Char)
  background : Option (List Char)
  link : Option (List Char)

namespace Style

/-- The style that sets nothing. -/
def none : Style := ⟨[], .none, .none, .none⟩

/-- What an attribute adds to the name of a style. -/
def attributeWord (s : Style) (a : Attribute) : Option String :=
  (s.attributes.lookup a).map fun isOn => if isOn then a.name else "not " ++ a.name

/-- The name of a style. -/
def name (s : Style) : String :=
  let words := Attribute.all.filterMap s.attributeWord ++
    (s.color.map String.ofList).toList ++
    (s.background.map fun c => "on " ++ String.ofList c).toList ++
    (s.link.map fun url => "link " ++ String.ofList url).toList
  if words.isEmpty then "none" else " ".intercalate words

/-- Adds words to a style. -/
def add (s : Style) : List (List Char) → Except Color.Fault Style
  | [] => .ok s
  | w :: ws =>
    let word := Text.lowered w
    if word = "on".toList then
      match ws with
      | [] => .error .unknown
      | c :: ws => do
        Color.check (Text.lowered c)
        add { s with background := some (Text.lowered c) } ws
    else if word = "not".toList then
      match ws with
      | [] => .error .unknown
      | a :: ws =>
        match Attribute.ofWord? a with
        | some a => add { s with attributes := (a, false) :: s.attributes } ws
        | .none => .error .unknown
    else if word = "link".toList then
      match ws with
      | [] => .error .unknown
      | url :: ws => add { s with link := some url } ws
    else
      match Attribute.ofWord? word with
      | some a => add { s with attributes := (a, true) :: s.attributes } ws
      | .none => do
        Color.check word
        add { s with color := some word } ws

/-- The style that a text describes. -/
def ofText (cs : List Char) : Except Color.Fault Style :=
  if Text.strip cs = "none".toList then .ok none else none.add (Text.betweenBlanks cs)

/-- The name of the style that a text describes. A text that describes none is a name itself, in
lower case. -/
def nameOf (cs : List Char) : Except Color.Fault String :=
  match ofText cs with
  | .ok s => .ok s.name
  | .error .unknown => .ok (String.ofList (Text.lowered (Text.strip cs)))
  | .error e => .error e

example : (nameOf "i not b".toList).toOption = some "not bold italic" ∧
    (nameOf "uu  B b link A".toList).toOption = some "bold underline2 link A" ∧
    (nameOf "On".toList).toOption = some "on" := by decide +kernel

end Style
end LeakScan.Console
