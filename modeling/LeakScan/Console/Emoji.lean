import LeakScan.Console.Emoji.Names
import LeakScan.Text.Blank
import LeakScan.Text.Case

/-!
# Emoji

A name between colons stands for an emoji, in any case: `:key:` for a key. A name may ask for its
emoji as text or as a picture, as `:heart-text:` does. Colons around what is no name stay, and the
second one does not begin another name.
-/

set_option autoImplicit false

namespace LeakScan.Console.Emoji

/-- The emoji of a text of pairs of a name and its characters. -/
def entries (cs : List Char) : List (List Char × List Char) :=
  (Text.betweenBlanks cs).map fun p =>
    (p.takeWhile (· != '='), (p.dropWhile (· != '=')).drop 1)

/-- The emoji that have names. -/
def known : List (List Char × List Char) := entries emojiText.toList

/-- What a name may end in to ask for a variant of its emoji, each with the mark of the variant. -/
def variants : List (String × Char) := [("-emoji", '\ufe0f'), ("-text", '\ufe0e')]

/-- A name without what asks for a variant, and the mark of the variant. -/
def splitVariant (name : List Char) : List Char × List Char :=
  match variants.find? fun v => v.1.toList.isSuffixOf name with
  | some v => (name.take (name.length - v.1.length), [v.2])
  | none => (name, [])

/-- The emoji of a name between colons. -/
def ofName? (name : List Char) : Option (List Char) :=
  let (name, mark) := splitVariant name
  (known.lookup (Text.lowered name)).map (· ++ mark)

/-- A text with emoji for their names. `name` holds the characters since a colon that may begin a
name, the last first. -/
def replacedFrom : (name : Option (List Char)) → List Char → List Char
  | none, [] => []
  | some name, [] => ':' :: name.reverse
  | none, c :: cs => if c = ':' then replacedFrom (some []) cs else c :: replacedFrom none cs
  | some name, c :: cs =>
    if c = ':' then
      (ofName? name.reverse).getD (':' :: name.reverse ++ [':']) ++ replacedFrom none cs
    else if Text.isBlank c then ':' :: name.reverse ++ c :: replacedFrom none cs
    else replacedFrom (some (c :: name)) cs

/-- A text with emoji for their names. -/
def replaced (cs : List Char) : List Char := replacedFrom none cs

end LeakScan.Console.Emoji
