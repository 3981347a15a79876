import LeakScan.Console.Emoji
import LeakScan.Console.Literal
import LeakScan.Console.Style

/-!
# Markup

What is written to the console may hold tags between square brackets, which style the text after
them until they are closed: `[red]` opens a style and `[/red]` closes it, whatever words for it they
use, and `[/]` closes the one opened last. A console without colours shows the text without the
tags. Backslashes before a tag count in pairs, each pair for one of them; an odd one left over makes
the tag plain text. A tag that closes what is not open is a fault.

A tag may have parameters after an equals sign. Those of a tag whose name begins with `@` are a
literal, or a name with literals in round brackets, which is looked at when the tag is closed. Those
of another tag are words of its style, which is looked at where it covers text.
-/

set_option autoImplicit false

namespace LeakScan.Markup

/-- A part of a text with markup. A tag comes with its place in the text. -/
inductive Piece where
  | text (cs : List Char)
  | tag (position : Nat) (body : List Char)
deriving DecidableEq, Repr

/-- Whether a tag may begin with a character. -/
def opensTag (c : Char) : Bool :=
  ('a' ≤ c && c ≤ 'z') || c = '#' || c = '/' || c = '@'

/-- Whether a character may stand inside a tag. -/
def inTag (c : Char) : Bool := c != '[' && c != ']'

/-- Reads a tag at the front of a text: the number of backslashes before it, what stands between
its brackets, and the rest of the text. -/
def tag? (cs : List Char) : Option (Nat × List Char × List Char) :=
  match cs.dropWhile (· = '\\') with
  | '[' :: c :: r =>
    if opensTag c then
      match r.dropWhile inTag with
      | ']' :: rest => some ((cs.takeWhile (· = '\\')).length, c :: r.takeWhile inTag, rest)
      | _ => none
    else none
  | _ => none

theorem length_lt_of_tag? {cs body rest : List Char} {n : Nat}
    (h : tag? cs = some (n, body, rest)) : rest.length < cs.length := by
  unfold tag? at h
  split at h
  · next c r hr =>
    have h₁ := (List.dropWhile_sublist (l := cs) (p := (· = '\\'))).length_le
    rw [hr] at h₁
    split at h
    · split at h
      · next rest' hrest =>
        have h₂ := (List.dropWhile_sublist (l := r) (p := inTag)).length_le
        rw [hrest] at h₂
        simp only [Option.some.injEq, Prod.mk.injEq] at h
        obtain ⟨_, _, rfl⟩ := h
        simp only [List.length_cons] at h₁ h₂
        omega
      · simp at h
    · simp at h
  · simp at h

/-- The pieces that a tag after some backslashes is. -/
def tagPieces (position slashes : Nat) (body : List Char) : List Piece :=
  let kept := if slashes / 2 = 0 then [] else [.text (List.replicate (slashes / 2) '\\')]
  if slashes % 2 = 0 then kept ++ [.tag (position + slashes) body]
  else kept ++ [.text ('[' :: body ++ [']'])]

/-- The piece of some characters, last first, if there are any. -/
def textPiece : List Char → List Piece
  | [] => []
  | cs => [.text cs.reverse]

/-- The pieces of a text from a position on. `plain` holds the characters since the last tag, last
first. -/
def piecesFrom (position : Nat) (plain cs : List Char) : List Piece :=
  match cs with
  | [] => textPiece plain
  | c :: r =>
    match h : tag? (c :: r) with
    | none => piecesFrom (position + 1) (c :: plain) r
    | some (slashes, body, rest) =>
      textPiece plain ++ tagPieces position slashes body ++
        piecesFrom (position + slashes + body.length + 2) [] rest
termination_by cs.length
decreasing_by
  · exact Nat.lt_succ_self _
  · exact length_lt_of_tag? h

/-- The pieces of a text. -/
def pieces (s : String) : List Piece := piecesFrom 0 [] s.toList

/-- Takes the backslashes off that stand before a bracket. -/
def unescaped : List Char → List Char
  | '\\' :: '[' :: cs => '[' :: unescaped cs
  | c :: cs => c :: unescaped cs
  | [] => []

/-- Whether the console shows a character at all: it drops the bell and what moves the cursor back
or down. -/
def isShown (c : Char) : Bool :=
  !([7, 8, 11, 12, 13].contains c.toNat)

/-- What the console shows of a text between tags. -/
def shownText (cs : List Char) : List Char :=
  (Console.Emoji.replaced (unescaped cs)).filter isShown

/-- Why a text cannot be shown. -/
inductive Fault where
  | notOpen (tag : String) (position : Nat)
  | nothingOpen (position : Nat)
  | colorPart (text : String) (fault : Numeral.Fault)
  | notALiteral (arguments parameters : String) (fault : Console.Literal.Fault)
deriving DecidableEq, Repr

def Fault.message : Fault → String
  | notOpen tag position =>
    "closing tag '" ++ tag ++ "' at position " ++ Numeral.ofInt position ++
      " doesn't match any open tag"
  | nothingOpen position =>
    "closing tag '[/]' at position " ++ Numeral.ofInt position ++ " has nothing to close"
  | colorPart text fault => Console.Color.partMessage text fault
  | notALiteral arguments parameters fault =>
    let place := if fault.isOfMeaning then "" else Text.quoted arguments ++ " in "
    "error parsing " ++ place ++ Text.quoted parameters ++ "; " ++ fault.message

/-- A tag that is open: the name of its style, its parameters, and the number of characters
before it. -/
structure OpenTag where
  name : String
  parameters : Option (List Char)
  start : Nat

/-- The style of a part of a text, as it is written, and where the part begins. -/
structure Span where
  start : Nat
  style : List Char

/-- A text of which some pieces were read: its open tags, the last first, its characters, and the
styles of its parts, in the order of the parts. -/
structure Styled where
  openTags : List OpenTag
  text : List Char
  spans : List Span

/-- The name of the style that a text describes. -/
def styleName (cs : List Char) : Except Fault String :=
  match Console.Style.nameOf cs with
  | .ok name => .ok name
  | .error (.part text fault) => .error (.colorPart text fault)
  | .error .unknown => .ok (String.ofList cs)

/-- Cuts what stands between the brackets of a tag at its first equals sign. -/
def splitBody (body : List Char) : List Char × Option (List Char) :=
  match body.dropWhile (· != '=') with
  | [] => (body, none)
  | _ :: parameters => (body.takeWhile (· != '='), some parameters)

/-- The arguments among the parameters of a handler, which its name may stand before. -/
def argumentsOf (parameters : List Char) : List Char :=
  let inName (c : Char) : Bool := Console.Literal.inWord c || c = '.'
  match parameters.dropWhile inName with
  | [] => "()".toList
  | rest =>
    if rest.head? = some '(' && rest.getLast? = some ')' && !rest.contains '\n' then rest
    else parameters

/-- Checks the parameters of a handler. -/
def checkHandler (parameters : List Char) : Except Fault Unit :=
  let arguments := argumentsOf (Text.strip parameters)
  match Console.Literal.check arguments with
  | .ok () => .ok ()
  | .error e => .error (.notALiteral (String.ofList arguments) (String.ofList parameters) e)

namespace OpenTag

/-- Whether a tag names a handler. -/
def isHandler (t : OpenTag) : Bool := "@".toList.isPrefixOf t.name.toList

/-- The style of a tag with its parameters. -/
def style (t : OpenTag) : List Char :=
  match t.parameters with
  | none => t.name.toList
  | some parameters => t.name.toList ++ ' ' :: parameters

end OpenTag

namespace Styled

/-- Adds the style of a tag for the text since then, if there is any. -/
def addSpan (p : Styled) (t : OpenTag) : Styled :=
  if t.start < p.text.length then
    let (before, after) := p.spans.span (·.start < t.start)
    { p with spans := before ++ ⟨t.start, t.style⟩ :: after }
  else p

/-- Closes a tag that was open. -/
def close (p : Styled) (t : OpenTag) : Except Fault Styled :=
  if t.isHandler then
    match t.parameters with
    | none | some [] => .ok p
    | some parameters => (checkHandler parameters).map fun () => p
  else .ok (p.addSpan t)

/-- Reads a tag. -/
def tag (p : Styled) (position : Nat) : (body : List Char) → Except Fault Styled
  | '/' :: cs =>
    let name := Text.strip (splitBody cs).1
    if name.isEmpty then
      match p.openTags with
      | [] => .error (.nothingOpen position)
      | t :: ts => close { p with openTags := ts } t
    else do
      let name ← styleName name
      match p.openTags.find? (·.name = name) with
      | some t => close { p with openTags := p.openTags.eraseP (·.name = name) } t
      | none => throw (.notOpen (String.ofList ('[' :: '/' :: cs ++ [']'])) position)
  | body => do
    let (name, parameters) := splitBody body
    return { p with openTags := ⟨← styleName name, parameters, p.text.length⟩ :: p.openTags }

/-- Reads a piece. -/
def step (p : Styled) : Piece → Except Fault Styled
  | .text cs => .ok { p with text := p.text ++ shownText cs }
  | .tag position body => p.tag position body

/-- Looks at the style of a part. A style that there is not does nothing. -/
def checkStyle (s : Span) : Except Fault Unit :=
  match Console.Style.ofText s.style with
  | .error (.part text fault) => .error (.colorPart text fault)
  | _ => .ok ()

/-- The characters of a text whose styles are all looked at. -/
def shown (p : Styled) : Except Fault (List Char) := do
  (p.openTags.foldl addSpan p).spans.forM checkStyle
  return p.text

end Styled

/-- Reads a text with markup. -/
def read (s : String) : Except Fault Styled := (pieces s).foldlM Styled.step ⟨[], [], []⟩

/-- What the console shows of a text with markup. -/
def shown (s : String) : Except Fault (List Char) := do (← read s).shown

example : (shown "[b]a [i]b[/italic] [1] ['c'][/B]").toOption = some "a b [1] ['c']".toList := by
  decide +kernel

example : (shown "a\\[b] \\\\[b]c").toOption = some "a[b] \\c".toList := by decide +kernel

example : (shown "a[/b]").toOption = none ∧ pieces "a[/b]" = [.text ['a'], .tag 1 ['/', 'b']] := by
  decide +kernel

end LeakScan.Markup
