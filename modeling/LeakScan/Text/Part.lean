/-!
# Parts of a text

Whether a text stands inside another, at its end, or at a place of it, and the cut of a text at
its line breaks or at another separator.
-/

set_option autoImplicit false

namespace LeakScan.Text

/-- Whether `part` stands somewhere in a text. -/
def holds (part : List Char) : List Char → Bool
  | [] => part.isEmpty
  | c :: cs => part.isPrefixOf (c :: cs) || holds part cs

/-- Whether a text ends with `tail`. -/
def endsWith (tail cs : List Char) : Bool :=
  tail.isSuffixOf cs

/-- Cuts a text at every `separator`. `done` holds the finished pieces and `current` the piece
being read, both last first. -/
def splitFrom (separator : Char) (done : List (List Char)) (current : List Char) :
    List Char → List (List Char)
  | [] => (current.reverse :: done).reverse
  | c :: cs =>
    if c = separator then splitFrom separator (current.reverse :: done) [] cs
    else splitFrom separator done (c :: current) cs

/-- Cuts a text at every `separator`: one piece more than there are separators. -/
def split (separator : Char) (cs : List Char) : List (List Char) :=
  splitFrom separator [] [] cs

/-- The lines of a text: the pieces between its newlines. -/
def lines (cs : List Char) : List (List Char) :=
  split '\n' cs

theorem splitFrom_eq (separator : Char) (done : List (List Char)) (current cs : List Char) :
    splitFrom separator done current cs = done.reverse ++ splitFrom separator [] current cs := by
  induction cs generalizing done current with
  | nil => simp [splitFrom]
  | cons c cs ih =>
    by_cases h : c = separator
    · rw [splitFrom, if_pos h, ih, splitFrom, if_pos h, ih [current.reverse]]
      simp
    · rw [splitFrom, if_neg h, ih, splitFrom, if_neg h]

theorem splitFrom_ne_nil (separator : Char) (done : List (List Char)) (current cs : List Char) :
    splitFrom separator done current cs ≠ [] := by
  induction cs generalizing done current with
  | nil => simp [splitFrom]
  | cons c cs ih =>
    rw [splitFrom]
    split
    · exact ih _ _
    · exact ih _ _

/-- Putting the separator back between the pieces gives the text again. -/
theorem intercalate_splitFrom (separator : Char) (current cs : List Char) :
    [separator].intercalate (splitFrom separator [] current cs) = current.reverse ++ cs := by
  induction cs generalizing current with
  | nil => simp [splitFrom, List.intercalate]
  | cons c cs ih =>
    by_cases h : c = separator
    · have ih' := ih []
      rw [splitFrom, if_pos h, splitFrom_eq]
      cases hs : splitFrom separator [] [] cs with
      | nil => exact (splitFrom_ne_nil _ _ _ _ hs).elim
      | cons l ls =>
        rw [hs] at ih'
        simp only [List.intercalate, List.reverse_nil, List.nil_append] at ih'
        simp [List.intercalate, ih', h]
    · rw [splitFrom, if_neg h, ih]
      simp

end LeakScan.Text
