import Mathlib.Data.List.TakeDrop
import Mathlib.Data.List.TakeWhile
import LeakScan.Console.Markup

/-!
# Markup that can be shown

A text is well formed if it consists of parts without brackets and backslashes, each of them plain
or between the tag of a style and the tag that closes it (`Part.Fits`). Such a text can be shown
(`exists_shown_parts`): whenever the reading is between two parts no tag is open, and every style
that was set is one that there is (`Styled.Settled`).
-/

namespace LeakScan.Markup
set_option autoImplicit false

/-- Whether a character begins neither a tag nor the backslashes before one. -/
def isPlain (c : Char) : Bool := c != '[' && c != '\\'

/-! ## Pieces -/

theorem tag?_eq_none {c : Char} (plain : isPlain c = true) (cs : List Char) :
    tag? (c :: cs) = none := by
  simp only [isPlain, Bool.and_eq_true, bne_iff_ne, ne_eq] at plain
  obtain ⟨bracket, slash⟩ := plain
  rw [tag?, List.dropWhile_cons_of_neg (by simpa using slash)]
  split
  · rename_i same
    cases same
    exact absurd rfl bracket
  · rfl

theorem tag?_eq_some {c : Char} {body : List Char} (opens : opensTag c = true)
    (inside : ∀ c ∈ body, inTag c = true) (rest : List Char) :
    tag? ('[' :: c :: (body ++ ']' :: rest)) = some (0, c :: body, rest) := by
  have stop : inTag ']' = false := by decide
  have drop : (body ++ ']' :: rest).dropWhile inTag = ']' :: rest := by
    rw [List.dropWhile_append_of_pos inside, List.dropWhile_cons_of_neg (by simp [stop])]
  have take : (body ++ ']' :: rest).takeWhile inTag = body := by
    rw [List.takeWhile_append_of_pos inside, List.takeWhile_cons_of_neg (by simp [stop]),
      List.append_nil]
  have front : ('[' :: c :: (body ++ ']' :: rest)).dropWhile (· = '\\') =
      '[' :: c :: (body ++ ']' :: rest) := List.dropWhile_cons_of_neg (by decide)
  have none : ('[' :: c :: (body ++ ']' :: rest)).takeWhile (· = '\\') = [] :=
    List.takeWhile_cons_of_neg (by decide)
  simp only [tag?, front, none, opens, drop, take, if_true, List.length_nil]

/-- Plain characters are put aside until a tag or the end comes. -/
theorem piecesFrom_plain (position : Nat) (aside : List Char) {cs : List Char}
    (plain : cs.all isPlain = true) (rest : List Char) :
    piecesFrom position aside (cs ++ rest) =
      piecesFrom (position + cs.length) (cs.reverse ++ aside) rest := by
  induction cs generalizing position aside with
  | nil => rfl
  | cons c cs ih =>
    obtain ⟨first, others⟩ := Bool.and_eq_true_iff.mp plain
    rw [List.cons_append, piecesFrom]
    split
    · rw [ih _ _ others, List.length_cons, List.reverse_cons, List.append_assoc,
        Nat.add_assoc, Nat.add_comm 1]
      rfl
    · rename_i found
      rw [tag?_eq_none first] at found
      cases found

/-- A tag comes after the characters that were put aside. -/
theorem piecesFrom_tag (position : Nat) (aside : List Char) {c : Char} {body : List Char}
    (opens : opensTag c = true) (inside : ∀ c ∈ body, inTag c = true) (rest : List Char) :
    ∃ next, piecesFrom position aside ('[' :: c :: (body ++ ']' :: rest)) =
      textPiece aside ++ .tag position (c :: body) :: piecesFrom next [] rest := by
  refine ⟨position + 0 + (c :: body).length + 2, ?_⟩
  have read := tag?_eq_some opens inside rest
  rw [piecesFrom]
  split
  · rename_i found
    rw [read] at found
    cases found
  · rename_i found
    rw [read] at found
    cases found
    rw [List.append_assoc]
    rfl

/-! ## Words for styles -/

/-- A word that a tag may hold to set a style: it is the name of the style that it describes. -/
structure IsStyleWord (word : List Char) : Prop where
  opens : ∃ c cs, word = c :: cs ∧ opensTag c = true ∧ c ≠ '/' ∧ c ≠ '@'
  inside : word.all (fun c => inTag c && c != '=') = true
  bare : Text.strip word = word
  style : ∃ s, Console.Style.ofText word = .ok s ∧ s.name = String.ofList word

theorem isStyleWord_bold : IsStyleWord "bold".toList where
  opens := ⟨'b', "old".toList, by decide⟩
  inside := by decide +kernel
  bare := by decide +kernel
  style := ⟨⟨[(.bold, true)], none, none, none⟩, rfl, by decide +kernel⟩

theorem mem_betweenBlanks {word : List Char} {blank : Char} (isBlank : Text.isBlank blank = true)
    (full : word ≠ []) (unbroken : ∀ c ∈ word, Text.isBlank c = false) (before after : List Char) :
    word ∈ Text.betweenBlanks (before ++ blank :: (word ++ blank :: after)) := by
  have single : word.splitOnP Text.isBlank = [word] := List.splitOnP_eq_singleton unbroken
  rw [Text.betweenBlanks, List.splitOnP_append_cons before _ isBlank,
    List.splitOnP_append_cons word _ isBlank, single]
  simp [full]

/-- A word between blanks at the beginning of the names of colours is such a name. -/
theorem mem_colorNames (before word after : String)
    (start : before ++ " " ++ word ++ " " ++ after =
      "black red green yellow blue magenta cyan white bright_black bright_red bright_green ")
    (full : word.toList ≠ []) (unbroken : word.toList.any Text.isBlank = false) :
    word.toList ∈ Console.Color.names := by
  obtain ⟨rest, text⟩ : ∃ rest, Console.Color.nameText =
      before ++ " " ++ word ++ " " ++ after ++ rest := by
    unfold Console.Color.nameText
    rw [start]
    simp only [String.append_assoc]
    exact ⟨_, rfl⟩
  rw [Console.Color.names, text]
  apply List.mem_cons_of_mem
  simp only [String.toList_append, List.append_assoc]
  exact mem_betweenBlanks (by decide) full (by simpa using unbroken) _ _

/-- A style of one word that is the name of a colour. -/
theorem ofText_of_mem_colorNames {word : List Char} (known : word ∈ Console.Color.names)
    (single : Text.betweenBlanks word = [word]) (lower : Text.lowered word = word)
    (noStyle : Text.strip word ≠ "none".toList)
    (other : word ∉ ["on", "not", "link"].map String.toList)
    (noAttribute : Console.Attribute.ofWord? word = none) :
    Console.Style.ofText word = .ok ⟨[], some word, none, none⟩ := by
  have color : Console.Color.check word = .ok () := by
    rw [Console.Color.check, if_pos]
    simp [known]
  simp only [List.map_cons, List.map_nil, List.mem_cons, List.not_mem_nil, or_false,
    not_or] at other
  obtain ⟨on, not, link⟩ := other
  rw [Console.Style.ofText, if_neg noStyle, single, Console.Style.add]
  simp only [lower, if_neg on, if_neg not, if_neg link, noAttribute, color]
  rfl

theorem isStyleWord_cyan : IsStyleWord "cyan".toList where
  opens := ⟨'c', "yan".toList, by decide⟩
  inside := by decide +kernel
  bare := by decide +kernel
  style := by
    have known := mem_colorNames "black red green yellow blue magenta" "cyan"
      "white bright_black bright_red bright_green "
      (by decide +kernel) (by decide +kernel) (by decide +kernel)
    exact ⟨_, ofText_of_mem_colorNames known (by decide +kernel) (by decide +kernel)
      (by decide +kernel) (by decide +kernel) (by decide +kernel), by decide +kernel⟩

theorem isStyleWord_red : IsStyleWord "red".toList where
  opens := ⟨'r', "ed".toList, by decide⟩
  inside := by decide +kernel
  bare := by decide +kernel
  style := by
    have known := mem_colorNames "black" "red"
      "green yellow blue magenta cyan white bright_black bright_red bright_green "
      (by decide +kernel) (by decide +kernel) (by decide +kernel)
    exact ⟨_, ofText_of_mem_colorNames known (by decide +kernel) (by decide +kernel)
      (by decide +kernel) (by decide +kernel) (by decide +kernel), by decide +kernel⟩

theorem IsStyleWord.styleName {word : List Char} (isWord : IsStyleWord word) :
    styleName word = .ok (String.ofList word) := by
  obtain ⟨s, described, named⟩ := isWord.style
  simp only [Markup.styleName, Console.Style.nameOf, described, named]

theorem IsStyleWord.checkStyle {word : List Char} (isWord : IsStyleWord word) (start : Nat) :
    Styled.checkStyle ⟨start, word⟩ = .ok () := by
  obtain ⟨s, described, -⟩ := isWord.style
  simp only [Styled.checkStyle, described]

theorem IsStyleWord.splitBody {word : List Char} (isWord : IsStyleWord word) :
    splitBody word = (word, none) := by
  have unequal : ∀ c ∈ word, (c != '=') = true := by
    intro c member
    exact (Bool.and_eq_true_iff.mp (List.all_eq_true.mp isWord.inside c member)).2
  have rest : word.dropWhile (· != '=') = [] := List.dropWhile_eq_nil_iff.mpr unequal
  simp only [Markup.splitBody, rest]

/-! ## Reading a text in parts -/

/-- A part of a text: plain characters, or such between the tag of a style and the tag that closes
it. -/
inductive Part where
  | plain (cs : List Char)
  | styled (word cs : List Char)

namespace Part

def text : Part → List Char
  | plain cs => cs
  | styled word cs => '[' :: (word ++ ']' :: (cs ++ '[' :: '/' :: (word ++ [']'])))

/-- A part whose text is plain and whose style is one that there is. -/
inductive Fits : Part → Prop where
  | plain {cs : List Char} (plain : cs.all isPlain = true) : Fits (.plain cs)
  | styled {word cs : List Char} (isWord : IsStyleWord word) (plain : cs.all isPlain = true) :
    Fits (.styled word cs)

end Part

namespace Styled

variable {p : Styled}

/-- No tag is open, and every style that was set is one that there is. -/
structure Settled (p : Styled) : Prop where
  closed : p.openTags = []
  known : ∀ s ∈ p.spans, checkStyle s = .ok ()

theorem forM_checkStyle {spans : List Span} (known : ∀ s ∈ spans, checkStyle s = .ok ()) :
    spans.forM checkStyle = .ok () := by
  induction spans with
  | nil => rfl
  | cons s spans ih =>
    obtain ⟨first, others⟩ := List.forall_mem_cons.mp known
    show (checkStyle s >>= fun _ => spans.forM checkStyle) = .ok ()
    rw [first]
    exact ih others

/-- Text adds to the characters and to nothing else. -/
theorem exists_foldlM_textPiece (p : Styled) (aside : List Char) :
    ∃ text, ∀ later, (textPiece aside ++ later).foldlM step p =
      later.foldlM step { p with text := text } := by
  cases aside with
  | nil => exact ⟨p.text, fun later => rfl⟩
  | cons c cs => exact ⟨_, fun later => rfl⟩

theorem tag_of_isStyleWord {word : List Char} (isWord : IsStyleWord word) (p : Styled)
    (position : Nat) :
    p.tag position word =
      .ok { p with openTags := ⟨String.ofList word, none, p.text.length⟩ :: p.openTags } := by
  have split := isWord.splitBody
  have named := isWord.styleName
  obtain ⟨c, cs, rfl, -, solid, -⟩ := isWord.opens
  rw [tag]
  · simp only [split, named]
    rfl
  · rintro _ same
    cases same
    exact solid rfl

/-- Adding the style of a word that there is keeps every style one that there is. -/
theorem known_addSpan {word : List Char} (isWord : IsStyleWord word)
    (known : ∀ s ∈ p.spans, checkStyle s = .ok ()) (start : Nat) :
    ∀ s ∈ (p.addSpan ⟨String.ofList word, none, start⟩).spans, checkStyle s = .ok () := by
  intro s member
  rw [addSpan] at member
  split at member
  · simp only [List.span_eq_takeWhile_dropWhile] at member
    obtain before | rest := List.mem_append.mp member
    · exact known s ((List.takeWhile_sublist _).subset before)
    · obtain rfl | after := List.mem_cons.mp rest
      · have style : OpenTag.style ⟨String.ofList word, none, start⟩ = word :=
          String.toList_ofList
        rw [style]
        exact isWord.checkStyle start
      · exact known s ((List.dropWhile_sublist _).subset after)
  · exact known s member

theorem openTags_addSpan (p : Styled) (t : OpenTag) : (p.addSpan t).openTags = p.openTags := by
  rw [addSpan]
  split <;> rfl

/-- The tag that closes the only style that is open leaves nothing open. -/
theorem settled_of_close {word : List Char} (isWord : IsStyleWord word) {start : Nat}
    (opened : p.openTags = [⟨String.ofList word, none, start⟩])
    (known : ∀ s ∈ p.spans, checkStyle s = .ok ()) (position : Nat) :
    ∃ q, p.tag position ('/' :: word) = .ok q ∧ q.Settled := by
  have full : word.isEmpty = false := by
    obtain ⟨c, cs, rfl, -⟩ := isWord.opens
    rfl
  have noHandler : OpenTag.isHandler ⟨String.ofList word, none, start⟩ = false := by
    obtain ⟨c, cs, rfl, -, -, other⟩ := isWord.opens
    simp [OpenTag.isHandler, List.isPrefixOf, Ne.symm other]
  refine ⟨{ p with openTags := [] }.addSpan ⟨String.ofList word, none, start⟩, ?_, ?_, ?_⟩
  · simp [tag, isWord.splitBody, isWord.bare, full, isWord.styleName, opened, close, noHandler,
      bind, Except.bind]
  · exact openTags_addSpan _ _
  · exact known_addSpan (p := { p with openTags := [] }) isWord known start

theorem foldlM_tag {q : Styled} {position : Nat} {body : List Char}
    (read : p.tag position body = .ok q) (later : List Piece) :
    (Piece.tag position body :: later).foldlM step p = later.foldlM step q := by
  rw [List.foldlM_cons, step, read]
  rfl

end Styled

/-- Reading a part in a style leaves nothing open. -/
theorem exists_read_styled {word cs : List Char} (isWord : IsStyleWord word)
    (plain : cs.all isPlain = true) {p : Styled} (settled : p.Settled) (position : Nat)
    (aside rest : List Char) :
    ∃ (q : Styled) (next : Nat), q.Settled ∧
      (piecesFrom position aside ((Part.styled word cs).text ++ rest)).foldlM Styled.step p =
        (piecesFrom next [] rest).foldlM Styled.step q := by
  have whole : (Part.styled word cs).text ++ rest =
      '[' :: (word ++ ']' :: (cs ++ '[' :: '/' :: (word ++ ']' :: rest))) := by
    simp [Part.text]
  have inside : ∀ c ∈ word, inTag c = true := fun c member =>
    (Bool.and_eq_true_iff.mp (List.all_eq_true.mp isWord.inside c member)).1
  obtain ⟨c, body, same, opens, -⟩ := isWord.opens
  obtain ⟨middle, opening⟩ := piecesFrom_tag position aside opens
    (fun d member => inside d (same ▸ List.mem_cons_of_mem c member))
    (cs ++ '[' :: '/' :: (word ++ ']' :: rest))
  rw [← List.cons_append, ← same, piecesFrom_plain _ _ plain] at opening
  obtain ⟨next, closing⟩ := piecesFrom_tag (middle + cs.length) (cs.reverse ++ [])
    (by decide : opensTag '/' = true) inside rest
  -- The text before the part, the tag, the text in the part, and the tag that closes it.
  obtain ⟨before, readBefore⟩ := Styled.exists_foldlM_textPiece p aside
  have opened := Styled.tag_of_isStyleWord isWord { p with text := before } position
  obtain ⟨covered, readCovered⟩ := Styled.exists_foldlM_textPiece
    { p with openTags := ⟨String.ofList word, none, before.length⟩ :: p.openTags, text := before }
    (cs.reverse ++ [])
  obtain ⟨q, closed, still⟩ := Styled.settled_of_close
    (p := ⟨⟨String.ofList word, none, before.length⟩ :: p.openTags, covered, p.spans⟩) isWord
    (by rw [settled.closed]) settled.known (middle + cs.length)
  refine ⟨q, next, still, ?_⟩
  rw [whole, opening, readBefore, Styled.foldlM_tag opened, closing, readCovered,
    Styled.foldlM_tag closed]

/-- Between two parts a text is settled. -/
theorem exists_read_parts {parts : List Part} (fits : ∀ part ∈ parts, part.Fits) {p : Styled}
    (settled : p.Settled) (position : Nat) (aside : List Char) :
    ∃ q, (piecesFrom position aside (parts.flatMap Part.text)).foldlM Styled.step p = .ok q ∧
      q.Settled := by
  induction parts generalizing p position aside with
  | nil =>
    obtain ⟨text, read⟩ := Styled.exists_foldlM_textPiece p aside
    have last := read []
    rw [List.append_nil] at last
    rw [List.flatMap_nil, piecesFrom, last]
    exact ⟨_, rfl, settled.closed, settled.known⟩
  | cons part parts ih =>
    obtain ⟨first, others⟩ := List.forall_mem_cons.mp fits
    rw [List.flatMap_cons]
    cases first with
    | @plain cs plain =>
      rw [Part.text, piecesFrom_plain position aside plain]
      exact ih others settled _ _
    | @styled word cs isWord plain =>
      obtain ⟨q, next, still, read⟩ :=
        exists_read_styled isWord plain settled position aside (parts.flatMap Part.text)
      rw [read]
      exact ih others still next []

/-- A text whose parts fit can be shown. -/
theorem exists_shown_parts (parts : List Part) (fits : ∀ part ∈ parts, part.Fits) {s : String}
    (whole : s.toList = parts.flatMap Part.text) : ∃ cs, shown s = .ok cs := by
  obtain ⟨q, run, settled⟩ := exists_read_parts fits (p := ⟨[], [], []⟩) ⟨rfl, nofun⟩ 0 []
  have looked := Styled.forM_checkStyle settled.known
  refine ⟨q.text, ?_⟩
  rw [shown, read, pieces, whole, run]
  simp only [bind, Except.bind, Styled.shown, settled.closed, List.foldl_nil, looked]
  rfl

end LeakScan.Markup
