import LeakScan.Text.Part

/-!
# Lines of a text

Cutting a text at a separator loses nothing: the cut of two texts with a separator between them is
the cut of the first and then of the second (`split_append_cons`). So the lines of a text are
exactly its pieces without a newline that a newline or an end of the text bounds on both sides,
and a line's number counts the newlines above it (`getElem?_lines_iff`).
-/

namespace LeakScan.Text
set_option autoImplicit false

theorem splitFrom_of_notMem {separator : Char} {cs : List Char} (whole : separator ∉ cs)
    (current : List Char) : splitFrom separator [] current cs = [current.reverse ++ cs] := by
  induction cs generalizing current with
  | nil => simp [splitFrom]
  | cons c cs ih =>
    have other : c ≠ separator := fun same => whole (same ▸ List.mem_cons_self)
    rw [splitFrom, if_neg other, ih fun member => whole (List.mem_cons_of_mem _ member)]
    simp

theorem split_of_notMem {separator : Char} {cs : List Char} (whole : separator ∉ cs) :
    split separator cs = [cs] :=
  splitFrom_of_notMem whole []

theorem splitFrom_append_cons (separator : Char) (current a b : List Char) :
    splitFrom separator [] current (a ++ separator :: b) =
      splitFrom separator [] current a ++ split separator b := by
  induction a generalizing current with
  | nil =>
    have cut : splitFrom separator [] current (separator :: b) =
        splitFrom separator [current.reverse] [] b := by simp [splitFrom]
    rw [List.nil_append, cut, splitFrom_eq]
    simp [splitFrom, split]
  | cons c a ih =>
    by_cases cut : c = separator
    · rw [List.cons_append, splitFrom, if_pos cut, splitFrom_eq, ih, splitFrom, if_pos cut,
        splitFrom_eq separator [current.reverse] [] a, List.append_assoc]
    · rw [List.cons_append, splitFrom, if_neg cut, ih, splitFrom, if_neg cut]

/-- Cutting two texts with a separator between them cuts each of them. -/
theorem split_append_cons (separator : Char) (a b : List Char) :
    split separator (a ++ separator :: b) = split separator a ++ split separator b :=
  splitFrom_append_cons separator [] a b

/-- A text up to a first separator, if it has one. -/
theorem exists_cut (separator : Char) (cs : List Char) :
    ∃ a b, cs = a ++ b ∧ separator ∉ a ∧ ∀ c ∈ b.head?, c = separator := by
  induction cs with
  | nil => exact ⟨[], [], rfl, by simp, by simp⟩
  | cons c cs ih =>
    by_cases here : c = separator
    · exact ⟨[], c :: cs, rfl, by simp, by simp [here]⟩
    · obtain ⟨a, b, rfl, unbroken, bound⟩ := ih
      exact ⟨c :: a, b, rfl, by simp [Ne.symm here, unbroken], bound⟩

/-- A text from after its last separator on, if it has one. -/
theorem exists_last_cut (separator : Char) (cs : List Char) :
    ∃ a b, cs = a ++ b ∧ separator ∉ b ∧ ∀ c ∈ a.getLast?, c = separator := by
  obtain ⟨b, a, split, unbroken, bound⟩ := exists_cut separator cs.reverse
  refine ⟨a.reverse, b.reverse, ?_, by simpa using unbroken, by simpa using bound⟩
  rw [← List.reverse_append, ← split, List.reverse_reverse]

/-- A text begins with its first piece: it is that piece, or a separator and more text follow. -/
theorem eq_or_eq_append_cons (separator : Char) (cs : List Char) :
    separator ∉ cs ∨ ∃ a b, cs = a ++ separator :: b ∧ separator ∉ a := by
  obtain ⟨a, b, rfl, unbroken, bound⟩ := exists_cut separator cs
  cases b with
  | nil => exact Or.inl (by simpa using unbroken)
  | cons c b => exact Or.inr ⟨a, b, by rw [bound c rfl], unbroken⟩

theorem length_split (separator : Char) (cs : List Char) :
    (split separator cs).length = cs.count separator + 1 := by
  rcases eq_or_eq_append_cons separator cs with whole | ⟨a, b, rfl, unbroken⟩
  · simp [split_of_notMem whole, List.count_eq_zero_of_not_mem whole]
  · have rest := length_split separator b
    simp only [split_append_cons, split_of_notMem unbroken, List.length_append, rest,
      List.count_append, List.count_eq_zero_of_not_mem unbroken, List.count_cons_self,
      List.length_singleton]
    omega
termination_by cs.length

theorem length_lines (cs : List Char) : (lines cs).length = cs.count '\n' + 1 :=
  length_split '\n' cs

/-! ## Where a line stands -/

/-- The line number `n` of a text is `line`, and it stands between `above` and `below`. -/
structure IsLine (cs : List Char) (n : Nat) (above line below : List Char) : Prop where
  text : cs = above ++ line ++ below
  number : n = above.count '\n'
  unbroken : '\n' ∉ line
  starts : ∀ c ∈ above.getLast?, c = '\n'
  ends : ∀ c ∈ below.head?, c = '\n'

theorem IsLine.getElem?_lines {cs : List Char} {n : Nat} {above line below : List Char}
    (h : IsLine cs n above line below) : (lines cs)[n]? = some line := by
  have first : (lines (line ++ below))[0]? = some line := by
    have ends := h.ends
    cases below with
    | nil => simp [lines, split_of_notMem h.unbroken]
    | cons c below =>
      rw [ends c rfl, lines, split_append_cons, split_of_notMem h.unbroken]
      rfl
  have text := h.text
  have starts := h.starts
  rcases List.eq_nil_or_concat above with rfl | ⟨a, c, rfl⟩
  · rw [h.number, text]
    exact first
  · obtain rfl : c = '\n' := starts c (by simp)
    have size := length_lines a
    have number : n = (lines a).length := by
      rw [h.number, size]
      simp
    rw [text, number, List.append_assoc, List.concat_eq_append, List.append_assoc,
      List.singleton_append, lines, split_append_cons, ← lines, List.getElem?_append_right
        (Nat.le_refl _), Nat.sub_self]
    exact first

/-- With a line more above it, a line is the next one. -/
theorem IsLine.cons {a b above line below : List Char} {n : Nat}
    (isLine : IsLine b n above line below) (unbroken : '\n' ∉ a) :
    IsLine (a ++ '\n' :: b) (n + 1) (a ++ '\n' :: above) line below := by
  have text := isLine.text
  refine ⟨by simp [text], ?_, isLine.unbroken, ?_, isLine.ends⟩
  · simp [isLine.number, List.count_eq_zero_of_not_mem unbroken]
  · intro c last
    rw [List.getLast?_append, List.getLast?_cons] at last
    cases hl : above.getLast? with
    | none => simpa [hl, eq_comm] using last
    | some d =>
      obtain rfl : d = c := by simpa [hl] using last
      exact isLine.starts d hl

theorem exists_isLine_of_getElem? {cs : List Char} {n : Nat} {line : List Char}
    (h : (lines cs)[n]? = some line) : ∃ above below, IsLine cs n above line below := by
  rcases eq_or_eq_append_cons '\n' cs with whole | ⟨a, b, rfl, unbroken⟩
  · rw [lines, split_of_notMem whole] at h
    obtain ⟨low, rfl⟩ := List.getElem?_eq_some_iff.mp h
    obtain rfl : n = 0 := by simpa using low
    exact ⟨[], [], by simp, by simp, whole, by simp, by simp⟩
  · rw [lines, split_append_cons, split_of_notMem unbroken] at h
    cases n with
    | zero =>
      obtain rfl : a = line := by simpa using h
      exact ⟨[], '\n' :: b, by simp, by simp, unbroken, by simp, by simp⟩
    | succ n =>
      have h' : (lines b)[n]? = some line := by simpa [lines] using h
      obtain ⟨above, below, isLine⟩ := exists_isLine_of_getElem? h'
      exact ⟨_, below, isLine.cons unbroken⟩
termination_by cs.length

/-- The lines of a text are its pieces between newlines, numbered by the newlines above them. -/
theorem getElem?_lines_iff {cs : List Char} {n : Nat} {line : List Char} :
    (lines cs)[n]? = some line ↔ ∃ above below, IsLine cs n above line below :=
  ⟨exists_isLine_of_getElem?, fun ⟨_, _, h⟩ => h.getElem?_lines⟩

/-- A piece without a newline stands in one line. -/
theorem exists_isLine_around (before found after : List Char) (unbroken : '\n' ∉ found) :
    ∃ above b a below, before = above ++ b ∧ after = a ++ below ∧
      IsLine (before ++ found ++ after) (before.count '\n') above (b ++ found ++ a) below := by
  obtain ⟨above, b, rfl, clearBefore, starts⟩ := exists_last_cut '\n' before
  obtain ⟨a, below, rfl, clearAfter, ends⟩ := exists_cut '\n' after
  refine ⟨above, b, a, below, rfl, rfl, by simp, ?_, ?_, starts, ends⟩
  · simp [List.count_eq_zero_of_not_mem clearBefore]
  · simp [clearBefore, clearAfter, unbroken]

/-! ## Where lines begin -/

variable {cs above line below above' line' below' : List Char} {n n' : Nat}

theorem IsLine.isPrefix (isLine : IsLine cs n above line below) : above ++ line <+: cs :=
  isLine.text ▸ List.prefix_append _ _

theorem IsLine.count_eq (isLine : IsLine cs n above line below) :
    (above ++ line).count '\n' = n := by
  rw [List.count_append, List.count_eq_zero_of_not_mem isLine.unbroken, isLine.number]
  rfl

/-- A line ends before a later one begins. -/
theorem IsLine.length_le_of_lt (isLine : IsLine cs n above line below)
    (isLine' : IsLine cs n' above' line' below') (less : n < n') :
    above.length + line.length ≤ above'.length := by
  have first' : above' <+: cs := (List.prefix_append _ _).trans isLine'.isPrefix
  rw [← List.length_append]
  rcases List.prefix_or_prefix_of_prefix isLine.isPrefix first' with before | behind
  · exact before.length_le
  · have fewer := behind.sublist.count_le '\n'
    rw [isLine.count_eq, ← isLine'.number] at fewer
    omega

/-- What stands above a line is determined by the number of the line. -/
theorem IsLine.above_eq (isLine : IsLine cs n above line below)
    (isLine' : IsLine cs n above' line' below') : above = above' := by
  -- More text above would end in another newline.
  have longer {a b : List Char} (first : a <+: b) (ends : ∀ c ∈ b.getLast?, c = '\n')
      (same : a.count '\n' = b.count '\n') : a = b := by
    obtain ⟨more, rfl⟩ := first
    rcases List.eq_nil_or_concat more with rfl | ⟨more, c, rfl⟩
    · rw [List.append_nil]
    · obtain rfl : c = '\n' := ends c (by simp)
      simp at same
  have number : above.count '\n' = above'.count '\n' := isLine.number.symm.trans isLine'.number
  have first : above <+: cs := (List.prefix_append _ _).trans isLine.isPrefix
  have first' : above' <+: cs := (List.prefix_append _ _).trans isLine'.isPrefix
  rcases List.prefix_or_prefix_of_prefix first first' with before | behind
  · exact longer before isLine'.starts number
  · exact (longer behind isLine.starts number.symm).symm

/-- Some lines, each with the offset at which it begins; the first of them begins at `offset`. -/
def placed (offset : Nat) : List (List Char) → List (Nat × List Char)
  | [] => []
  | line :: lines => (offset, line) :: placed (offset + line.length + 1) lines

theorem map_snd_placed (offset : Nat) (ls : List (List Char)) :
    (placed offset ls).map Prod.snd = ls := by
  induction ls generalizing offset with
  | nil => rfl
  | cons line ls ih => rw [placed, List.map_cons, ih]

theorem placed_cons_of_notMem (offset : Nat) {a : List Char} (unbroken : '\n' ∉ a)
    (b : List Char) :
    placed offset (lines (a ++ '\n' :: b)) =
      (offset, a) :: placed (offset + a.length + 1) (lines b) := by
  rw [lines, split_append_cons, split_of_notMem unbroken, List.singleton_append, placed, lines]

/-- Every line stands where its offset says. -/
theorem exists_isLine_of_placed {cs line : List Char} {n offset k : Nat}
    (here : (placed offset (lines cs))[n]? = some (k, line)) :
    ∃ above below, IsLine cs n above line below ∧ k = offset + above.length := by
  rcases eq_or_eq_append_cons '\n' cs with whole | ⟨a, b, rfl, unbroken⟩
  · rw [lines, split_of_notMem whole] at here
    obtain ⟨low, same⟩ := List.getElem?_eq_some_iff.mp here
    obtain rfl : n = 0 := by simpa [placed] using low
    cases same
    exact ⟨[], [], ⟨by simp, by simp, whole, by simp, by simp⟩, by simp⟩
  · rw [placed_cons_of_notMem offset unbroken] at here
    cases n with
    | zero =>
      cases here
      exact ⟨[], '\n' :: b, ⟨by simp, by simp, unbroken, by simp, by simp⟩, by simp⟩
    | succ n =>
      obtain ⟨above, below, isLine, rfl⟩ := exists_isLine_of_placed here
      refine ⟨a ++ '\n' :: above, below, isLine.cons unbroken, ?_⟩
      simp only [List.length_append, List.length_cons]
      omega
termination_by cs.length

theorem mem_placed_iff {k : Nat} :
    (k, line) ∈ placed 0 (lines cs) ↔ ∃ n above below, IsLine cs n above line below ∧
      k = above.length := by
  rw [List.mem_iff_getElem?]
  constructor
  · rintro ⟨n, here⟩
    obtain ⟨above, below, isLine, rfl⟩ := exists_isLine_of_placed here
    exact ⟨n, above, below, isLine, Nat.zero_add _⟩
  · rintro ⟨n, above, below, isLine, rfl⟩
    have numbered := isLine.getElem?_lines
    rw [← map_snd_placed 0 (lines cs), List.getElem?_map, Option.map_eq_some_iff] at numbered
    obtain ⟨⟨k, _⟩, here, rfl⟩ := numbered
    obtain ⟨above', below', isLine', rfl⟩ := exists_isLine_of_placed here
    refine ⟨n, ?_⟩
    rw [here, isLine'.above_eq isLine, Nat.zero_add]

end LeakScan.Text
