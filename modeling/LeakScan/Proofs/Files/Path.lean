import Mathlib.Data.List.Infix
import LeakScan.Files.Path

/-!
# What a path holds

The last two steps of a path are tested before a file is read, and its whole text after that. A text
that the steps hold, and that does not start with a slash, is held by the whole
(`FilePath.infix_text_of_ending`), though the steps may have a slash more in front. A path of names
without the character zero has a text without it (`FilePath.Zeroless.zero_notMem_text`).
-/

namespace LeakScan
set_option autoImplicit false

namespace Text

variable {α : Type} {separator : List α} {pieces : List (List α)}

theorem mem_intercalate {a : α} (member : a ∈ separator.intercalate pieces) :
    a ∈ separator ∨ ∃ piece ∈ pieces, a ∈ piece := by
  induction pieces with
  | nil => cases member
  | cons piece pieces ih =>
    cases pieces with
    | nil => exact .inr ⟨piece, List.mem_cons_self, by simpa using member⟩
    | cons next pieces =>
      rw [List.intercalate_cons_cons, List.mem_append, List.mem_append] at member
      obtain (here | between) | later := member
      · exact .inr ⟨piece, List.mem_cons_self, here⟩
      · exact .inl between
      · obtain between | ⟨other, among, here⟩ := ih later
        · exact .inl between
        · exact .inr ⟨other, List.mem_cons_of_mem _ among, here⟩

theorem intercalate_suffix_cons (piece : List α) :
    separator.intercalate pieces <:+ separator.intercalate (piece :: pieces) := by
  cases pieces with
  | nil => exact List.nil_suffix
  | cons next pieces =>
    rw [List.intercalate_cons_cons]
    exact List.suffix_append _ _

theorem intercalate_drop_suffix (n : Nat) :
    separator.intercalate (pieces.drop n) <:+ separator.intercalate pieces := by
  induction n generalizing pieces with
  | zero => exact List.suffix_rfl
  | succ n ih =>
    cases pieces with
    | nil => exact List.suffix_rfl
    | cons piece pieces => exact ih.trans (intercalate_suffix_cons piece)

theorem infix_intercalate {piece : List α} (member : piece ∈ pieces) :
    piece <:+: separator.intercalate pieces := by
  induction pieces with
  | nil => cases member
  | cons first pieces ih =>
    obtain rfl | later := List.mem_cons.mp member
    · cases pieces with
      | nil => simp
      | cons next pieces =>
        rw [List.intercalate_cons_cons, List.append_assoc]
        exact (List.prefix_append _ _).isInfix
    · exact (ih later).trans (intercalate_suffix_cons first).isInfix

/-- The pieces that a text is cut into have no character that it has not. -/
theorem subset_of_mem_split {separator : Char} {cs piece : List Char}
    (member : piece ∈ split separator cs) : piece ⊆ cs := by
  have whole := intercalate_splitFrom separator [] cs
  rw [List.reverse_nil, List.nil_append] at whole
  rw [← whole]
  exact (infix_intercalate member).subset

/-- What starts with another character stands behind the slashes. -/
theorem infix_of_slashes {part slashes cs : List Char} (inner : part.head? ≠ some '/')
    (only : ∀ c ∈ slashes, c = '/') (held : part <:+: slashes ++ cs) : part <:+: cs := by
  induction slashes with
  | nil => exact held
  | cons c slashes ih =>
    obtain ⟨rfl, rest⟩ := List.forall_mem_cons.mp only
    refine ih rest ?_
    obtain first | later := List.infix_cons_iff.mp held
    · cases part with
      | nil => exact List.nil_infix
      | cons c part =>
        obtain ⟨same, -⟩ := List.cons_prefix_cons.mp first
        exact absurd (congrArg some same) inner
    · exact later

end Text

namespace FilePath

variable {p : FilePath}

/-- A path without the character zero. -/
structure Zeroless (p : FilePath) : Prop where
  root : '\x00' ∉ p.root.toList
  parts : ∀ part ∈ p.parts, '\x00' ∉ part.toList

theorem rootOf_slashes (cs : List Char) : ∀ c ∈ (rootOf cs).toList, c = '/' := by
  fun_cases rootOf cs <;> simp

theorem Zeroless.child (zeroless : p.Zeroless) {name : String} (named : '\x00' ∉ name.toList) :
    (p.child name).Zeroless := by
  refine ⟨zeroless.root, fun part member => ?_⟩
  obtain earlier | last := List.mem_append.mp member
  · exact zeroless.parts part earlier
  · rw [List.mem_singleton.mp last]
    exact named

theorem Zeroless.zero_notMem_text (zeroless : p.Zeroless) : '\x00' ∉ p.text.toList := by
  rw [text]
  split
  · decide
  · rw [String.toList_append, String.toList_intercalate, List.mem_append]
    rintro (inRoot | inParts)
    · exact zeroless.root inRoot
    · obtain between | ⟨cs, among, here⟩ := Text.mem_intercalate inParts
      · exact absurd between (by decide)
      · obtain ⟨part, member, rfl⟩ := List.mem_map.mp among
        exact zeroless.parts part member here

theorem zeroless_ofText {s : String} (zeroless : '\x00' ∉ s.toList) : (ofText s).Zeroless := by
  constructor
  · intro zero
    exact absurd (rootOf_slashes _ _ zero) (by decide)
  · intro part member zero
    obtain ⟨among, -⟩ := List.mem_filter.mp member
    obtain ⟨cs, piece, rfl⟩ := List.mem_map.mp among
    rw [String.toList_ofList] at zero
    exact zeroless (Text.subset_of_mem_split piece zero)

theorem text_eq_append (named : p.parts ≠ []) : p.text = p.root ++ "/".intercalate p.parts := by
  rw [text, if_neg]
  simp [named]

/-- A text with the character zero describes a path with it. -/
theorem zero_mem_text_ofText {s : String} (zero : '\x00' ∈ s.toList) :
    '\x00' ∈ (ofText s).text.toList := by
  have whole := Text.intercalate_splitFrom '/' [] s.toList
  rw [List.reverse_nil, List.nil_append] at whole
  rw [← whole] at zero
  obtain between | ⟨cs, piece, here⟩ := Text.mem_intercalate zero
  · exact absurd between (by decide)
  · have part : String.ofList cs ∈ (ofText s).parts := by
      refine List.mem_filter.mpr ⟨List.mem_map_of_mem piece, ?_⟩
      have full : cs ≠ [] := List.ne_nil_of_mem here
      have other : cs ≠ ['.'] := by
        rintro rfl
        exact absurd here (by decide)
      simpa [← String.toList_inj] using ⟨full, other⟩
    rw [text_eq_append (List.ne_nil_of_mem part), String.toList_append, String.toList_intercalate]
    refine List.mem_append_right _
      ((Text.infix_intercalate (List.mem_map_of_mem part)).subset ?_)
    rwa [String.toList_ofList]

/-- What the last two steps of a path hold is held by its text, unless it starts with a slash. -/
theorem infix_text_of_ending (slashes : ∀ c ∈ p.root.toList, c = '/') (named : p.parts ≠ [])
    {part : List Char} (inner : part.head? ≠ some '/') (held : part <:+: p.ending.toList) :
    part <:+: p.text.toList := by
  rw [text_eq_append named, String.toList_append, String.toList_intercalate]
  rw [ending, String.toList_intercalate, List.map_drop] at held
  refine List.IsInfix.trans ?_ (List.suffix_append _ _).isInfix
  rw [steps] at held
  split at held
  · exact held.trans (Text.intercalate_drop_suffix _).isInfix
  · obtain ⟨first, rest, parts⟩ := List.exists_cons_of_ne_nil named
    rw [parts] at held ⊢
    cases rest with
    | nil =>
      -- The slashes in front and the one after them do not start the part.
      have only : ∀ c ∈ p.root.toList ++ ['/'], c = '/' := by
        rw [List.forall_mem_append]
        exact ⟨slashes, by simp⟩
      exact Text.infix_of_slashes inner only (by simpa using held)
    | cons next rest =>
      have later : part <:+: "/".toList.intercalate
          (((first :: next :: rest).map String.toList).drop rest.length) := held
      exact later.trans (Text.intercalate_drop_suffix _).isInfix

end FilePath
end LeakScan
