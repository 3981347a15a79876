import Mathlib.Data.List.TakeWhile
import LeakScan.Proofs.Files.Collect
import LeakScan.Proofs.Text.Line

/-!
# Paths that are there

Whether a path is there is looked up by the text that is given for it; its files are collected by
the text of the path that this describes, which has no empty names and no single dots. What stands
at the one stands at the other (`find_ofText`): names that lead nowhere may be left out of those
that are followed (`follow_lightened`), and the text of a path is no longer than the text that
describes it. So a path that is there can be looked for (`sought_of_at?`).
-/

namespace LeakScan
set_option autoImplicit false

namespace Text

variable {separator : Char}

theorem notMem_of_mem_split {cs piece : List Char} (member : piece ∈ split separator cs) :
    separator ∉ piece := by
  rcases eq_or_eq_append_cons separator cs with whole | ⟨a, b, rfl, unbroken⟩
  · rw [split_of_notMem whole, List.mem_singleton] at member
    rwa [member]
  · rw [split_append_cons, split_of_notMem unbroken] at member
    obtain rfl | later := List.mem_cons.mp member
    · exact unbroken
    · exact notMem_of_mem_split later
termination_by cs.length

/-- Cutting undoes joining, if no piece holds a separator. -/
theorem split_intercalate {pieces : List (List Char)} (full : pieces ≠ [])
    (unbroken : ∀ piece ∈ pieces, separator ∉ piece) :
    split separator ([separator].intercalate pieces) = pieces := by
  induction pieces with
  | nil => exact absurd rfl full
  | cons piece pieces ih =>
    obtain ⟨first, others⟩ := List.forall_mem_cons.mp unbroken
    cases pieces with
    | nil => simpa using split_of_notMem first
    | cons next pieces =>
      rw [List.intercalate_cons_cons, List.append_assoc, List.singleton_append,
        split_append_cons, split_of_notMem first, ih (List.cons_ne_nil _ _) others]
      rfl

/-- Separators in front cut off pieces that are empty. -/
theorem split_slashes_append {slashes : List Char} (only : ∀ c ∈ slashes, c = separator)
    (cs : List Char) :
    split separator (slashes ++ cs) = slashes.map (fun _ => []) ++ split separator cs := by
  induction slashes with
  | nil => rfl
  | cons c slashes ih =>
    obtain ⟨rfl, others⟩ := List.forall_mem_cons.mp only
    have front := split_append_cons c [] (slashes ++ cs)
    rw [List.nil_append, ih others, split_of_notMem List.not_mem_nil] at front
    exact front

/-- Joining fewer pieces gives no more characters. -/
theorem sublist_intercalate {α : Type} {separator : List α} {fewer pieces : List (List α)}
    (among : fewer.Sublist pieces) :
    (separator.intercalate fewer).Sublist (separator.intercalate pieces) := by
  induction among with
  | slnil => exact List.Sublist.refl _
  | @cons fewer pieces piece among ih => exact ih.trans (intercalate_suffix_cons piece).sublist
  | @cons_cons fewer pieces piece among ih =>
    cases fewer with
    | nil =>
      rw [List.intercalate_singleton]
      exact (infix_intercalate List.mem_cons_self).sublist
    | cons next fewer =>
      obtain ⟨other, rest, rfl⟩ := List.exists_cons_of_ne_nil (List.ne_nil_of_mem
        (among.subset List.mem_cons_self))
      rw [List.intercalate_cons_cons, List.intercalate_cons_cons]
      exact ih.append_left _

theorem size_utf8Encode_le {cs ds : List Char} (among : cs.Sublist ds) :
    cs.utf8Encode.size ≤ ds.utf8Encode.size := by
  induction among with
  | slnil => exact le_rfl
  | @cons cs ds c among ih =>
    rw [List.utf8Encode_cons, ByteArray.size_append]
    omega
  | @cons_cons cs ds c among ih =>
    rw [List.utf8Encode_cons, @List.utf8Encode_cons c ds, ByteArray.size_append,
      ByteArray.size_append]
    omega

theorem utf8ByteSize_le {s t : String} (among : s.toList.Sublist t.toList) :
    s.utf8ByteSize ≤ t.utf8ByteSize := by
  rw [← String.size_toByteArray, ← String.size_toByteArray, ← String.utf8Encode_toList,
    ← String.utf8Encode_toList]
  exact size_utf8Encode_le among

end Text

namespace FilePath

theorem rootOf_eq_empty_iff {cs : List Char} : rootOf cs = "" ↔ cs.head? ≠ some '/' := by
  fun_cases rootOf cs
  · simp
  · simp
  · simp
  · rename_i other
    cases cs with
    | nil => simp
    | cons c cs =>
      simp only [List.head?_cons, ne_eq, Option.some.injEq, true_iff]
      rintro rfl
      exact other cs rfl

/-- A text begins with the slashes of its root. -/
theorem exists_eq_rootOf_append (cs : List Char) : ∃ rest, cs = (rootOf cs).toList ++ rest := by
  fun_cases rootOf cs
  · exact ⟨_, rfl⟩
  · exact ⟨_, rfl⟩
  · exact ⟨_, rfl⟩
  · exact ⟨_, rfl⟩

variable {s : String}

theorem root_ofText : (ofText s).root = rootOf s.toList := rfl

/-- The names of a path are the pieces that lead somewhere. -/
theorem map_toList_parts_ofText : (ofText s).parts.map String.toList =
    (Text.split '/' s.toList).filter fun piece => piece != [] && piece != ['.'] := by
  have same : (fun p : String => p != "" && p != ".") ∘ String.ofList =
      fun piece => piece != [] && piece != ['.'] := by
    funext piece
    rw [Bool.eq_iff_iff]
    simp [← String.toList_inj]
  have back : String.toList ∘ String.ofList = id := funext fun _ => String.toList_ofList
  rw [ofText, pieces, List.filter_map, same, List.map_map, back, List.map_id]

theorem unbroken_parts_ofText : ∀ part ∈ (ofText s).parts, '/' ∉ part.toList ∧ part ≠ "" := by
  intro part member
  obtain ⟨among, solid⟩ := List.mem_filter.mp member
  obtain ⟨piece, here, rfl⟩ := List.mem_map.mp among
  simp only [Bool.and_eq_true, bne_iff_ne] at solid
  rw [String.toList_ofList]
  exact ⟨Text.notMem_of_mem_split here, solid.1⟩

/-- The path of a text is the current folder, or its text is its root and its names with slashes
between them. -/
theorem text_ofText_cases (s : String) :
    (rootOf s.toList = "" ∧ (ofText s).parts = [] ∧ (ofText s).text = ".") ∨
      (rootOf s.toList ≠ "" ∨ (ofText s).parts ≠ []) ∧
        (ofText s).text.toList =
          (rootOf s.toList).toList ++ ['/'].intercalate ((ofText s).parts.map String.toList) := by
  by_cases here : rootOf s.toList = "" ∧ (ofText s).parts = []
  · refine .inl ⟨here.1, here.2, ?_⟩
    rw [text, if_pos (by simp [root_ofText, here])]
  · refine .inr ⟨by rwa [← not_and_or], ?_⟩
    rw [text, if_neg, String.toList_append, String.toList_intercalate]
    · rfl
    · rwa [root_ofText, Bool.and_eq_true, decide_eq_true_eq, List.isEmpty_iff]

/-- The text of a path is no longer than a text that describes it. -/
theorem utf8ByteSize_text_ofText_le (full : s ≠ "") :
    (ofText s).text.utf8ByteSize ≤ s.utf8ByteSize := by
  obtain ⟨rest, whole⟩ := exists_eq_rootOf_append s.toList
  have cut : Text.split '/' s.toList =
      (rootOf s.toList).toList.map (fun _ => []) ++ Text.split '/' rest := by
    conv => lhs; rw [whole]
    exact Text.split_slashes_append (rootOf_slashes _) rest
  obtain ⟨-, -, dot⟩ | ⟨-, named⟩ := text_ofText_cases s
  · rw [dot]
    have some : s.utf8ByteSize ≠ 0 := by simpa [String.utf8ByteSize_eq_zero_iff] using full
    exact Nat.one_le_iff_ne_zero.mpr some
  · refine Text.utf8ByteSize_le ?_
    have parts : ((ofText s).parts.map String.toList).Sublist (Text.split '/' rest) := by
      rw [map_toList_parts_ofText, cut, List.filter_append, List.filter_eq_nil_iff.mpr (by simp)]
      exact List.filter_sublist
    rw [named]
    conv => rhs; rw [whole]
    have joined := Text.intercalate_splitFrom '/' [] rest
    rw [List.reverse_nil, List.nil_append] at joined
    rw [← joined]
    exact (Text.sublist_intercalate parts).append_left _

theorem text_ofText_ne_empty (s : String) : (ofText s).text ≠ "" := by
  intro empty
  obtain ⟨-, -, dot⟩ | ⟨some, named⟩ := text_ofText_cases s
  · exact absurd (dot.symm.trans empty) (by decide)
  · obtain ⟨rootless, nameless⟩ :=
      List.append_eq_nil_iff.mp (named.symm.trans (String.toList_eq_nil_iff.mpr empty))
    obtain ⟨first, member⟩ := List.exists_mem_of_ne_nil _
      (some.resolve_left (· (String.toList_eq_nil_iff.mp rootless)))
    have inside : first.toList <:+: ['/'].intercalate ((ofText s).parts.map String.toList) :=
      Text.infix_intercalate (List.mem_map_of_mem member)
    rw [nameless, List.infix_nil] at inside
    exact (unbroken_parts_ofText first member).2 (String.toList_eq_nil_iff.mp inside)

/-- The text of a path leads from where the text that describes it leads. -/
theorem rootOf_text_ofText_iff :
    rootOf (ofText s).text.toList = "" ↔ rootOf s.toList = "" := by
  obtain ⟨rootless, -, dot⟩ | ⟨some, named⟩ := text_ofText_cases s
  · rw [dot, rootless]
    decide
  · rw [named, rootOf_eq_empty_iff]
    by_cases rootless : rootOf s.toList = ""
    · obtain ⟨first, parts, same⟩ := List.exists_cons_of_ne_nil (some.resolve_left (· rootless))
      obtain ⟨unbroken, solid⟩ :=
        unbroken_parts_ofText first (by rw [same]; exact List.mem_cons_self)
      obtain ⟨c, cs, start⟩ := List.exists_cons_of_ne_nil (mt String.toList_eq_nil_iff.mp solid)
      have other : c ≠ '/' := by
        rintro rfl
        exact unbroken (start ▸ List.mem_cons_self)
      have front : (['/'].intercalate ((ofText s).parts.map String.toList)).head? = .some c := by
        rw [same, List.map_cons, start]
        cases parts <;> rfl
      rw [rootless, String.toList_empty, List.nil_append, front]
      simpa using other
    · have slashes := rootOf_slashes s.toList
      obtain ⟨c, cs, start⟩ := List.exists_cons_of_ne_nil (mt String.toList_eq_nil_iff.mp rootless)
      rw [start] at slashes ⊢
      simp [slashes c List.mem_cons_self, rootless]

/-- The pieces of the text of a path are its names, after some that lead nowhere. -/
theorem exists_pieces_text_ofText (s : String) :
    ∃ idle, pieces (ofText s).text = idle ++ (ofText s).parts ∧
      ∀ name ∈ idle, name = "" ∨ name = "." := by
  obtain ⟨-, none, dot⟩ | ⟨-, named⟩ := text_ofText_cases s
  · rw [none, dot]
    exact ⟨["."], by decide +kernel, by simp⟩
  · have empty : ∀ name ∈ ((rootOf s.toList).toList.map fun _ => []).map String.ofList,
        name = "" ∨ name = "." := by simp
    rw [pieces, named, Text.split_slashes_append (rootOf_slashes _), List.map_append]
    cases parts : (ofText s).parts with
    | nil =>
      refine ⟨_ ++ [""], (List.append_nil _).symm, fun name member => ?_⟩
      obtain slash | last := List.mem_append.mp member
      · exact empty name slash
      · exact .inl (List.mem_singleton.mp last)
    | cons first rest =>
      have back : String.ofList ∘ String.toList = id := funext fun _ => String.ofList_toList
      rw [← parts, Text.split_intercalate, @List.map_map _ _ _ _ _ (ofText s).parts, back,
        List.map_id]
      · exact ⟨_, rfl, empty⟩
      · simp [parts]
      · intro piece member
        obtain ⟨part, among, rfl⟩ := List.mem_map.mp member
        exact (unbroken_parts_ofText part among).1

end FilePath

namespace FileTree

variable {t : FileTree} {node : Node}

/-- Some names without some of those that lead nowhere. -/
inductive Lightened : List String → List String → Prop where
  | nil : Lightened [] []
  | keep {names lighter : List String} (name : String) (rest : Lightened names lighter) :
    Lightened (name :: names) (name :: lighter)
  | drop {names lighter : List String} {name : String} (idle : name = "" ∨ name = ".")
    (rest : Lightened names lighter) : Lightened (name :: names) lighter

namespace Lightened

variable {names lighter : List String}

theorem append_left (first : List String) (rest : Lightened names lighter) :
    Lightened (first ++ names) (first ++ lighter) := by
  induction first with
  | nil => exact rest
  | cons name first ih => exact .keep name ih

/-- A name that leads somewhere stays. -/
theorem exists_eq_cons {name : String} (light : Lightened (name :: names) lighter)
    (leads : (name = "" || name = ".") ≠ true) :
    ∃ rest, lighter = name :: rest ∧ Lightened names rest := by
  cases light with
  | keep _ rest => exact ⟨_, rfl, rest⟩
  | drop idle _ => exact absurd (by simpa using idle) leads

theorem filter (names : List String) :
    Lightened names (names.filter fun p => p != "" && p != ".") := by
  induction names with
  | nil => exact .nil
  | cons name names ih =>
    rw [List.filter_cons]
    split
    · exact .keep name ih
    · rename_i idle
      refine .drop ?_ ih
      rwa [Bool.and_eq_true, bne_iff_ne, bne_iff_ne, not_and_or, not_not, not_not] at idle

end Lightened

/-- What some names lead to, they lead to without some that lead nowhere. -/
theorem follow_lightened {links : Nat} {p : Position} {names : List String}
    (found : follow links p names = .ok node) :
    ∀ {lighter : List String}, Lightened names lighter → follow links p lighter = .ok node := by
  fun_induction follow links p names with
  | case1 links p =>
    rintro _ ⟨⟩
    rw [follow]
    exact found
  | case2 links p name names idle ih =>
    intro lighter light
    cases light with
    | keep _ rest =>
      rw [follow, if_pos idle]
      exact ih found rest
    | drop _ rest => exact ih found rest
  | case3 links p names leads ih =>
    intro lighter light
    obtain ⟨lighter, rfl, rest⟩ := light.exists_eq_cons leads
    rw [follow, if_neg leads, if_pos rfl]
    exact ih found rest
  | case4 => cases found
  | case5 => cases found
  | case6 links p name names leads other short entries inner ih =>
    intro lighter light
    obtain ⟨lighter, rfl, rest⟩ := light.exists_eq_cons leads
    rw [follow, if_neg leads, if_neg other, if_neg short]
    simp only [inner]
    exact ih found rest
  | case7 links p name names leads other short content readable inner last =>
    intro lighter light
    obtain ⟨lighter, rfl, rest⟩ := light.exists_eq_cons leads
    obtain rfl := List.isEmpty_iff.mp last
    cases rest
    rw [follow, if_neg leads, if_neg other, if_neg short]
    simp only [inner, List.isEmpty_nil, if_true]
    exact found
  | case8 => cases found
  | case9 => cases found
  | case10 p name names leads other short target inner links ih =>
    intro lighter light
    obtain ⟨lighter, rfl, rest⟩ := light.exists_eq_cons leads
    rw [follow, if_neg leads, if_neg other, if_neg short]
    simp only [inner]
    exact ih found (rest.append_left _)

/-- Names that lead nowhere may be put in front. -/
theorem follow_idle_append (links : Nat) (p : Position) {idle : List String}
    (all : ∀ name ∈ idle, name = "" ∨ name = ".") (names : List String) :
    follow links p (idle ++ names) = follow links p names := by
  induction idle with
  | nil => rfl
  | cons name idle ih =>
    obtain ⟨first, others⟩ := List.forall_mem_cons.mp all
    rw [List.cons_append, follow, if_pos (by simpa using first), ih others]

/-- A text that may name a place: it is neither empty nor too long, and it holds no zero. -/
structure IsPathText (s : String) : Prop where
  zeroless : '\x00' ∉ s.toList
  full : s ≠ ""
  short : s.utf8ByteSize < maxPathBytes

theorem IsPathText.at?_eq {s : String} (isText : IsPathText s) (t : FileTree) :
    t.at? s = follow maxLinks (t.current.startOf s) (FilePath.pieces s) := by
  rw [at?, if_neg (by simpa using isText.zeroless), if_neg isText.full,
    if_neg (Nat.not_le.mpr isText.short)]

theorem isPathText_of_at? {s : String} (found : t.at? s = .ok node) : IsPathText s := by
  rw [at?] at found
  split at found
  · cases found
  · rename_i zeroless
    split at found
    · cases found
    · rename_i full
      split at found
      · cases found
      · rename_i short
        exact ⟨by simpa using zeroless, full, Nat.not_le.mp short⟩

theorem IsPathText.text_ofText {s : String} (isText : IsPathText s) :
    IsPathText (FilePath.ofText s).text where
  zeroless := (FilePath.zeroless_ofText isText.zeroless).zero_notMem_text
  full := FilePath.text_ofText_ne_empty s
  short := (FilePath.utf8ByteSize_text_ofText_le isText.full).trans_lt isText.short

/-- What stands at the place that a text names stands at the path that it describes. -/
theorem find_ofText {s : String} (found : t.at? s = .ok node) : t.find (.ofText s) = .ok node := by
  have isText := isPathText_of_at? found
  obtain ⟨idle, pieces, all⟩ := FilePath.exists_pieces_text_ofText s
  have start : t.current.startOf (FilePath.ofText s).text = t.current.startOf s := by
    simp only [Position.startOf, FilePath.rootOf_text_ofText_iff]
  rw [isText.at?_eq] at found
  rw [find, isText.text_ofText.at?_eq, start, pieces, follow_idle_append _ _ all]
  exact follow_lightened found (.filter _)

/-- A path that is there can be looked for. -/
theorem sought_of_at? {path : String} (found : t.at? path = .ok node) : t.Sought path where
  zeroless := by
    intro zero
    rw [at?, if_pos (by simpa using zero)] at found
    cases found
  told e := by
    rw [folder?, find_ofText found]
    intro fails
    cases node <;> cases fails

end FileTree
end LeakScan
