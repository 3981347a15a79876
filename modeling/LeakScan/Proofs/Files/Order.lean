import Mathlib.Data.List.Nodup
import Mathlib.Data.List.Perm.Basic
import Mathlib.Data.String.Basic
import LeakScan.Proofs.Files.Existing

/-!
# The order of a walk

A walk brings the files of a folder by name, and after them those of its folders, one folder after
another by name (`WalkOrder`). In a tree of distinct names (`Node.WellNamed`) what is below a folder
stands in this order (`pairwise_filesBelow`), so no file comes twice, and neither does its text
(`nodup_text_filesBelow`).
-/

namespace LeakScan
set_option autoImplicit false

/-- Of two files, each the names that lead to it, the one comes before the other in a walk. -/
inductive WalkOrder : List String → List String → Prop where
  | files {a b : String} (less : a < b) : WalkOrder [a] [b]
  | first {a b c : String} {rest : List String} : WalkOrder [a] (b :: c :: rest)
  | folders {a b c d : String} {rest others : List String} (less : a < b) :
    WalkOrder (a :: c :: rest) (b :: d :: others)
  | inside {a : String} {names others : List String} (before : WalkOrder names others) :
    WalkOrder (a :: names) (a :: others)

/-- What a name in a folder is: not empty, no dots alone, and without slash or zero. -/
structure IsName (name : String) : Prop where
  solid : name ∉ ["", ".", ".."]
  unbroken : '/' ∉ name.toList
  zeroless : '\x00' ∉ name.toList

instance (name : String) : Decidable (IsName name) :=
  decidable_of_iff (name ∉ ["", ".", ".."] ∧ '/' ∉ name.toList ∧ '\x00' ∉ name.toList)
    ⟨fun ⟨solid, unbroken, zeroless⟩ => ⟨solid, unbroken, zeroless⟩,
      fun ⟨solid, unbroken, zeroless⟩ => ⟨solid, unbroken, zeroless⟩⟩

/-- In every folder of it the names are names, each of them once. -/
inductive Node.WellNamed : Node → Prop where
  | file (content : ByteArray) (readable : Bool) : WellNamed (.file content readable)
  | link (target : String) : WellNamed (.link target)
  | folder {entries : List (String × Node)} (apart : (entries.map Prod.fst).Nodup)
    (names : ∀ e ∈ entries, IsName e.1) (below : ∀ e ∈ entries, WellNamed e.2) :
    WellNamed (.folder entries)

namespace WalkOrder

variable {names others : List String}

theorem irrefl (names : List String) : ¬WalkOrder names names := by
  induction names with
  | nil => nofun
  | cons name names ih =>
    intro before
    cases before with
    | files less | folders less => exact lt_irrefl _ less
    | inside before => exact ih before

theorem append_left (before : WalkOrder names others) (above : List String) :
    WalkOrder (above ++ names) (above ++ others) := by
  induction above with
  | nil => exact before
  | cons name above ih => exact .inside ih

end WalkOrder

theorem Node.WellNamed.zeroless {node : Node} (named : node.WellNamed) : node.Zeroless := by
  induction named with
  | file content readable => exact .file content readable
  | link target => exact .link target
  | folder _ names _ below => exact .folder (fun e member => (names e member).zeroless) below

namespace FileTree

theorem inherited_wellNamed : Inherited Node.WellNamed where
  empty := .folder .nil nofun nofun
  entry named := by
    cases named with
    | folder _ _ below => exact below

/-! ## Names in order -/

section ByName

variable {α : Type} {items : List (String × α)}

theorem perm_byName (items : List (String × α)) : (byName items).Perm items :=
  List.mergeSort_perm ..

theorem pairwise_byName (items : List (String × α)) :
    (byName items).Pairwise fun a b => a.1 ≤ b.1 := by
  have sorted := @List.pairwise_mergeSort _ (fun a b : String × α => decide (a.1 ≤ b.1))
    (fun a b c => by simpa using le_trans) (fun a b => by simpa using String.le_total a.1 b.1) items
  exact sorted.imp of_decide_eq_true

/-- Where names are apart, they stand in strict order. -/
theorem pairwise_lt_byName (apart : (items.map Prod.fst).Nodup) :
    (byName items).Pairwise fun a b => a.1 < b.1 := by
  have others : ((byName items).map Prod.fst).Pairwise (· ≠ ·) :=
    ((perm_byName items).map Prod.fst).nodup_iff.mpr apart
  refine ((pairwise_byName items).and (List.pairwise_map.mp others)).imp fun both => ?_
  exact lt_of_le_of_ne both.1 both.2

/-- Where names are apart, the order in which they are listed does not count. -/
theorem byName_eq_of_perm {listed : List (String × α)} (apart : (items.map Prod.fst).Nodup)
    (order : items.Perm listed) : byName items = byName listed := by
  refine List.Perm.eq_of_pairwise ?_ (pairwise_byName items) (pairwise_byName listed)
    ((perm_byName items).trans (order.trans (perm_byName listed).symm))
  intro a b here there le ge
  refine List.inj_on_of_nodup_map apart ((perm_byName items).mem_iff.mp here) ?_ (le_antisymm le ge)
  exact order.mem_iff.mpr ((perm_byName listed).mem_iff.mp there)

/-- The names alone stand in an order that depends on nothing else. -/
theorem map_fst_byName_eq {β : Type} {listed : List (String × β)}
    (order : (items.map Prod.fst).Perm (listed.map Prod.fst)) :
    (byName items).map Prod.fst = (byName listed).map Prod.fst :=
  List.Perm.eq_of_pairwise (fun _ _ _ _ => le_antisymm)
    (List.pairwise_map.mpr (pairwise_byName items)) (List.pairwise_map.mpr (pairwise_byName listed))
    (((perm_byName items).map _).trans (order.trans ((perm_byName listed).map _).symm))

end ByName

/-! ## Files below a folder -/

variable {t : FileTree} {p q : FilePath} {entries : List (String × Node)}

/-- The folder that an entry is, with the files below it, if it is one that is walked through. -/
def walked? (t : FileTree) (p : FilePath) : String × Node → Option (String × List FilePath)
  | (name, .folder inner) =>
    if isWalked name then some (name, t.filesBelow (p.child name) (.folder inner)) else none
  | _ => none

theorem filesInFolders_eq (t : FileTree) (p : FilePath) (entries : List (String × Node)) :
    t.filesInFolders p entries = entries.filterMap (t.walked? p) := by
  induction entries with
  | nil => rw [filesInFolders, List.filterMap_nil]
  | cons e entries ih =>
    obtain ⟨name, node⟩ := e
    rw [List.filterMap_cons, ← ih]
    cases node with
    | folder inner =>
      simp only [filesInFolders, walked?]
      split <;> rfl
    | file | link => simp only [filesInFolders, walked?]

theorem mem_filesInFolders_iff {name : String} {files : List FilePath} :
    (name, files) ∈ t.filesInFolders p entries ↔ ∃ inner, (name, .folder inner) ∈ entries ∧
      isWalked name = true ∧ files = t.filesBelow (p.child name) (.folder inner) := by
  rw [filesInFolders_eq, List.mem_filterMap]
  constructor
  · rintro ⟨⟨other, node⟩, member, walked⟩
    cases node with
    | folder inner =>
      rw [walked?] at walked
      split at walked
      · rename_i kept
        cases walked
        exact ⟨inner, member, kept, rfl⟩
      · cases walked
    | file | link => cases walked
  · rintro ⟨inner, member, kept, rfl⟩
    exact ⟨_, member, by rw [walked?, if_pos kept]⟩

theorem filesInFolders_sublist (t : FileTree) (p : FilePath) (entries : List (String × Node)) :
    ((t.filesInFolders p entries).map Prod.fst).Sublist (entries.map Prod.fst) := by
  rw [filesInFolders_eq]
  induction entries with
  | nil => exact .slnil
  | cons e entries ih =>
    obtain ⟨name, node⟩ := e
    rw [List.filterMap_cons]
    cases walked : t.walked? p (name, node) with
    | none => exact ih.cons _
    | some folder =>
      have same : folder.1 = name := by
        cases node with
        | folder inner =>
          rw [walked?] at walked
          split at walked <;> cases walked
          rfl
        | file | link => cases walked
      rw [List.map_cons, List.map_cons, same]
      exact ih.cons_cons _

/-- Names lead from a folder to each file that a walk of it reaches. -/
theorem Reached.exists_parts (reached : Reached p entries q) :
    ∃ name names, q.parts = p.parts ++ name :: names := by
  induction reached with
  | @file p _ e => exact ⟨e.1, [], rfl⟩
  | @through p q _ _ folder _ _ _ ih =>
    obtain ⟨name, names, parts⟩ := ih
    refine ⟨folder, name :: names, ?_⟩
    rw [parts, FilePath.child, List.append_assoc, List.singleton_append]

/-- Names lead from a folder to each file below a folder in it. -/
theorem exists_parts_of_mem_filesBelow {name : String} {inner : List (String × Node)}
    (member : q ∈ t.filesBelow (p.child name) (.folder inner)) :
    ∃ next names, q.parts = p.parts ++ name :: next :: names := by
  obtain ⟨_, -, reached⟩ := reached_of_mem_filesBelow t _ _ member
  obtain ⟨next, names, parts⟩ := reached.exists_parts
  refine ⟨next, names, ?_⟩
  rw [parts, FilePath.child, List.append_assoc, List.singleton_append]

/-- What is below a folder stands in the order of a walk. -/
theorem pairwise_filesBelow {node : Node} (named : node.WellNamed) (p : FilePath) :
    (t.filesBelow p node).Pairwise fun q r => WalkOrder q.parts r.parts := by
  induction named generalizing p with
  | file | link =>
    simp only [filesBelow]
    exact .nil
  | @folder entries apart names below ih =>
    have listed : ((entries.filter (t.isListed p)).map Prod.fst).Nodup :=
      apart.sublist (List.filter_sublist.map _)
    have folders : ((t.filesInFolders p entries).map Prod.fst).Nodup :=
      apart.sublist (filesInFolders_sublist t p entries)
    rw [filesBelow, List.pairwise_append, ownFiles, List.pairwise_map, List.pairwise_flatMap]
    -- The folder's own files, the files of one of its folders, those of two, and the former before
    -- the latter.
    refine ⟨?_, ⟨?_, ?_⟩, ?_⟩
    · exact (pairwise_lt_byName listed).imp fun less =>
        (WalkOrder.files less).append_left p.parts
    · rintro ⟨name, files⟩ among
      obtain ⟨inner, member, -, rfl⟩ := mem_filesInFolders_iff.mp (mem_byName_iff.mp among)
      exact ih _ member (p.child name)
    · refine (pairwise_lt_byName folders).imp_of_mem ?_
      rintro ⟨name, files⟩ ⟨other, others⟩ among among' less q member r member'
      obtain ⟨inner, -, -, rfl⟩ := mem_filesInFolders_iff.mp (mem_byName_iff.mp among)
      obtain ⟨inner', -, -, rfl⟩ := mem_filesInFolders_iff.mp (mem_byName_iff.mp among')
      obtain ⟨next, rest, parts⟩ := exists_parts_of_mem_filesBelow member
      obtain ⟨next', rest', parts'⟩ := exists_parts_of_mem_filesBelow member'
      rw [parts, parts']
      exact (WalkOrder.folders less).append_left p.parts
    · rintro q own r deeper
      obtain ⟨e, -, rfl⟩ := List.mem_map.mp own
      obtain ⟨⟨name, files⟩, among, member⟩ := List.mem_flatMap.mp deeper
      obtain ⟨inner, -, -, rfl⟩ := mem_filesInFolders_iff.mp (mem_byName_iff.mp among)
      obtain ⟨next, rest, parts⟩ := exists_parts_of_mem_filesBelow member
      rw [parts]
      exact WalkOrder.first.append_left p.parts

/-! ## Files that come once -/

/-- A walk leads through names without a slash. -/
theorem Reached.unbroken (reached : Reached p entries q) (named : (Node.folder entries).WellNamed)
    (given : ∀ part ∈ p.parts, '/' ∉ part.toList) : ∀ part ∈ q.parts, '/' ∉ part.toList := by
  have child {p : FilePath} {name : String} (given : ∀ part ∈ p.parts, '/' ∉ part.toList)
      (isName : IsName name) : ∀ part ∈ (p.child name).parts, '/' ∉ part.toList := by
    rw [FilePath.child, List.forall_mem_append, List.forall_mem_singleton]
    exact ⟨given, isName.unbroken⟩
  induction reached with
  | file stands =>
    cases named with
    | folder _ names _ => exact child given (names _ stands)
  | through stands _ _ ih =>
    cases named with
    | folder _ names below => exact ih (below _ stands) (child given (names _ stands))

end FileTree

/-- The text of a path tells its names, if none of them has a slash. -/
theorem FilePath.parts_eq_of_text_eq {q r : FilePath} (root : q.root = r.root)
    (named : q.parts ≠ []) (named' : r.parts ≠ []) (unbroken : ∀ part ∈ q.parts, '/' ∉ part.toList)
    (unbroken' : ∀ part ∈ r.parts, '/' ∉ part.toList) (same : q.text = r.text) :
    q.parts = r.parts := by
  rw [text_eq_append named, text_eq_append named', root] at same
  have joined := congrArg String.toList same
  rw [String.toList_append, String.toList_append, List.append_cancel_left_eq,
    String.toList_intercalate, String.toList_intercalate] at joined
  have cut := congrArg (Text.split '/') joined
  have split {parts : List String} (named : parts ≠ [])
      (unbroken : ∀ part ∈ parts, '/' ∉ part.toList) :
      Text.split '/' ("/".toList.intercalate (parts.map String.toList)) =
        parts.map String.toList :=
    Text.split_intercalate (by simpa using named) (by simpa using unbroken)
  rw [split named unbroken, split named' unbroken'] at cut
  exact List.map_injective_iff.mpr (fun _ _ => String.toList_inj.mp) cut

/-- The files below a folder have different texts. -/
theorem FileTree.nodup_text_filesBelow {t : FileTree} {entries : List (String × Node)}
    (named : (Node.folder entries).WellNamed) (path : String) :
    ((t.filesBelow (.ofText path) (.folder entries)).map FilePath.text).Nodup := by
  have once : (t.filesBelow (.ofText path) (.folder entries)).Nodup := by
    refine (pairwise_filesBelow named _).imp fun before same => ?_
    rw [same] at before
    exact WalkOrder.irrefl _ before
  refine List.Nodup.map_on (fun q member r member' same => ?_) once
  obtain ⟨_, ⟨⟩, reached⟩ := reached_of_mem_filesBelow t _ _ member
  obtain ⟨_, ⟨⟩, reached'⟩ := reached_of_mem_filesBelow t _ _ member'
  have given : ∀ part ∈ (FilePath.ofText path).parts, '/' ∉ part.toList :=
    fun part among => (FilePath.unbroken_parts_ofText part among).1
  have root : q.root = r.root := reached.root_eq.trans reached'.root_eq.symm
  have parts := FilePath.parts_eq_of_text_eq root reached.parts_ne_nil reached'.parts_ne_nil
    (reached.unbroken named given) (reached'.unbroken named given) same
  cases q
  cases r
  cases root
  cases parts
  rfl

end LeakScan
