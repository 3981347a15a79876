import LeakScan.Files.Collect
import LeakScan.Proofs.Files.Path
import LeakScan.Proofs.Finding.Scan

/-!
# What a collection brings

A walk reaches the files of a folder and of the folders that it keeps below it
(`FileTree.Reached`, `mem_filesBelow`, `reached_of_mem_filesBelow`). A collection brings the
candidates that can be uploaded, all of them and nothing else (`collect_outcome`), unless a given
path cannot be looked for. Among them is every file that a walk reaches, that can be read and is not
too large, and whose last two steps hold a sensitive name (`upload?_of_sensitive`).
-/

namespace LeakScan
set_option autoImplicit false

/-- No name in it holds the character zero, as it is with the names of files. -/
inductive Node.Zeroless : Node → Prop where
  | file (content : ByteArray) (readable : Bool) : Zeroless (.file content readable)
  | link (target : String) : Zeroless (.link target)
  | folder {entries : List (String × Node)} (names : ∀ e ∈ entries, '\x00' ∉ e.1.toList)
    (below : ∀ e ∈ entries, Zeroless e.2) : Zeroless (.folder entries)

namespace FileTree

/-! ## Looking for a path -/

theorem mem_of_entry?_eq_some {name : String} {node : Node} {entries : List (String × Node)}
    (found : entry? name entries = some node) : (name, node) ∈ entries := by
  induction entries with
  | nil => cases found
  | cons e entries ih =>
    rw [ entry?] at found
    split at found
    · rename_i same
      cases found
      rw [← same]
      exact List.mem_cons_self
    · exact List.mem_cons_of_mem _ (ih found)

/-- A name that leads to an entry: it is no dot and not too long. -/
def IsEntryName (name : String) : Prop :=
  name ∉ ["", ".", ".."] ∧ name.utf8ByteSize ≤ maxNameBytes

instance (name : String) : Decidable (IsEntryName name) :=
  inferInstanceAs (Decidable (_ ∧ _))

theorem follow_folder {links : Nat} {p : Position} {name : String} {names : List String}
    {entries : List (String × Node)} (named : IsEntryName name)
    (found : entry? name p.here = some (.folder entries)) :
    follow links p (name :: names) = follow links (p.down entries) names := by
  obtain ⟨other, short⟩ := named
  simp only [List.mem_cons, List.not_mem_nil, or_false, not_or] at other
  obtain ⟨full, here, above⟩ := other
  rw [follow]
  simp only [full, here, above, found, Nat.not_lt.mpr short, decide_false, Bool.or_self,
    Bool.false_eq_true, if_false]

theorem follow_up (links : Nat) (p : Position) (names : List String) :
    follow links p (".." :: names) = follow links p.up names := by
  rw [follow, if_neg (by decide), if_pos rfl]

theorem follow_link {links : Nat} {p : Position} {name target : String} (named : IsEntryName name)
    (found : entry? name p.here = some (.link target)) (names : List String) :
    follow (links + 1) p (name :: names) =
      follow links (p.startOf target) (FilePath.pieces target ++ names) := by
  obtain ⟨other, short⟩ := named
  simp only [List.mem_cons, List.not_mem_nil, or_false, not_or] at other
  obtain ⟨full, here, above⟩ := other
  rw [follow]
  simp only [full, here, above, found, Nat.not_lt.mpr short, decide_false, Bool.or_self,
    Bool.false_eq_true, if_false]

theorem follow_file {links : Nat} {p : Position} {name : String} {content : ByteArray}
    {readable : Bool} (named : IsEntryName name)
    (found : entry? name p.here = some (.file content readable)) :
    follow links p [name] = .ok (.file content readable) := by
  obtain ⟨other, short⟩ := named
  simp only [List.mem_cons, List.not_mem_nil, or_false, not_or] at other
  obtain ⟨full, here, above⟩ := other
  rw [follow]
  simp only [full, here, above, found, Nat.not_lt.mpr short, decide_false, Bool.or_self,
    Bool.false_eq_true, if_false, List.isEmpty_nil, if_true]

/-- A text that leads on from the current folder. -/
def IsRelative (s : String) : Prop :=
  '\x00' ∉ s.toList ∧ s ≠ "" ∧ s.utf8ByteSize < maxPathBytes ∧ FilePath.rootOf s.toList = ""

instance (s : String) : Decidable (IsRelative s) :=
  inferInstanceAs (Decidable (_ ∧ _ ∧ _ ∧ _))

theorem at?_of_isRelative {s : String} (relative : IsRelative s) (t : FileTree) :
    t.at? s = follow maxLinks t.current (FilePath.pieces s) := by
  obtain ⟨zeroless, full, short, start⟩ := relative
  rw [at?, if_neg (by simpa using zeroless), if_neg full, if_neg (Nat.not_le.mpr short)]
  rw [Position.startOf, if_pos start]

/-- What a folder hands down to its entries, and an empty folder has. -/
structure Inherited (P : Node → Prop) : Prop where
  empty : P (.folder [])
  entry : ∀ {entries : List (String × Node)}, P (.folder entries) → ∀ e ∈ entries, P e.2

/-- The folders here and above have a property. -/
structure Position.All (P : Node → Prop) (p : Position) : Prop where
  here : P (.folder p.here)
  above : ∀ entries ∈ p.above, P (.folder entries)

namespace Position.All

variable {P : Node → Prop} {p : Position}

theorem up (all : p.All P) : p.up.All P := by
  obtain ⟨here, above⟩ := p
  cases above with
  | nil => exact all
  | cons first above =>
    obtain ⟨first, rest⟩ := List.forall_mem_cons.mp all.above
    exact ⟨first, rest⟩

theorem root (all : p.All P) : p.root.All P := by
  refine ⟨?_, nofun⟩
  rw [Position.root]
  cases last : p.above.getLast? with
  | none => exact all.here
  | some entries => exact all.above entries (List.mem_of_getLast? last)

theorem startOf (all : p.All P) (s : String) : (p.startOf s).All P := by
  rw [Position.startOf]
  split
  · exact all
  · exact all.root

theorem found (inherited : Inherited P) (all : p.All P) {name : String} {node : Node}
    (found : entry? name p.here = some node) : P node :=
  inherited.entry all.here _ (mem_of_entry?_eq_some found)

theorem down (inherited : Inherited P) (all : p.All P) {name : String}
    {entries : List (String × Node)} (found : entry? name p.here = some (.folder entries)) :
    (p.down entries).All P where
  here := all.found inherited found
  above := List.forall_mem_cons.mpr ⟨all.here, all.above⟩

theorem through (inherited : Inherited P) (all : p.All P) (names : List String) :
    (p.through names).All P := by
  induction names generalizing p with
  | nil => exact all
  | cons name names ih =>
    refine ih ⟨?_, List.forall_mem_cons.mpr ⟨all.here, all.above⟩⟩
    show P (.folder (inner name p.here))
    rw [inner]
    split
    · exact all.found inherited ‹_›
    · exact inherited.empty

end Position.All

/-- What names lead to has what the folders on the way hand down. -/
theorem holds_of_follow {P : Node → Prop} (inherited : Inherited P) {links : Nat} {p : Position}
    {names : List String} {node : Node} (all : p.All P) (found : follow links p names = .ok node) :
    P node := by
  fun_induction follow links p names with
  | case1 links p =>
    cases found
    exact all.here
  | case2 links p name names dot ih => exact ih all found
  | case3 links p names _ ih => exact ih all.up found
  | case4 => cases found
  | case5 => cases found
  | case6 links p name names _ _ _ entries inner ih => exact ih (all.down inherited inner) found
  | case7 links p name names _ _ _ content readable inner =>
    cases found
    exact all.found inherited inner
  | case8 => cases found
  | case9 => cases found
  | case10 p name names _ _ _ target inner links ih => exact ih (all.startOf target) found

/-- To follow names is not to look at their characters. -/
theorem follow_ne_holdsZero (links : Nat) (p : Position) (names : List String) :
    follow links p names ≠ .error .holdsZero := by
  fun_induction follow links p names with
  | case2 links p name names dot ih => exact ih
  | case3 links p names _ ih => exact ih
  | case6 links p name names _ _ _ entries inner ih => exact ih
  | case10 p name names _ _ _ target inner links ih => exact ih
  | _ => nofun

variable {t : FileTree} {p q : FilePath} {entries : List (String × Node)}

theorem find_ne_holdsZero (zeroless : '\x00' ∉ p.text.toList) : t.find p ≠ .error .holdsZero := by
  rw [find, at?, if_neg (by simpa using zeroless)]
  split
  · nofun
  · split
    · nofun
    · exact follow_ne_holdsZero _ _ _

theorem find_of_folder? (found : t.folder? p = .ok (some entries)) :
    t.find p = .ok (.folder entries) := by
  rw [folder?] at found
  split at found
  · cases found
    assumption
  · cases found
  · split at found <;> cases found

theorem find_of_read {content : ByteArray} (read : t.read p = .ok content) :
    t.find p = .ok (.file content true) := by
  rw [FileTree.read] at read
  split at read
  · split at read <;> cases read
    rename_i readable found
    rw [found, readable]
  · cases read
  · cases read

/-- A folder of a tree has what the tree hands down. -/
theorem holds_of_folder? {P : Node → Prop} (inherited : Inherited P) (tree : P (.folder t.top))
    (found : t.folder? p = .ok (some entries)) : P (.folder entries) := by
  have looked := find_of_folder? found
  rw [find, at?] at looked
  split at looked
  · cases looked
  · split at looked
    · cases looked
    · split at looked
      · cases looked
      · have top : (Position.mk t.top []).All P := ⟨tree, nofun⟩
        exact holds_of_follow inherited ((top.through inherited t.names).startOf _) looked

theorem inherited_zeroless : Inherited Node.Zeroless where
  empty := .folder nofun nofun
  entry zeroless := by
    cases zeroless with
    | folder _ below => exact below

/-! ## What a walk reaches -/

/-- A walk from the folder at a path reaches a file: it stands in the folder, or in one that is
reached through folders that the walk keeps. -/
inductive Reached : FilePath → List (String × Node) → FilePath → Prop where
  | file {p : FilePath} {entries : List (String × Node)} {e : String × Node} (stands : e ∈ entries)
    (leaf : ∀ inner, e.2 ≠ .folder inner) : Reached p entries (p.child e.1)
  | through {p q : FilePath} {entries inner : List (String × Node)} {name : String}
    (stands : (name, .folder inner) ∈ entries) (kept : isWalked name = true)
    (reached : Reached (p.child name) inner q) : Reached p entries q

theorem Reached.mono {others : List (String × Node)} (reached : Reached p entries q)
    (among : entries ⊆ others) : Reached p others q := by
  cases reached with
  | file stands leaf => exact .file (among stands) leaf
  | through stands kept reached => exact .through (among stands) kept reached

theorem mem_byName_iff {α : Type} {items : List (String × α)} {item : String × α} :
    item ∈ byName items ↔ item ∈ items :=
  List.mem_mergeSort

theorem mem_filesInFolders {name : String} {inner : List (String × Node)}
    (stands : (name, .folder inner) ∈ entries) (kept : isWalked name = true) :
    (name, t.filesBelow (p.child name) (.folder inner)) ∈ t.filesInFolders p entries := by
  induction entries with
  | nil => cases stands
  | cons e entries ih =>
    obtain ⟨other, node⟩ := e
    obtain same | later := List.mem_cons.mp stands
    · cases same
      simp only [filesInFolders, if_pos kept]
      exact List.mem_cons_self
    · simp only [filesInFolders]
      split
      · split
        · exact List.mem_cons_of_mem _ (ih later)
        · exact ih later
      · exact ih later

/-- Every file that a walk reaches is among those below the folder, unless it is a link to one. -/
theorem mem_filesBelow (reached : Reached p entries q)
    (leaf : ∀ inner, t.folder? q ≠ .ok (some inner)) : q ∈ t.filesBelow p (.folder entries) := by
  induction reached with
  | @file p entries e stands solid =>
    rw [filesBelow]
    refine List.mem_append_left _ (List.mem_map.mpr ⟨e, ?_, rfl⟩)
    refine mem_byName_iff.mpr (List.mem_filter.mpr ⟨stands, ?_⟩)
    rw [isListed]
    split
    · rfl
    · split
      · exact absurd ‹_› (leaf _)
      · rfl
    · exact absurd ‹_› (solid _)
  | @through p q entries inner name stands kept _ ih =>
    have inFolder : q ∈ (name, t.filesBelow (p.child name) (.folder inner)).2 := ih leaf
    rw [filesBelow]
    refine List.mem_append_right _ (List.mem_flatMap.mpr ⟨_, ?_, inFolder⟩)
    exact mem_byName_iff.mpr (mem_filesInFolders stands kept)

mutual

/-- What is below a folder is reached by a walk. -/
theorem reached_of_mem_filesBelow (t : FileTree) (p : FilePath) {q : FilePath} :
    (node : Node) → q ∈ t.filesBelow p node →
      ∃ entries, node = .folder entries ∧ Reached p entries q
  | .folder entries, member => by
    refine ⟨entries, rfl, ?_⟩
    rw [filesBelow] at member
    obtain own | deeper := List.mem_append.mp member
    · obtain ⟨e, among, rfl⟩ := List.mem_map.mp own
      obtain ⟨stands, listed⟩ := List.mem_filter.mp (mem_byName_iff.mp among)
      refine .file stands fun inner same => ?_
      rw [isListed, same] at listed
      cases listed
    · obtain ⟨⟨name, files⟩, among, member⟩ := List.mem_flatMap.mp deeper
      exact reached_of_mem_filesInFolders t p entries (mem_byName_iff.mp among) member
  | .file .., member => by cases member
  | .link _, member => by cases member

theorem reached_of_mem_filesInFolders (t : FileTree) (p : FilePath) {q : FilePath} {name : String}
    {files : List FilePath} : (entries : List (String × Node)) →
      (name, files) ∈ t.filesInFolders p entries → q ∈ files → Reached p entries q
  | [], among, _ => by cases among
  | (other, .folder inner) :: entries, among, member => by
    have rest (later : (name, files) ∈ t.filesInFolders p entries) :
        Reached p ((other, .folder inner) :: entries) q :=
      (reached_of_mem_filesInFolders t p entries later member).mono
        (List.subset_cons_self _ _)
    simp only [filesInFolders] at among
    split at among
    · rename_i kept
      obtain same | later := List.mem_cons.mp among
      · cases same
        obtain ⟨_, same, reached⟩ :=
          reached_of_mem_filesBelow t (p.child name) (.folder inner) member
        cases same
        exact .through List.mem_cons_self kept reached
      · exact rest later
    · exact rest among
  | (_, .file ..) :: entries, among, member =>
    (reached_of_mem_filesInFolders t p entries among member).mono (List.subset_cons_self _ _)
  | (_, .link _) :: entries, among, member =>
    (reached_of_mem_filesInFolders t p entries among member).mono (List.subset_cons_self _ _)

end

theorem Reached.zeroless (reached : Reached p entries q) (path : p.Zeroless)
    (names : (Node.folder entries).Zeroless) : q.Zeroless := by
  induction reached with
  | file stands leaf =>
    cases names with
    | folder names _ => exact path.child (names _ stands)
  | through stands kept _ ih =>
    cases names with
    | folder names nodes => exact ih (path.child (names _ stands)) (nodes _ stands)

theorem Reached.root_eq (reached : Reached p entries q) : q.root = p.root := by
  induction reached with
  | file => rfl
  | through _ _ _ ih => exact ih

theorem Reached.parts_ne_nil (reached : Reached p entries q) : q.parts ≠ [] := by
  induction reached with
  | file => exact List.concat_ne_nil _ _
  | through _ _ _ ih => exact ih

/-! ## What is uploaded -/

/-- What a candidate brings to a batch. -/
def upload? (t : FileTree) (p : FilePath) : Option Upload :=
  match t.isUploadable p, t.read p with
  | .ok true, .ok content => some ⟨p.text, .bytes content⟩
  | _, _ => none

theorem size?_ne_holdsZero (zeroless : '\x00' ∉ p.text.toList) : t.size? p ≠ .error .holdsZero := by
  rw [size?]
  cases found : t.find p with
  | error e =>
    rintro ⟨⟩
    exact find_ne_holdsZero zeroless found
  | ok node => cases node <;> nofun

theorem isUploadable_eq_ok (zeroless : '\x00' ∉ p.text.toList) : ∃ b, t.isUploadable p = .ok b := by
  rw [isUploadable]
  split
  · cases sized : t.size? p with
    | ok n => exact ⟨_, rfl⟩
    | error e =>
      cases e with
      | holdsZero => exact absurd sized (size?_ne_holdsZero zeroless)
      | _ => exact ⟨_, rfl⟩
  · exact ⟨_, rfl⟩

theorem take_outcome {ps : List FilePath} (zeroless : ∀ p ∈ ps, '\x00' ∉ p.text.toList) :
    (t.take ps).outcome = .ok (ps.filterMap t.upload?) := by
  induction ps with
  | nil => rfl
  | cons p ps ih =>
    obtain ⟨first, rest⟩ := List.forall_mem_cons.mp zeroless
    obtain ⟨uploadable, tested⟩ := isUploadable_eq_ok (t := t) first
    cases uploadable with
    | false =>
      have none : t.upload? p = none := by simp only [upload?, tested]
      rw [take, List.filterMap_cons_none none]
      simp only [tested]
      exact ih rest
    | true =>
      rw [take]
      simp only [tested]
      cases read : t.read p with
      | ok content =>
        have some : t.upload? p = some ⟨p.text, .bytes content⟩ := by
          simp only [upload?, tested, read]
        rw [List.filterMap_cons_some some]
        simp only [Collection.taking, ih rest]
        rfl
      | error e =>
        have none : t.upload? p = none := by simp only [upload?, tested, read]
        rw [List.filterMap_cons_none none]
        exact ih rest

/-- A path that can be looked for: it holds no zero, and it can be told whether it leads to a
folder. -/
structure Sought (t : FileTree) (path : String) : Prop where
  zeroless : '\x00' ∉ path.toList
  told : ∀ e, t.folder? (.ofText path) ≠ .error e

/-- A folder can be looked for. -/
theorem sought_of_folder? {path : String} (folder : t.folder? (.ofText path) = .ok (some entries)) :
    t.Sought path where
  told e := by
    rw [folder]
    nofun
  zeroless zero := by
    have holds : (FilePath.ofText path).text.toList.contains '\x00' = true := by
      simpa using FilePath.zero_mem_text_ofText zero
    rw [folder?, find, at?, if_pos holds] at folder
    cases folder

theorem candidates_of_sought (tree : (Node.folder t.top).Zeroless) {path : String}
    (sought : t.Sought path) :
    ∃ ps, t.candidates (.ofText path) = .ok ps ∧ ∀ p ∈ ps, '\x00' ∉ p.text.toList := by
  have given := FilePath.zeroless_ofText sought.zeroless
  rw [candidates]
  cases looked : t.folder? (.ofText path) with
  | error e => exact absurd looked (sought.told e)
  | ok found =>
    cases found with
    | none => exact ⟨_, rfl, by simpa using given.zero_notMem_text⟩
    | some entries =>
      refine ⟨_, rfl, fun p member => ?_⟩
      obtain ⟨_, same, reached⟩ := reached_of_mem_filesBelow t _ _ member
      cases same
      have names := holds_of_folder? inherited_zeroless tree looked
      exact (reached.zeroless given names).zero_notMem_text

/-- Paths bring an upload: it is what a candidate of one of them brings. -/
def Brings (t : FileTree) (paths : List String) (u : Upload) : Prop :=
  ∃ path ∈ paths, ∃ ps, t.candidates (.ofText path) = .ok ps ∧ ∃ p ∈ ps, t.upload? p = some u

/-- A collection comes to what its paths bring, and to nothing else. -/
theorem collect_outcome (tree : (Node.folder t.top).Zeroless) {paths : List String}
    (sought : ∀ path ∈ paths, t.Sought path) :
    ∃ batch, (t.collect paths).outcome = .ok batch ∧ ∀ u, u ∈ batch ↔ t.Brings paths u := by
  induction paths with
  | nil => exact ⟨[], rfl, by simp [Brings]⟩
  | cons path paths ih =>
    obtain ⟨first, rest⟩ := List.forall_mem_cons.mp sought
    obtain ⟨ps, found, zeroless⟩ := candidates_of_sought tree first
    obtain ⟨batch, collected, brings⟩ := ih rest
    refine ⟨ps.filterMap t.upload? ++ batch, ?_, fun u => ?_⟩
    · rw [collect, gather]
      simp only [found, Collection.andThen, take_outcome zeroless, collected, Except.map]
    · rw [List.mem_append, List.mem_filterMap, brings]
      simp [Brings, found]

/-- A file that is not too large is one to upload if its name says so. -/
theorem isUploadable_of_find {content : ByteArray} {readable : Bool}
    (found : t.find p = .ok (.file content readable)) (named : mayHoldSecret p = true)
    (small : content.size ≤ maxUploadSize) : t.isUploadable p = .ok true := by
  simp only [isUploadable, if_pos named, size?, found, decide_eq_true small]

/-- A file that can be read and is not too large brings itself, if its last two steps hold a
sensitive name. -/
theorem upload?_of_sensitive {content : ByteArray} (read : t.read p = .ok content)
    (small : content.size ≤ maxUploadSize) {name : String} (sensitive : name ∈ sensitiveNames)
    (held : Text.holds name.toList p.ending.toList = true) :
    t.upload? p = some ⟨p.text, .bytes content⟩ := by
  have named : mayHoldSecret p = true := by
    have hit := Finding.mem_inName_iff.mpr ⟨name, sensitive, Text.holds_iff_infix.mp held, rfl⟩
    rw [mayHoldSecret, Bool.or_eq_true]
    exact .inr (by simpa using List.ne_nil_of_mem hit)
  have uploadable := isUploadable_of_find (find_of_read read) named small
  simp only [upload?, uploadable, read]

theorem head?_sensitiveNames : ∀ name ∈ sensitiveNames, name.toList.head? ≠ some '/' := by decide

/-- What the last two steps of a file that a walk reaches hold of a sensitive name, its whole path
holds. -/
theorem Reached.holds_text {path : String} (reached : Reached (.ofText path) entries q)
    {name : String} (sensitive : name ∈ sensitiveNames)
    (held : Text.holds name.toList q.ending.toList = true) :
    Text.holds name.toList q.text.toList = true := by
  refine Text.holds_iff_infix.mpr (FilePath.infix_text_of_ending ?_ reached.parts_ne_nil
    (head?_sensitiveNames name sensitive) (Text.holds_iff_infix.mp held))
  rw [reached.root_eq]
  exact FilePath.rootOf_slashes _

/-- Paths bring a file that a walk of one of them reaches, if it can be read and is not too large
and its last two steps hold a sensitive name. -/
theorem Reached.brings {path : String} (reached : Reached (.ofText path) entries q)
    {paths : List String} (given : path ∈ paths)
    (folder : t.folder? (.ofText path) = .ok (some entries)) {content : ByteArray}
    (read : t.read q = .ok content) (small : content.size ≤ maxUploadSize) {name : String}
    (sensitive : name ∈ sensitiveNames) (held : Text.holds name.toList q.ending.toList = true) :
    t.Brings paths ⟨q.text, .bytes content⟩ := by
  have leaf : ∀ inner, t.folder? q ≠ .ok (some inner) := by
    intro inner folder
    cases (find_of_read read).symm.trans (find_of_folder? folder)
  refine ⟨path, given, t.filesBelow (.ofText path) (.folder entries), ?_, q,
    mem_filesBelow reached leaf, upload?_of_sensitive read small sensitive held⟩
  rw [candidates, folder]

end FileTree
end LeakScan
