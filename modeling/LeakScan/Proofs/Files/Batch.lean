import LeakScan.Proofs.Files.Relisted

/-!
# The batch of a path

What paths bring is what each of them brings, one after another (`collect_outcome_eq_mapM`). A path
brings the files that it stands for, if they may be uploaded and can be read, in the order of a walk
(`BatchOf`); and there is nothing else that it brings. Only a path that is too long to be looked
for, or one with the character zero in it, ends the collecting with a fault (`Raises`), and the
whole batch with it (`collect_exact`).
-/

namespace LeakScan.FileTree
set_option autoImplicit false

/-- A path stands for a file: a walk of the folder that it leads to reaches the file, or it leads to
no folder and is the path of the file itself. -/
inductive StandsFor (t : FileTree) (path : String) : FilePath → Prop where
  | walked {entries : List (String × Node)} {q : FilePath}
    (folder : t.folder? (.ofText path) = .ok (some entries))
    (reached : Reached (.ofText path) entries q) : StandsFor t path q
  | itself (folderless : t.folder? (.ofText path) = .ok none) : StandsFor t path (.ofText path)

/-- The files that a path stands for, may be uploaded and can be read, in the order of a walk, and
the uploads that they are; each has a name of its own. -/
structure BatchOf (t : FileTree) (path : String) (files : List FilePath) (batch : List Upload) :
    Prop where
  each : ∀ q, q ∈ files ↔
    t.StandsFor path q ∧ t.isUploadable q = .ok true ∧ ∃ content, t.read q = .ok content
  order : files.Pairwise fun q r => WalkOrder q.parts r.parts
  uploads : List.Forall₂
    (fun q u => ∃ content, t.read q = .ok content ∧ u = ⟨q.text, .bytes content⟩) files batch
  once : (batch.map Upload.name).Nodup

/-- Why the collecting of a path ends with a fault: the path, a name in it or a link that it leads
through is too long; or it holds the character zero, and its name is that of a file to upload. -/
inductive Raises (t : FileTree) (path : String) : FileFault → Prop where
  | tooLong (found : t.find (.ofText path) = .error .tooLong) : Raises t path .tooLong
  | holdsZero (zero : '\x00' ∈ path.toList) (named : mayHoldSecret (.ofText path) = true) :
    Raises t path .holdsZero

variable {t : FileTree} {p : FilePath} {path : String} {entries : List (String × Node)}

/-! ## Folders that are walked through -/

theorem isWalked_iff {name : String} :
    isWalked name = true ↔ name = ".aws" ∨ FileName.isSkipped name = false := by
  have only : sensitiveFolders = [".aws"] := by decide +kernel
  rw [isWalked, only]
  simp

/-! ## One path after another -/

theorem collect_singleton_outcome (t : FileTree) (path : String) :
    (t.collect [path]).outcome = (t.gather (.ofText path)).outcome := by
  rw [collect, collect, Collection.andThen]
  cases gathered : (t.gather (.ofText path)).outcome with
  | error e => exact gathered
  | ok batch => simp [Except.map]

/-- What paths bring is what the single paths bring, in a row; the first fault ends it. -/
theorem collect_outcome_eq_mapM (t : FileTree) (paths : List String) :
    (t.collect paths).outcome =
      (paths.mapM fun path => (t.collect [path]).outcome).map List.flatten := by
  induction paths with
  | nil => rfl
  | cons path paths ih =>
    rw [collect, Collection.andThen, List.mapM_cons, collect_singleton_outcome]
    cases gathered : (t.gather (.ofText path)).outcome with
    | error e => exact gathered
    | ok batch =>
      dsimp only
      rw [ih]
      cases paths.mapM fun path => (t.collect [path]).outcome <;> rfl

/-! ## Faults -/

theorem follow_error {links : Nat} {p : Position} {names : List String} {e : FileFault}
    (failed : follow links p names = .error e) : e = .tooLong ∨ e.isAbsence = true := by
  fun_induction follow links p names with
  | case1 => cases failed
  | case2 links p name names idle ih => exact ih failed
  | case3 links p names leads ih => exact ih failed
  | case4 =>
    cases failed
    exact .inl rfl
  | case6 links p name names _ _ _ entries inner ih => exact ih failed
  | case7 => cases failed
  | case5 | case8 | case9 =>
    cases failed
    exact .inr rfl
  | case10 p name names _ _ _ target inner links ih => exact ih failed

theorem find_error {e : FileFault} (failed : t.find p = .error e) :
    e = .tooLong ∨ e.isAbsence = true := by
  rw [find, at?] at failed
  split at failed
  · cases failed
    exact .inr rfl
  · split at failed
    · cases failed
      exact .inr rfl
    · split at failed
      · cases failed
        exact .inl rfl
      · exact follow_error failed

/-- It cannot be told whether a path leads to a folder only if it is too long. -/
theorem folder?_eq_error_iff {e : FileFault} :
    t.folder? p = .error e ↔ e = .tooLong ∧ t.find p = .error .tooLong := by
  rw [folder?]
  cases found : t.find p with
  | ok node =>
    refine iff_of_false (fun failed => ?_) (by rintro ⟨-, ⟨⟩⟩)
    cases node <;> cases failed
  | error e' =>
    obtain rfl | absent := find_error found
    · simp [FileFault.isAbsence, eq_comm]
    · have other : e' ≠ .tooLong := by
        rintro rfl
        cases absent
      simp [absent, other]

theorem isUploadable_eq_error_iff {e : FileFault} : t.isUploadable p = .error e ↔
    e = .holdsZero ∧ '\x00' ∈ p.text.toList ∧ mayHoldSecret p = true := by
  by_cases zero : '\x00' ∈ p.text.toList
  · have sized : t.size? p = .error .holdsZero := by
      have found : t.find p = .error .holdsZero := by
        rw [find, at?, if_pos (by simpa using zero)]
      rw [size?, found]
    rw [isUploadable, sized]
    cases mayHoldSecret p <;> simp [zero, eq_comm]
  · obtain ⟨b, told⟩ := isUploadable_eq_ok (t := t) zero
    simp [told, zero]

/-! ## Batches -/

theorem upload?_eq_some_iff {u : Upload} : t.upload? p = some u ↔
    t.isUploadable p = .ok true ∧
      ∃ content, t.read p = .ok content ∧ u = ⟨p.text, .bytes content⟩ := by
  rw [upload?]
  cases t.isUploadable p with
  | error e => simp
  | ok told => cases told <;> cases t.read p <;> simp [eq_comm]

/-- The files of some candidates and the uploads that they are. -/
theorem forall₂_upload? (t : FileTree) (ps : List FilePath) :
    List.Forall₂ (fun q u => t.upload? q = some u) (ps.filter fun q => (t.upload? q).isSome)
      (ps.filterMap t.upload?) := by
  induction ps with
  | nil => exact .nil
  | cons p ps ih =>
    rw [List.filter_cons, List.filterMap_cons]
    cases brought : t.upload? p with
    | none => exact ih
    | some u => exact .cons brought ih

theorem map_name_eq_map_text {files : List FilePath} {batch : List Upload}
    (uploads : List.Forall₂ (fun q u => t.upload? q = some u) files batch) :
    batch.map Upload.name = files.map FilePath.text := by
  induction uploads with
  | nil => rfl
  | cons brought _ ih =>
    obtain ⟨-, content, -, rfl⟩ := upload?_eq_some_iff.mp brought
    rw [List.map_cons, List.map_cons, ih]

/-- Candidates in the order of a walk that are what a path stands for make its batch. -/
theorem batchOf_of_candidates (ps : List FilePath)
    (stand : ∀ q content, t.read q = .ok content → (q ∈ ps ↔ t.StandsFor path q))
    (order : ps.Pairwise fun q r => WalkOrder q.parts r.parts)
    (once : (ps.map FilePath.text).Nodup) :
    t.BatchOf path (ps.filter fun q => (t.upload? q).isSome) (ps.filterMap t.upload?) where
  each q := by
    rw [List.mem_filter, Option.isSome_iff_exists]
    constructor
    · rintro ⟨member, u, brought⟩
      obtain ⟨uploadable, content, read, -⟩ := upload?_eq_some_iff.mp brought
      exact ⟨(stand q content read).mp member, uploadable, content, read⟩
    · rintro ⟨stands, uploadable, content, read⟩
      exact ⟨(stand q content read).mpr stands, _,
        upload?_eq_some_iff.mpr ⟨uploadable, content, read, rfl⟩⟩
  order := order.filter _
  uploads := (forall₂_upload? t ps).imp fun _ _ brought => (upload?_eq_some_iff.mp brought).2
  once := by
    rw [map_name_eq_map_text (forall₂_upload? t ps)]
    exact once.sublist (List.filter_sublist.map _)

/-- The batch of a folder: the files below it. -/
theorem exists_batch_of_folder (tree : (Node.folder t.top).WellNamed)
    (folder : t.folder? (.ofText path) = .ok (some entries)) :
    ∃ files batch, (t.collect [path]).outcome = .ok batch ∧ t.BatchOf path files batch := by
  have named : (Node.folder entries).WellNamed :=
    holds_of_folder? inherited_wellNamed tree folder
  have zeroless : ∀ q ∈ t.filesBelow (.ofText path) (.folder entries), '\x00' ∉ q.text.toList := by
    intro q member
    obtain ⟨_, ⟨⟩, reached⟩ := reached_of_mem_filesBelow t _ _ member
    have given := FilePath.zeroless_ofText (sought_of_folder? folder).zeroless
    exact (reached.zeroless given named.zeroless).zero_notMem_text
  refine ⟨_, _, ?_, batchOf_of_candidates (t.filesBelow (.ofText path) (.folder entries))
    (fun q content read => ?_) (pairwise_filesBelow named _) (nodup_text_filesBelow named path)⟩
  · rw [collect_singleton_outcome, gather, candidates, folder]
    exact take_outcome zeroless
  · constructor
    · intro member
      obtain ⟨_, ⟨⟩, reached⟩ := reached_of_mem_filesBelow t _ _ member
      exact .walked folder reached
    · intro stands
      cases stands with
      | walked folder' reached =>
        cases folder.symm.trans folder'
        refine mem_filesBelow reached fun inner within => ?_
        cases (find_of_read read).symm.trans (find_of_folder? within)
      | itself folderless => cases folder.symm.trans folderless

/-- The batch of what is no folder: the file of the path, or nothing. -/
theorem exists_batch_of_folderless (folderless : t.folder? (.ofText path) = .ok none)
    (told : ∀ e, t.isUploadable (.ofText path) ≠ .error e) :
    ∃ files batch, (t.collect [path]).outcome = .ok batch ∧ t.BatchOf path files batch := by
  refine ⟨_, _, ?_, batchOf_of_candidates [.ofText path] (fun q content read => ?_)
    (List.pairwise_singleton _ _) (List.nodup_singleton _)⟩
  · rw [collect_singleton_outcome, gather, candidates, folderless]
    simp only [take, List.filterMap_cons, List.filterMap_nil, upload?]
    cases uploadable : t.isUploadable (.ofText path) with
    | error e => exact absurd uploadable (told e)
    | ok b =>
      cases b with
      | false => rfl
      | true => cases t.read (.ofText path) <;> rfl
  · rw [List.mem_singleton]
    constructor
    · rintro rfl
      exact .itself folderless
    · intro stands
      cases stands with
      | walked folder => cases folderless.symm.trans folder
      | itself => rfl

theorem zero_mem_text_ofText_iff :
    '\x00' ∈ (FilePath.ofText path).text.toList ↔ '\x00' ∈ path.toList :=
  ⟨not_imp_not.mp fun zeroless => (FilePath.zeroless_ofText zeroless).zero_notMem_text,
    FilePath.zero_mem_text_ofText⟩

/-- A fault comes of looking for a folder, or of looking at what is none. -/
theorem raises_iff {e : FileFault} : t.Raises path e ↔ t.folder? (.ofText path) = .error e ∨
    t.folder? (.ofText path) = .ok none ∧ t.isUploadable (.ofText path) = .error e := by
  rw [folder?_eq_error_iff, isUploadable_eq_error_iff, zero_mem_text_ofText_iff]
  constructor
  · rintro (found | ⟨zero, named⟩)
    · exact .inl ⟨rfl, found⟩
    · have found : t.find (.ofText path) = .error .holdsZero := by
        rw [find, at?, if_pos (by simpa using FilePath.zero_mem_text_ofText zero)]
      have folderless : t.folder? (.ofText path) = .ok none := by
        rw [folder?, found]
        rfl
      exact .inr ⟨folderless, rfl, zero, named⟩
  · rintro (⟨rfl, found⟩ | ⟨-, rfl, zero, named⟩)
    · exact .tooLong found
    · exact .holdsZero zero named

/-- The collecting of a path ends with the faults that are named, and with no other. -/
theorem collect_eq_error_iff (tree : (Node.folder t.top).WellNamed) {e : FileFault} :
    (t.collect [path]).outcome = .error (e, p) ↔ p = .ofText path ∧ t.Raises path e := by
  rw [raises_iff]
  cases looked : t.folder? (.ofText path) with
  | error e' =>
    rw [collect_singleton_outcome, gather, candidates, looked]
    simp [Collection.ended, eq_comm, and_comm]
  | ok found =>
    cases found with
    | none =>
      cases uploadable : t.isUploadable (.ofText path) with
      | error e' =>
        rw [collect_singleton_outcome, gather, candidates, looked]
        simp [take, uploadable, Collection.ended, eq_comm, and_comm]
      | ok b =>
        have told (e : FileFault) : t.isUploadable (.ofText path) ≠ .error e := by
          simp [uploadable]
        obtain ⟨files, batch, outcome, -⟩ := exists_batch_of_folderless looked told
        simp [outcome]
    | some entries =>
      obtain ⟨files, batch, outcome, -⟩ := exists_batch_of_folder tree looked
      simp [outcome]

/-- A folder with a file to read, one not to read, a link to the first, one that leads nowhere and a
hidden folder. -/
def mixedFolder : List (String × Node) :=
  [("z.py", .file "z".toUTF8 true), (".aws", .folder [("credentials", .file "k".toUTF8 true)]),
    ("locked.py", .file "l".toUTF8 false), ("l.py", .link "/d/z.py"),
    ("gone.py", .link "nowhere.py")]

/-- Such a folder beside the current one. -/
def mixedTree : FileTree := ⟨[("d", .folder mixedFolder), ("here", .folder [])], ["here"]⟩

theorem wellNamed_mixedFolder : (Node.folder mixedFolder).WellNamed := by
  have hidden : (Node.folder [("credentials", .file "k".toUTF8 true)]).WellNamed :=
    .folder (by decide) (by decide +kernel) (by simpa using .file _ _)
  refine .folder (by decide) (by decide +kernel) ?_
  simp only [mixedFolder, List.forall_mem_cons]
  exact ⟨.file _ _, hidden, .file _ _, .link _, .link _, by simp⟩

theorem wellNamed_mixedTree : (Node.folder mixedTree.top).WellNamed := by
  have empty : (Node.folder []).WellNamed := .folder .nil (by simp) (by simp)
  exact .folder (by decide) (by decide +kernel)
    (by simpa [mixedTree] using ⟨wellNamed_mixedFolder, empty⟩)

theorem relisted_mixedTree : mixedTree.Relisted
    ⟨[("d", .folder mixedFolder.reverse), ("here", .folder [])], ["here"]⟩ := by
  have turned := wellNamed_mixedFolder.relisted_of_perm (List.reverse_perm mixedFolder).symm
  refine ⟨.folder (by decide) (.refl _) ?_, rfl⟩
  simpa [mixedTree] using ⟨turned, Node.relisted_empty⟩

/-- From the current folder, names lead through the folder above it. -/
theorem find_mixedTree (s : String) (names : List String) (relative : IsRelative s)
    (cut : FilePath.pieces s = ".." :: "d" :: names) (text : (FilePath.ofText s).text = s) :
    mixedTree.find (.ofText s) = follow maxLinks ⟨mixedFolder, [mixedTree.top]⟩ names := by
  rw [find, text, at?_of_isRelative relative, cut, follow_up]
  exact follow_folder (by decide +kernel) rfl

/-- A link that names a place from the root leads there from everywhere. -/
theorem find_mixedTree_link :
    mixedTree.find (.ofText "../d/l.py") = .ok (.file "z".toUTF8 true) := by
  have target : FilePath.pieces "/d/z.py" = [""] ++ ["d", "z.py"] := by decide +kernel
  have start : (Position.mk mixedFolder [mixedTree.top]).startOf "/d/z.py" =
      ⟨mixedTree.top, []⟩ := by
    rw [Position.startOf, if_neg (by decide +kernel)]
    rfl
  rw [find_mixedTree _ ["l.py"] (by decide +kernel) (by decide +kernel) (by decide +kernel),
    maxLinks, follow_link (by decide +kernel) rfl, target, start, List.append_nil,
    follow_idle_append _ _ (by simp)]
  exact (follow_folder (by decide +kernel) rfl).trans (follow_file (by decide +kernel) rfl)

/-- A file that can be read is brought, if its name is one to look for and it is small. -/
theorem brought_of_find {q : FilePath} {content : ByteArray}
    (found : t.find q = .ok (.file content true)) (named : mayHoldSecret q = true)
    (small : content.size ≤ maxUploadSize) :
    t.isUploadable q = .ok true ∧ ∃ content, t.read q = .ok content := by
  refine ⟨isUploadable_of_find found named small, content, ?_⟩
  rw [FileTree.read, found]
  rfl

/-- A name of a source file that is as long as one likes. -/
def longName (n : Nat) : String := String.ofList (List.replicate n 'a') ++ ".py"

theorem mem_longName {n : Nat} {c : Char} (member : c ∈ (longName n).toList) :
    c ∈ ['a', '.', 'p', 'y'] := by
  rw [longName, String.toList_append, String.toList_ofList, List.mem_append] at member
  obtain name | ending := member
  · rw [List.eq_of_mem_replicate name]
    exact List.mem_cons_self
  · exact List.mem_cons_of_mem _ ending

theorem pieces_longName (n : Nat) : FilePath.pieces (longName n) = [longName n] := by
  have whole : '/' ∉ (longName n).toList := fun member => absurd (mem_longName member) (by decide)
  rw [FilePath.pieces, Text.split_of_notMem whole, List.map_singleton, String.ofList_toList]

theorem rootOf_longName (n : Nat) : FilePath.rootOf (longName n).toList = "" := by
  refine FilePath.rootOf_eq_empty_iff.mpr fun first => ?_
  exact absurd (mem_longName (List.mem_of_mem_head? first)) (by decide)

theorem longName_ne {n : Nat} {s : String} (other : 'p' ∉ s.toList) : longName n ≠ s := by
  rintro rfl
  exact other (by simp [longName])

theorem text_longName (n : Nat) : (FilePath.ofText (longName n)).text = longName n := by
  have parts : (FilePath.ofText (longName n)).parts = [longName n] := by
    rw [FilePath.ofText, pieces_longName]
    refine List.filter_eq_self.mpr fun name member => ?_
    rw [List.mem_singleton.mp member, Bool.and_eq_true, bne_iff_ne, bne_iff_ne]
    exact ⟨longName_ne (by decide), longName_ne (by decide)⟩
  have root : (FilePath.ofText (longName n)).root = "" := rootOf_longName n
  rw [FilePath.text_eq_append (by simp [parts]), parts, root]
  simp

theorem isRelative_longName {n : Nat} (short : (longName n).utf8ByteSize < maxPathBytes) :
    IsRelative (longName n) :=
  ⟨fun member => absurd (mem_longName member) (by decide), longName_ne (by decide), short,
    rootOf_longName n⟩

def plainFolder : List (String × Node) := [("a.py", .file "x".toUTF8 true)]

def plainTree : FileTree := ⟨[("d", .folder plainFolder)], []⟩

end LeakScan.FileTree
