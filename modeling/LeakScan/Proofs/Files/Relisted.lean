import LeakScan.Proofs.Files.Order

/-!
# Folders that are listed in another order

A folder lists its entries in some order. Two trees that differ in nothing else
(`Node.Relisted`) give the same answer to every question about a path (`follow_relisted`): what is
there is the same, save for the order in which a folder lists its entries. A walk puts the names in
order, so it does not depend on the listings (`filesBelow_relisted`), and neither does what is
collected (`collect_relisted`).
-/

namespace LeakScan
set_option autoImplicit false

/-- A node is another one whose folders list the same names, each once, in some other order. -/
inductive Node.Relisted : Node → Node → Prop where
  | file (content : ByteArray) (readable : Bool) :
    Relisted (.file content readable) (.file content readable)
  | link (target : String) : Relisted (.link target) (.link target)
  | folder {entries others : List (String × Node)} (apart : (entries.map Prod.fst).Nodup)
    (names : (entries.map Prod.fst).Perm (others.map Prod.fst))
    (same : ∀ e ∈ entries, ∀ f ∈ others, e.1 = f.1 → Relisted e.2 f.2) :
    Relisted (.folder entries) (.folder others)

theorem Node.relisted_empty : (Node.folder []).Relisted (.folder []) :=
  .folder .nil .nil nofun

/-- A folder of distinct names may list its entries in any order. -/
theorem Node.WellNamed.relisted_of_perm {entries others : List (String × Node)}
    (named : (Node.folder entries).WellNamed) (order : entries.Perm others) :
    (Node.folder entries).Relisted (.folder others) := by
  have refl {node : Node} (named : node.WellNamed) : node.Relisted node := by
    induction named with
    | file content readable => exact .file content readable
    | link target => exact .link target
    | folder apart _ _ ih =>
      refine .folder apart (.refl _) fun e member f among name => ?_
      cases List.inj_on_of_nodup_map apart member among name
      exact ih e member
  cases named with
  | folder apart _ below =>
    refine .folder apart (order.map _) fun e member f among name => ?_
    cases List.inj_on_of_nodup_map apart member (order.mem_iff.mpr among) name
    exact refl (below e member)

namespace FileTree

/-- Two answers about a path are the same: the same fault, or nodes of which the one relists the
other. -/
inductive SameFound : Except FileFault Node → Except FileFault Node → Prop where
  | error (e : FileFault) : SameFound (.error e) (.error e)
  | ok {node other : Node} (same : node.Relisted other) : SameFound (.ok node) (.ok other)

/-- The folders here and above are relisted. -/
structure Position.Relisted (p p' : Position) : Prop where
  here : (Node.folder p.here).Relisted (.folder p'.here)
  above : List.Forall₂ (fun entries others => (Node.folder entries).Relisted (.folder others))
    p.above p'.above

/-- The tree lists its folders in another order. -/
structure Relisted (t t' : FileTree) : Prop where
  top : (Node.folder t.top).Relisted (.folder t'.top)
  names : t.names = t'.names

variable {t t' : FileTree} {p : FilePath} {entries others : List (String × Node)}

/-! ## Following a path -/

theorem entry?_eq_none_iff {name : String} :
    entry? name entries = none ↔ name ∉ entries.map Prod.fst := by
  induction entries with
  | nil => exact iff_of_true rfl List.not_mem_nil
  | cons e entries ih =>
    rw [ entry?, List.map_cons, List.mem_cons, not_or, ← ih]
    split
    · rename_i same
      exact iff_of_false (by simp) fun both => both.1 same.symm
    · rename_i other
      exact (and_iff_right (Ne.symm other)).symm

theorem rel_entry (listed : (Node.folder entries).Relisted (.folder others)) (name : String) :
    Option.Rel Node.Relisted ( entry? name entries) ( entry? name others) := by
  cases listed with
  | folder _ names same =>
    cases found : entry? name entries with
    | none =>
      have absent := entry?_eq_none_iff.mp found
      rw [entry?_eq_none_iff.mpr (names.mem_iff.not.mp absent)]
      exact .none
    | some node =>
      cases found' : entry? name others with
      | none =>
        have absent := names.mem_iff.not.mpr (entry?_eq_none_iff.mp found')
        rw [entry?_eq_none_iff.mpr absent] at found
        cases found
      | some other =>
        exact .some (same _ (mem_of_entry?_eq_some found) _ (mem_of_entry?_eq_some found') rfl)

namespace Position.Relisted

variable {p p' : Position}

theorem up (listed : p.Relisted p') : p.up.Relisted p'.up := by
  obtain ⟨here, above⟩ := p
  obtain ⟨here', above'⟩ := p'
  obtain ⟨here, above⟩ := listed
  cases above with
  | nil => exact ⟨here, .nil⟩
  | cons first rest => exact ⟨first, rest⟩

theorem root (listed : p.Relisted p') : p.root.Relisted p'.root := by
  obtain ⟨entries, above⟩ := p
  obtain ⟨others, above'⟩ := p'
  obtain ⟨here, above⟩ := listed
  refine ⟨?_, .nil⟩
  have last (es fs : List (String × Node)) (rest : List (List (String × Node))) :
      ((fs :: rest).getLast?).getD es = rest.getLast?.getD fs := by
    rw [List.getLast?_cons, Option.getD_some]
  simp only [Position.root] at here above ⊢
  induction above generalizing entries others with
  | nil => exact here
  | cons same rest ih =>
    rw [last, last]
    exact ih _ _ same

theorem startOf (listed : p.Relisted p') (s : String) :
    (p.startOf s).Relisted (p'.startOf s) := by
  rw [Position.startOf, Position.startOf]
  split
  · exact listed
  · exact listed.root

theorem down (listed : p.Relisted p') {entries others : List (String × Node)}
    (inner : (Node.folder entries).Relisted (.folder others)) :
    (p.down entries).Relisted (p'.down others) :=
  ⟨inner, .cons listed.here listed.above⟩

/-- The same stands under a name. -/
theorem found (listed : p.Relisted p') {name : String} {found : Option Node}
    (inner : entry? name p.here = found) :
    Option.Rel Node.Relisted found ( entry? name p'.here) :=
  inner ▸ rel_entry listed.here name

theorem through (listed : p.Relisted p') (names : List String) :
    (p.through names).Relisted (p'.through names) := by
  induction names generalizing p p' with
  | nil => exact listed
  | cons name names ih =>
    refine ih (listed.down ?_)
    rw [FileTree.inner, FileTree.inner]
    have found := rel_entry listed.here name
    generalize entry? name p.here = x at found ⊢
    generalize entry? name p'.here = y at found ⊢
    cases found with
    | none => exact Node.relisted_empty
    | some same =>
      cases same with
      | folder apart names same => exact .folder apart names same
      | file | link => exact Node.relisted_empty

end Position.Relisted

/-- Names lead to the same in a tree that is relisted. -/
theorem follow_relisted {links : Nat} {p p' : Position} (listed : p.Relisted p')
    (names : List String) : SameFound (follow links p names) (follow links p' names) := by
  fun_induction follow links p names generalizing p' with
  | case1 links p =>
    rw [follow]
    exact .ok listed.here
  | case2 links p name names idle ih =>
    rw [follow, if_pos idle]
    exact ih listed
  | case3 links p names leads ih =>
    rw [follow, if_neg leads, if_pos rfl]
    exact ih listed.up
  | case4 links p name names leads other long =>
    rw [follow, if_neg leads, if_neg other, if_pos long]
    exact .error _
  | case5 links p name names leads other short absent =>
    have found := listed.found absent
    rw [follow, if_neg leads, if_neg other, if_neg short]
    generalize entry? name p'.here = entry at found ⊢
    cases found
    exact .error _
  | case6 links p name names leads other short entries inner ih =>
    have found := listed.found inner
    rw [follow, if_neg leads, if_neg other, if_neg short]
    generalize entry? name p'.here = entry at found ⊢
    obtain ⟨same⟩ := found
    cases same with
    | folder apart names same => exact ih (listed.down (.folder apart names same))
  | case7 links p name names leads other short content readable inner last =>
    have found := listed.found inner
    rw [follow, if_neg leads, if_neg other, if_neg short]
    generalize entry? name p'.here = entry at found ⊢
    obtain ⟨⟨⟩⟩ := found
    simp only [last, if_true]
    exact .ok (.file content readable)
  | case8 links p name names leads other short content readable inner more =>
    have found := listed.found inner
    rw [follow, if_neg leads, if_neg other, if_neg short]
    generalize entry? name p'.here = entry at found ⊢
    obtain ⟨⟨⟩⟩ := found
    simp only [more]
    exact .error _
  | case9 p name names leads other short target inner =>
    have found := listed.found inner
    rw [follow, if_neg leads, if_neg other, if_neg short]
    generalize entry? name p'.here = entry at found ⊢
    obtain ⟨⟨⟩⟩ := found
    exact .error _
  | case10 p name names leads other short target inner links ih =>
    have found := listed.found inner
    rw [follow, if_neg leads, if_neg other, if_neg short]
    generalize entry? name p'.here = entry at found ⊢
    obtain ⟨⟨⟩⟩ := found
    exact ih (listed.startOf target)

theorem find_relisted (listed : t.Relisted t') (p : FilePath) :
    SameFound (t.find p) (t'.find p) := by
  have top : (Position.mk t.top []).Relisted ⟨t'.top, []⟩ := ⟨listed.top, .nil⟩
  have start : t.current.Relisted t'.current := by
    rw [current, current, ← listed.names]
    exact top.through t.names
  rw [find, find, at?, at?]
  split
  · exact .error _
  · split
    · exact .error _
    · split
      · exact .error _
      · exact follow_relisted (start.startOf _) _

/-! ## What is asked about a path -/

theorem read_relisted (listed : t.Relisted t') (p : FilePath) : t'.read p = t.read p := by
  have found := find_relisted listed p
  rw [FileTree.read, FileTree.read]
  generalize t.find p = x at found ⊢
  generalize t'.find p = y at found ⊢
  obtain _ | same := found
  · rfl
  · cases same <;> rfl

theorem size?_relisted (listed : t.Relisted t') (p : FilePath) : t'.size? p = t.size? p := by
  have found := find_relisted listed p
  rw [size?, size?]
  generalize t.find p = x at found ⊢
  generalize t'.find p = y at found ⊢
  obtain _ | same := found
  · rfl
  · cases same <;> rfl

theorem isUploadable_relisted (listed : t.Relisted t') (p : FilePath) :
    t'.isUploadable p = t.isUploadable p := by
  rw [isUploadable, isUploadable, size?_relisted listed p]

/-- Two answers about the folder at a path are the same, save for the order of the entries. -/
inductive SameFolder : Except FileFault (Option (List (String × Node))) →
    Except FileFault (Option (List (String × Node))) → Prop where
  | error (e : FileFault) : SameFolder (.error e) (.error e)
  | none : SameFolder (.ok none) (.ok none)
  | some {entries others : List (String × Node)}
    (same : (Node.folder entries).Relisted (.folder others)) :
    SameFolder (.ok (some entries)) (.ok (some others))

theorem folder?_relisted (listed : t.Relisted t') (p : FilePath) :
    SameFolder (t.folder? p) (t'.folder? p) := by
  have found := find_relisted listed p
  rw [folder?, folder?]
  generalize t.find p = x at found ⊢
  generalize t'.find p = y at found ⊢
  obtain e | same := found
  · cases e <;> constructor
  · cases same with
    | folder apart names same => exact .some (.folder apart names same)
    | file | link => exact .none

/-! ## Walks -/

theorem isListed_relisted (listed : t.Relisted t') (p : FilePath) (name : String)
    {node other : Node} (same : node.Relisted other) :
    t'.isListed p (name, other) = t.isListed p (name, node) := by
  cases same with
  | file | folder => rfl
  | link =>
    have found := folder?_relisted listed (p.child name)
    simp only [isListed]
    generalize t.folder? (p.child name) = x at found ⊢
    generalize t'.folder? (p.child name) = y at found ⊢
    cases found <;> rfl

/-- Where the same names are listed, an entry of a name is listed too. -/
theorem exists_named {α β : Type} {items : List (String × α)} {listed : List (String × β)}
    (names : (items.map Prod.fst).Perm (listed.map Prod.fst)) {e : String × α}
    (member : e ∈ items) :
    ∃ b, (e.1, b) ∈ listed := by
  obtain ⟨⟨_, b⟩, among, rfl⟩ := List.mem_map.mp (names.mem_iff.mp (List.mem_map_of_mem member))
  exact ⟨b, among⟩

/-- The files of a folder are the same in another order of its entries. -/
theorem ownFiles_relisted (listed : t.Relisted t') (p : FilePath)
    (same : (Node.folder entries).Relisted (.folder others)) :
    t'.ownFiles p others = t.ownFiles p entries := by
  cases same with
  | folder apart names same =>
    have apart' : (others.map Prod.fst).Nodup := names.nodup_iff.mp apart
    -- Only the names count, and no name stands twice: it is enough that the same ones are there.
    have own : ((others.filter (t'.isListed p)).map Prod.fst).Perm
        ((entries.filter (t.isListed p)).map Prod.fst) := by
      refine (List.perm_ext_iff_of_nodup (apart'.sublist (List.filter_sublist.map _))
        (apart.sublist (List.filter_sublist.map _))).mpr fun name => ?_
      simp only [List.mem_map, List.mem_filter]
      constructor
      · rintro ⟨f, ⟨member, isListed⟩, rfl⟩
        obtain ⟨node, among⟩ := exists_named names.symm member
        refine ⟨_, ⟨among, ?_⟩, rfl⟩
        rw [← isListed_relisted listed p f.1 (same _ among f member rfl), isListed]
      · rintro ⟨e, ⟨member, isListed⟩, rfl⟩
        obtain ⟨other, among⟩ := exists_named names member
        refine ⟨_, ⟨among, ?_⟩, rfl⟩
        rw [isListed_relisted listed p e.1 (same e member _ among rfl), isListed]
    have files {t : FileTree} {entries : List (String × Node)} : t.ownFiles p entries =
        ((byName (entries.filter (t.isListed p))).map Prod.fst).map p.child := by
      rw [ownFiles, List.map_map]
      rfl
    rw [files, files, map_fst_byName_eq own]

/-- The files below a folder are the same in another order of its entries. -/
theorem filesBelow_relisted (listed : t.Relisted t') {node other : Node}
    (same : node.Relisted other) (p : FilePath) : t'.filesBelow p other = t.filesBelow p node := by
  induction same generalizing p with
  | file | link => simp only [filesBelow]
  | @folder entries others apart names same ih =>
    have apart' : (others.map Prod.fst).Nodup := names.nodup_iff.mp apart
    -- The same folders with the same files below them, so the same list once they are in order.
    have folders : (t'.filesInFolders p others).Perm (t.filesInFolders p entries) := by
      refine (List.perm_ext_iff_of_nodup ?_ ?_).mpr ?_
      · exact .of_map _ (apart'.sublist (filesInFolders_sublist t' p others))
      · exact .of_map _ (apart.sublist (filesInFolders_sublist t p entries))
      rintro ⟨name, files⟩
      rw [mem_filesInFolders_iff, mem_filesInFolders_iff]
      constructor
      · rintro ⟨inner, member, kept, rfl⟩
        obtain ⟨node, among⟩ := exists_named names.symm member
        have files := ih _ among _ member rfl (p.child name)
        cases same _ among _ member rfl with
        | folder => exact ⟨_, among, kept, files⟩
      · rintro ⟨inner, member, kept, rfl⟩
        obtain ⟨other, among⟩ := exists_named names member
        have files := ih _ member _ among rfl (p.child name)
        cases same _ member _ among rfl with
        | folder => exact ⟨_, among, kept, files.symm⟩
    rw [filesBelow, filesBelow, ownFiles_relisted listed p (.folder apart names same),
      byName_eq_of_perm (apart'.sublist (filesInFolders_sublist t' p others)) folders]

/-! ## Collections -/

theorem take_relisted (listed : t.Relisted t') (ps : List FilePath) : t'.take ps = t.take ps := by
  induction ps with
  | nil => rfl
  | cons p ps ih => rw [take, take, isUploadable_relisted listed, read_relisted listed, ih]

theorem gather_relisted (listed : t.Relisted t') (p : FilePath) : t'.gather p = t.gather p := by
  have candidates : t'.candidates p = t.candidates p := by
    have found := folder?_relisted listed p
    rw [FileTree.candidates, FileTree.candidates]
    generalize t.folder? p = x at found ⊢
    generalize t'.folder? p = y at found ⊢
    cases found with
    | error | none => rfl
    | some same => simp only [filesBelow_relisted listed same]
  simp only [gather, candidates, take_relisted listed]

/-- What is collected does not depend on the order in which folders list their entries. -/
theorem collect_relisted (listed : t.Relisted t') (paths : List String) :
    t'.collect paths = t.collect paths := by
  induction paths with
  | nil => rfl
  | cons path paths ih => rw [collect, collect, gather_relisted listed, ih]

end FileTree
end LeakScan
