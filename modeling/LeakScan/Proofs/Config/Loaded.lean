import LeakScan.Proofs.Config.Held
import LeakScan.Proofs.Config.Load
import LeakScan.Proofs.Yaml.Keys

/-!
# What is loaded

A configuration that is loaded comes of what is standard: the values of its file are set, and then
those of the environment (`load_eq_ok_iff`). A file reads as a document, unless it need not be there
and is not (`FileReads`); a document that is accepted is empty or a mapping of known keys. No two
keys of a mapping name the same setting, so each setting holds the one value that the environment
gives it, or else the file (`holdsGiven_of_load`).
-/

namespace LeakScan.Config
set_option autoImplicit false

/-- The values that some fields give to settings. -/
def fieldValues (fields : List (Yaml.Value × Yaml)) : List (Setting × Yaml) :=
  fields.filterMap fun f => (settingOf? f.1).map fun s => (s, f.2)

/-- A document that a configuration is made of: it is empty, or a mapping of known keys. -/
def Accepted (y : Yaml) : Prop :=
  match y.fields? with
  | some fields => ∀ f ∈ fields, settingOf? f.1 ≠ none
  | none => y.root = .null

/-- The values that a document gives to settings. -/
def documentValues (y : Yaml) : List (Setting × Yaml) := fieldValues (y.fields?.getD [])

/-- How the file of a configuration reads: as a document, or as nothing if it need not be there and
is not. -/
inductive FileReads (t : FileTree) (folder : FilePath) : Option String → Option Yaml → Prop where
  | named {path text : String} {y : Yaml} (read : t.read (.ofText path) = .ok text.toUTF8)
    (parsed : Yaml.ofText text = .ok y) : FileReads t folder (some path) (some y)
  | standard {text : String} {y : Yaml} (there : t.isFile (folder.child "config.yaml") = .ok true)
    (read : t.read (folder.child "config.yaml") = .ok text.toUTF8)
    (parsed : Yaml.ofText text = .ok y) : FileReads t folder none (some y)
  | missing (absent : t.isFile (folder.child "config.yaml") = .ok false) :
    FileReads t folder none none

/-- The values that a file gives to settings. -/
def fileValues (file : Option Yaml) : List (Setting × Yaml) :=
  (file.map documentValues).getD []

/-- The value that a file gives to a setting. -/
def fileValue? (file : Option Yaml) (s : Setting) : Option Yaml := (fileValues file).lookup s

/-- The variable of the environment that may give a setting, if there is one. -/
def variableOf? (s : Setting) : Option String :=
  (environmentSettings.find? fun v => v.2 = s).map Prod.fst

/-- The value that the environment gives to a setting: the text of its variable, unless that is
empty. -/
def environmentValue? (env : Environment) (s : Setting) : Option Yaml :=
  ((variableOf? s).bind (given? env)).map .ofString

/-- The value that counts for a setting: what the environment gives, and else what the file does. -/
def value? (env : Environment) (file : Option Yaml) (s : Setting) : Option Yaml :=
  (environmentValue? env s).or (fileValue? file s)

variable {c c' : Config} {source text : String} {fields : List (Yaml.Value × Yaml)} {y : Yaml}
  {file : Option Yaml} {t : FileTree} {path : FilePath} {env : Environment} {s : Setting}

/-! ## Documents -/

/-- Fields are set if all their keys are known and their values are taken. -/
theorem setFields_eq_ok_iff : c.setFields fields source = .ok c' ↔
    (∀ f ∈ fields, settingOf? f.1 ≠ none) ∧ Sets c (fieldValues fields) c' := by
  have known_iff : (fields.map Prod.fst).filter (fun k => (settingOf? k).isNone) = [] ↔
      ∀ f ∈ fields, settingOf? f.1 ≠ none := by
    simp [List.filter_eq_nil_iff, Option.isNone_iff_eq_none]
  rw [setFields, ← known_iff, ← @setAll_eq_ok_iff c c' source]
  cases unknown : (fields.map Prod.fst).filter fun k => (settingOf? k).isNone with
  | nil =>
    refine Iff.trans ?_ (and_iff_right rfl).symm
    rfl
  | cons k keys =>
    refine iff_of_false (fun done => ?_) (by rintro ⟨⟨⟩, -⟩)
    cases texts : (k :: keys).mapM keyText? with
    | none => simp [texts] at done
    | some shown =>
      cases shown with
      | nil => cases eq_nil_of_mapM_eq_nil texts
      | cons => simp [texts] at done

theorem documentValues_of_fields (mapping : y.fields? = some fields) :
    documentValues y = fieldValues fields := by
  rw [documentValues, mapping]
  rfl

theorem accepted_of_fields (mapping : y.fields? = some fields) :
    Accepted y ↔ ∀ f ∈ fields, settingOf? f.1 ≠ none := by
  rw [Accepted, mapping]

/-- A text is set if it reads as a document that is accepted and whose values are taken. -/
theorem setText_eq_ok_iff : c.setText text source = .ok c' ↔
    ∃ y, Yaml.ofText text = .ok y ∧ Accepted y ∧ Sets c (documentValues y) c' := by
  cases read : Yaml.ofText text with
  | error fault =>
    refine iff_of_false (fun done => ?_) (by rintro ⟨_, ⟨⟩, -⟩)
    rw [setText, read] at done
    cases fault <;> cases done
  | ok y =>
    simp only [Except.ok.injEq, exists_eq_left']
    cases mapping : y.fields? with
    | some fields =>
      rw [setText_of_fields read mapping, accepted_of_fields mapping,
        documentValues_of_fields mapping]
      exact setFields_eq_ok_iff
    | none =>
      have empty : documentValues y = [] := by
        rw [documentValues, mapping]
        rfl
      have accepted : Accepted y ↔ y.root = .null := by
        rw [Accepted, mapping]
      rw [empty, sets_nil_iff, accepted, setText, read]
      simp only [mapping]
      cases y.root <;> simp

/-! ## Files -/

theorem setFile_eq_ok_iff : c.setFile t path = .ok c' ↔ ∃ text y,
    t.read path = .ok (String.toUTF8 text) ∧ Yaml.ofText text = .ok y ∧ Accepted y ∧
      Sets c (documentValues y) c' := by
  rw [setFile]
  cases read : t.read path with
  | error fault =>
    refine iff_of_false (fun done => ?_) (by rintro ⟨_, _, ⟨⟩, -⟩)
    cases fault <;> cases done
  | ok bytes =>
    dsimp only
    cases decoded : Text.Utf8.decode bytes with
    | error fault =>
      refine iff_of_false (by rintro ⟨⟩) ?_
      rintro ⟨text, _, ⟨⟩, -⟩
      rw [Text.Utf8.decode_eq_ok_iff.mpr rfl] at decoded
      cases decoded
    | ok text =>
      cases Text.Utf8.decode_eq_ok_iff.mp decoded
      rw [setText_eq_ok_iff]
      constructor
      · rintro ⟨y, set⟩
        exact ⟨text, y, rfl, set⟩
      · rintro ⟨text', y, same, set⟩
        cases decoded.symm.trans (Text.Utf8.decode_eq_ok_iff.mpr (Except.ok.inj same))
        exact ⟨y, set⟩

/-- A file reads in one way. -/
theorem FileReads.unique {folder : FilePath} {path : Option String} {other : Option Yaml}
    (reads : FileReads t folder path file) (reads' : FileReads t folder path other) :
    file = other := by
  have same {a b : String} {y z : Yaml} {p : FilePath} (read : t.read p = .ok a.toUTF8)
      (parsed : Yaml.ofText a = .ok y) (read' : t.read p = .ok b.toUTF8)
      (parsed' : Yaml.ofText b = .ok z) : y = z := by
    have decoded := Text.Utf8.decode_eq_ok_iff.mpr (Except.ok.inj (read.symm.trans read'))
    cases (Text.Utf8.decode_eq_ok_iff.mpr rfl).symm.trans decoded
    exact Except.ok.inj (parsed.symm.trans parsed')
  cases reads with
  | named read parsed =>
    obtain ⟨read', parsed'⟩ := reads'
    rw [same read parsed read' parsed']
  | standard there read parsed =>
    cases reads' with
    | standard _ read' parsed' => rw [same read parsed read' parsed']
    | missing absent => cases there.symm.trans absent
  | missing absent =>
    cases reads' with
    | standard there => cases there.symm.trans absent
    | missing => rfl

theorem setNamedFile_eq_ok_iff {path : Option String} : c.setNamedFile t path = .ok c' ↔
    ∃ file, FileReads t c.folder path file ∧ (∀ y ∈ file, Accepted y) ∧
      Sets c (fileValues file) c' := by
  constructor
  · intro done
    cases path with
    | some path =>
      obtain ⟨text, y, read, parsed, accepted, sets⟩ := setFile_eq_ok_iff.mp done
      exact ⟨some y, .named read parsed, by simpa using accepted, sets⟩
    | none =>
      rw [setNamedFile] at done
      cases there : t.isFile (c.folder.child "config.yaml") with
      | error fault => simp [there] at done
      | ok found =>
        cases found with
        | false =>
          simp only [there, Except.ok.injEq] at done
          exact ⟨none, .missing there, by simp, sets_nil_iff.mpr done⟩
        | true =>
          simp only [there] at done
          obtain ⟨text, y, read, parsed, accepted, sets⟩ := setFile_eq_ok_iff.mp done
          exact ⟨some y, .standard there read parsed, by simpa using accepted, sets⟩
  · rintro ⟨file, reads, accepted, sets⟩
    cases reads with
    | named read parsed =>
      exact setFile_eq_ok_iff.mpr ⟨_, _, read, parsed, accepted _ rfl, sets⟩
    | standard there read parsed =>
      simp only [setNamedFile, there]
      exact setFile_eq_ok_iff.mpr ⟨_, _, read, parsed, accepted _ rfl, sets⟩
    | missing absent =>
      simp only [setNamedFile, absent, Except.ok.injEq]
      exact sets_nil_iff.mp sets

/-! ## Loading -/

/-- A configuration is loaded from what is standard, by setting what its file gives, if that is
accepted, and then what the environment gives. -/
theorem load_eq_ok_iff {path : Option String} : load t env path = .ok c ↔
    ∃ folder file, folderOf env = .ok folder ∧ FileReads t folder path file ∧
      (∀ y ∈ file, Accepted y) ∧
      Sets (standard folder) (fileValues file ++ environmentValues env environmentSettings) c := by
  rw [load]
  cases known : folderOf env with
  | error e => exact iff_of_false (by rintro ⟨⟩) (by rintro ⟨_, _, ⟨⟩, -⟩)
  | ok folder =>
    have only {P : FilePath → Option Yaml → Prop} :
        (∃ place file, Except.ok folder = Except.ok (ε := Fault) place ∧ P place file) ↔
          ∃ file, P folder file := by
      simp
    rw [only]
    simp only [bind, Except.bind]
    constructor
    · intro done
      cases filed : (standard folder).setNamedFile t path with
      | error e => simp [filed] at done
      | ok d =>
        simp only [filed] at done
        obtain ⟨file, reads, accepted, sets⟩ := setNamedFile_eq_ok_iff.mp filed
        exact ⟨file, reads, accepted, sets_append_iff.mpr ⟨d, sets, setVariables_eq_ok_iff.mp done⟩⟩
    · rintro ⟨file, reads, accepted, sets⟩
      obtain ⟨d, first, next⟩ := sets_append_iff.mp sets
      simp only [setNamedFile_eq_ok_iff.mpr ⟨file, reads, accepted, first⟩]
      exact setVariables_eq_ok_iff.mpr next

/-! ## Rows whose keys are apart -/

theorem settingOf?_eq_some {k : Yaml.Value} (named : settingOf? k = some s) :
    k = .text (.whole s.key) := by
  cases k with
  | text key =>
    cases key with
    | whole key =>
      have found : Setting.all.find? (·.key = key) = some s := named
      have same := List.find?_some found
      rw [of_decide_eq_true same]
    | torn => cases named
  | _ => cases named

/-- No two fields of a document that is read name the same setting. -/
theorem nodup_documentValues (parsed : Yaml.ofText text = .ok y) :
    ((documentValues y).map Prod.fst).Nodup := by
  cases mapping : y.fields? with
  | none =>
    rw [documentValues, mapping]
    exact .nil
  | some fields =>
    rw [documentValues_of_fields mapping]
    have apart : (fields.map Prod.fst).Pairwise fun k l => Yaml.Value.sameKey k l = false := by
      rw [Yaml.fields?] at mapping
      split at mapping
      · split at mapping
        · rename_i number _ own here
          cases mapping
          rw [List.map_map]
          exact Yaml.keysApart_of_ofText parsed _ (Array.mem_of_getElem? here)
        · cases mapping
      · cases mapping
    have settings : (fieldValues fields).map Prod.fst =
        (fields.map Prod.fst).filterMap settingOf? := by
      simp [fieldValues, List.map_filterMap, List.filterMap_map, Function.comp_def]
    rw [settings]
    refine apart.filterMap _ fun k l other s named s' named' same => ?_
    subst same
    rw [settingOf?_eq_some named, settingOf?_eq_some named'] at other
    simp [Yaml.Value.sameKey] at other

section Rows

variable {α β : Type} [DecidableEq α] {rows moved : List (α × β)} {a : α} {b : β}

/-- Where keys are apart, a key reads as the one row that it has. -/
theorem lookup_eq_some_iff_mem (apart : (rows.map Prod.fst).Nodup) :
    rows.lookup a = some b ↔ (a, b) ∈ rows := by
  induction rows with
  | nil => simp
  | cons row rows ih =>
    obtain ⟨key, value⟩ := row
    rw [List.map_cons, List.nodup_cons] at apart
    rw [List.lookup_cons, List.mem_cons, Prod.mk.injEq, ← ih apart.2]
    by_cases same : a = key
    · subst same
      have absent : rows.lookup a ≠ some b := fun found =>
        apart.1 (List.mem_map.mpr ⟨(a, b), (ih apart.2).mp found, rfl⟩)
      simp [absent, eq_comm]
    · simp [same, beq_false_of_ne same]

/-- Where keys are apart, the order of the rows does not count. -/
theorem lookup_of_perm (apart : (rows.map Prod.fst).Nodup) (order : rows.Perm moved) :
    moved.lookup a = rows.lookup a := by
  refine Option.ext fun b => ?_
  rw [lookup_eq_some_iff_mem apart, lookup_eq_some_iff_mem ((order.map _).nodup_iff.mp apart),
    order.mem_iff]

end Rows

/-! ## The value that counts -/

theorem variableOf?_eq_some_iff {name : String} :
    variableOf? s = some name ↔ (name, s) ∈ environmentSettings := by
  cases s <;> simp [variableOf?, environmentSettings, eq_comm]

/-- The environment gives a setting the text of its variable. -/
theorem mem_environmentValues_iff {value : Yaml} :
    (s, value) ∈ environmentValues env environmentSettings ↔
      environmentValue? env s = some value := by
  simp only [environmentValues, environmentValue?, List.mem_filterMap, Option.map_eq_some_iff,
    Option.bind_eq_some_iff, variableOf?_eq_some_iff]
  constructor
  · rintro ⟨⟨name, _⟩, member, text, given, rfl, rfl⟩
    exact ⟨text, ⟨name, member, given⟩, rfl⟩
  · rintro ⟨text, ⟨name, member, given⟩, rfl⟩
    exact ⟨(name, s), member, text, given, rfl⟩

theorem environmentValues_sublist (env : Environment) (given : List (String × Setting)) :
    ((environmentValues env given).map Prod.fst).Sublist (given.map Prod.snd) := by
  induction given with
  | nil => exact .slnil
  | cons v given ih =>
    rw [environmentValues, List.filterMap_cons]
    cases given? env v.1 with
    | none => exact ih.cons _
    | some text => exact ih.cons_cons _

theorem nodup_environmentValues (env : Environment) :
    ((environmentValues env environmentSettings).map Prod.fst).Nodup :=
  (environmentValues_sublist env environmentSettings).nodup (by decide)

theorem lookup_environmentValues (env : Environment) (s : Setting) :
    (environmentValues env environmentSettings).lookup s = environmentValue? env s := by
  refine Option.ext fun value => ?_
  rw [lookup_eq_some_iff_mem (nodup_environmentValues env), mem_environmentValues_iff]

theorem nodup_fileValues {folder : FilePath} {path : Option String}
    (reads : FileReads t folder path file) : ((fileValues file).map Prod.fst).Nodup := by
  cases reads with
  | named _ parsed | standard _ _ parsed => exact nodup_documentValues parsed
  | missing => exact .nil

/-- What counts for a setting is the last of all values that are set. -/
theorem lookup_reverse_values {folder : FilePath} {path : Option String}
    (reads : FileReads t folder path file) (env : Environment) (s : Setting) :
    (fileValues file ++ environmentValues env environmentSettings).reverse.lookup s =
      value? env file s := by
  rw [List.reverse_append, List.lookup_append, value?, fileValue?, ← lookup_environmentValues,
    lookup_of_perm (nodup_environmentValues env) (List.reverse_perm _).symm,
    lookup_of_perm (nodup_fileValues reads) (List.reverse_perm _).symm]

/-- Each setting of a configuration that is loaded holds the value that counts for it, or else what
is standard, and admits it. -/
theorem holdsGiven_of_load {path : Option String} (loaded : load t env path = .ok c) :
    folderOf env = .ok c.folder ∧ SameFixed (standard c.folder) c ∧ ∃ file,
      FileReads t c.folder path file ∧ (∀ y ∈ file, Accepted y) ∧
      ∀ s, (standard c.folder).HoldsGiven c s (value? env file s) ∧ s.Admits (c.held s) := by
  obtain ⟨folder, file, known, reads, accepted, sets⟩ := load_eq_ok_iff.mp loaded
  have fixed := sets.sameFixed
  have same : c.folder = folder := fixed.folder
  subst same
  -- What was set last counts, and it was checked when it was set.
  refine ⟨known, fixed, file, reads, accepted, fun s => ⟨?_, sets.admits ?_ s⟩⟩
  · rw [← lookup_reverse_values reads env s]
    exact sets.holdsGiven s
  · exact admits_standard c.folder

/-! ## Loading from one file -/

deriving instance DecidableEq for Config

theorem fileReads_oneFile (folder : FilePath) (parsed : Yaml.ofText text = .ok y) :
    FileReads (oneFile text) folder (some "c.yaml") (some y) :=
  .named (read_oneFile text) parsed

theorem load_oneFile (text : String) (env : Environment) :
    load (oneFile text) env (some "c.yaml") = ((folderOf env).bind fun folder =>
      ((standard folder).setText text "c.yaml").bind fun c =>
        setVariables env c environmentSettings) := by
  have name : (FilePath.ofText "c.yaml").text = "c.yaml" := by decide +kernel
  have set (c : Config) :
      c.setNamedFile (oneFile text) (some "c.yaml") = c.setText text "c.yaml" := by
    have decoded : Text.Utf8.decode text.toUTF8 = .ok text := Text.Utf8.decode_eq_ok_iff.mpr rfl
    simp only [setNamedFile, setFile, read_oneFile, decoded, name]
  simp only [load, set]
  rfl

end LeakScan.Config
