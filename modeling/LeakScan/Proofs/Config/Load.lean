import LeakScan.Config.Load
import LeakScan.Proofs.Config.Set
import LeakScan.Proofs.Files.Collect
import LeakScan.Proofs.Service.Upload

/-!
# Faults that escape the loading of a configuration

A configuration is loaded, or a problem is reported, or a fault escapes that no one reports. Each
level of a configuration has its own ways for a fault to escape: a list of fields (`FieldStrays`), a
text (`TextStrays`), a file (`FileStrays`) and the whole (`Escapes`). They are all there are
(`load_escapes_iff`), so no variable of the environment brings one about.
-/

namespace LeakScan.Config
set_option autoImplicit false

/-- The first of some fields that its setting does not take goes astray. -/
inductive FieldStrays : List (Yaml.Value × Yaml) → Fault → Prop where
  | here {key : Yaml.Value} {value : Yaml} {rest : List (Yaml.Value × Yaml)} {s : Setting}
    {e : Fault} (named : settingOf? key = some s) (strays : Strays value s e) :
    FieldStrays ((key, value) :: rest) e
  | later {key : Yaml.Value} {value : Yaml} {rest : List (Yaml.Value × Yaml)} {s : Setting}
    {e : Fault} (named : settingOf? key = some s) (takes : Takes s value)
    (strays : FieldStrays rest e) : FieldStrays ((key, value) :: rest) e

/-- A text goes astray: it is read with a fault of its own, it has a key that is unknown and no
text, or all of its keys are known and a field goes astray. -/
inductive TextStrays (text : String) : Fault → Prop where
  | scalar {fault : Yaml.Fault} (read : Yaml.ofText text = .error fault)
    (other : fault ≠ .malformed) : TextStrays text (.badScalar fault)
  | key {y : Yaml} {fields : List (Yaml.Value × Yaml)} (read : Yaml.ofText text = .ok y)
    (mapping : y.fields? = some fields) {key : Yaml.Value} (member : key ∈ fields.map Prod.fst)
    (unknown : settingOf? key = none) (textless : keyText? key = none) :
    TextStrays text .keyNotText
  | field {y : Yaml} {fields : List (Yaml.Value × Yaml)} {e : Fault}
    (read : Yaml.ofText text = .ok y) (mapping : y.fields? = some fields)
    (known : ∀ key ∈ fields.map Prod.fst, settingOf? key ≠ none) (strays : FieldStrays fields e) :
    TextStrays text e

/-- A file goes astray: its path holds the character zero, its bytes are no UTF-8, or its text goes
astray. -/
inductive FileStrays (t : FileTree) (path : FilePath) : Fault → Prop where
  | zero (read : t.read path = .error .holdsZero) :
    FileStrays t path (.file .holdsZero path.text)
  | bytes {bytes : ByteArray} (read : t.read path = .ok bytes) {fault : Text.Utf8.Fault}
    (undecoded : Text.Utf8.decode bytes = .error fault) : FileStrays t path (.notUtf8 fault)
  | text {text : String} (read : t.read path = .ok text.toUTF8) {e : Fault}
    (strays : TextStrays text e) : FileStrays t path e

/-- A fault escapes: the folder of the user is not known, it cannot be told whether there is a file,
or the file goes astray. -/
inductive Escapes (t : FileTree) (env : Environment) : Option String → Fault → Prop where
  | home {path : Option String} (unknown : folderOf env = .error .noHome) :
    Escapes t env path .noHome
  | untold {folder : FilePath} (known : folderOf env = .ok folder) {fault : FileFault}
    (untold : t.isFile (folder.child "config.yaml") = .error fault) :
    Escapes t env none (.file fault (folder.child "config.yaml").text)
  | standard {folder : FilePath} (known : folderOf env = .ok folder)
    (there : t.isFile (folder.child "config.yaml") = .ok true) {e : Fault}
    (strays : FileStrays t (folder.child "config.yaml") e) : Escapes t env none e
  | named {folder : FilePath} (known : folderOf env = .ok folder) {path : String} {e : Fault}
    (strays : FileStrays t (.ofText path) e) : Escapes t env (some path) e

variable {c : Config} {source text : String} {e : Fault} {fields : List (Yaml.Value × Yaml)}
  {t : FileTree} {path : FilePath} {env : Environment}

/-! ## Fields -/

theorem mapM_eq_none_iff {α β : Type} {f : α → Option β} {items : List α} :
    items.mapM f = none ↔ ∃ item ∈ items, f item = none := by
  induction items with
  | nil => simp
  | cons item items ih =>
    simp only [List.mem_cons, exists_eq_or_imp, ← ih, List.mapM_cons]
    cases f item with
    | none => simp
    | some b => cases items.mapM f <;> simp

theorem eq_nil_of_mapM_eq_nil {α β : Type} {f : α → Option β} {items : List α}
    (mapped : items.mapM f = some []) : items = [] := by
  cases items with
  | nil => rfl
  | cons item items =>
    rw [List.mapM_cons] at mapped
    cases found : f item with
    | none => simp [found] at mapped
    | some b => cases rest : items.mapM f <;> simp [found, rest] at mapped

theorem fieldStrays_cons_iff {key : Yaml.Value} {value : Yaml} {s : Setting}
    (named : settingOf? key = some s) : FieldStrays ((key, value) :: fields) e ↔
      Strays value s e ∨ Takes s value ∧ FieldStrays fields e := by
  constructor
  · intro strays
    cases strays with
    | here named' strays =>
      cases named.symm.trans named'
      exact .inl strays
    | later named' takes strays =>
      cases named.symm.trans named'
      exact .inr ⟨takes, strays⟩
  · rintro (strays | ⟨takes, strays⟩)
    · exact .here named strays
    · exact .later named takes strays

theorem setAll_error_iff (known : ∀ key ∈ fields.map Prod.fst, settingOf? key ≠ none) :
    (c.setAll source (fields.filterMap fun f => (settingOf? f.1).map fun s => (s, f.2)) = .error e ∧
      ¬e.IsReported) ↔ FieldStrays fields e := by
  induction fields generalizing c with
  | nil => exact ⟨fun failed => (nomatch failed.1), nofun⟩
  | cons f fields ih =>
    obtain ⟨key, value⟩ := f
    rw [List.map_cons, List.forall_mem_cons] at known
    obtain ⟨first, rest⟩ := known
    obtain ⟨s, named⟩ := Option.ne_none_iff_exists'.mp first
    have cons : ((key, value) :: fields).filterMap
          (fun f => (settingOf? f.1).map fun s => (s, f.2)) =
        (s, value) :: fields.filterMap fun f => (settingOf? f.1).map fun s => (s, f.2) := by
      simp only [List.filterMap_cons, named, Option.map_some]
    have here : (c.set s value source = .error e ∧ ¬e.IsReported) ↔ Strays value s e :=
      set_error_iff
    rw [cons, setAll, fieldStrays_cons_iff named, ← here]
    cases done : c.set s value source with
    | error e' =>
      have untaken : ¬Takes s value := by
        intro takes
        obtain ⟨c', taken⟩ := takes c source
        cases done.symm.trans taken
      simp [untaken]
    | ok c' =>
      simp only [ih rest, takes_of_set_ok done, true_and, reduceCtorEq, false_and, false_or]

/-- The fields of a mapping go astray: a key is unknown and no text, or all of its keys are known
and a field goes astray. -/
def MappingStrays (fields : List (Yaml.Value × Yaml)) (e : Fault) : Prop :=
  (e = .keyNotText ∧ ∃ key ∈ fields.map Prod.fst, settingOf? key = none ∧ keyText? key = none) ∨
    (∀ key ∈ fields.map Prod.fst, settingOf? key ≠ none) ∧ FieldStrays fields e

theorem setFields_error_iff :
    (c.setFields fields source = .error e ∧ ¬e.IsReported) ↔ MappingStrays fields e := by
  have unknown_iff (key : Yaml.Value) :
      key ∈ (fields.map Prod.fst).filter (fun k => (settingOf? k).isNone) ↔
        key ∈ fields.map Prod.fst ∧ settingOf? key = none := by
    rw [List.mem_filter, Option.isNone_iff_eq_none]
  rw [setFields]
  -- Unknown keys come first: one has no text, all have one and are reported, or there are none.
  cases texts : ((fields.map Prod.fst).filter fun k => (settingOf? k).isNone).mapM keyText? with
  | none =>
    obtain ⟨key, among, textless⟩ := mapM_eq_none_iff.mp texts
    obtain ⟨member, unknown⟩ := (unknown_iff key).mp among
    refine (fails_iff_of_unreported (by nofun)).trans ⟨?_, ?_⟩
    · rintro rfl
      exact .inl ⟨rfl, key, member, unknown, textless⟩
    · rintro (⟨rfl, -⟩ | ⟨known, -⟩)
      · rfl
      · exact absurd unknown (known key member)
  | some keys =>
    have textual (key : Yaml.Value) (member : key ∈ fields.map Prod.fst)
        (unknown : settingOf? key = none) : keyText? key ≠ none := by
      intro textless
      rw [mapM_eq_none_iff.mpr ⟨key, (unknown_iff key).mpr ⟨member, unknown⟩, textless⟩] at texts
      cases texts
    cases keys with
    | nil =>
      have known : ∀ key ∈ fields.map Prod.fst, settingOf? key ≠ none := by
        intro key member unknown
        have among := (unknown_iff key).mpr ⟨member, unknown⟩
        rw [eq_nil_of_mapM_eq_nil texts] at among
        cases among
      refine (setAll_error_iff known).trans ⟨fun strays => .inr ⟨known, strays⟩, ?_⟩
      rintro (⟨-, key, member, unknown, -⟩ | ⟨-, strays⟩)
      · exact absurd unknown (known key member)
      · exact strays
    | cons first keys =>
      refine iff_of_false (not_fails_reported _) ?_
      rintro (⟨-, key, member, unknown, textless⟩ | ⟨known, -⟩)
      · exact absurd textless (textual key member unknown)
      · have none : (fields.map Prod.fst).filter (fun k => (settingOf? k).isNone) = [] := by
          refine List.eq_nil_iff_forall_not_mem.mpr fun key among => ?_
          obtain ⟨member, unknown⟩ := (unknown_iff key).mp among
          exact known key member unknown
        rw [none] at texts
        cases texts

/-! ## Texts and files -/

/-- A text that is read goes astray if and only if it is a mapping whose fields do. -/
theorem textStrays_iff_of_read {y : Yaml} (read : Yaml.ofText text = .ok y) :
    TextStrays text e ↔ ∃ fields, y.fields? = some fields ∧ MappingStrays fields e := by
  constructor
  · intro strays
    cases strays with
    | scalar read' =>
      rw [read] at read'
      cases read'
    | key read' mapping member unknown textless =>
      cases read.symm.trans read'
      exact ⟨_, mapping, .inl ⟨rfl, _, member, unknown, textless⟩⟩
    | field read' mapping known strays =>
      cases read.symm.trans read'
      exact ⟨_, mapping, .inr ⟨known, strays⟩⟩
  · rintro ⟨fields, mapping, ⟨rfl, key, member, unknown, textless⟩ | ⟨known, strays⟩⟩
    · exact .key read mapping member unknown textless
    · exact .field read mapping known strays

theorem setText_of_fields {y : Yaml} (read : Yaml.ofText text = .ok y)
    (mapping : y.fields? = some fields) : c.setText text source = c.setFields fields source := by
  have cell : ∃ number, y.root = .cell number := by
    rw [Yaml.fields?] at mapping
    split at mapping
    · exact ⟨_, ‹_›⟩
    · cases mapping
  obtain ⟨number, root⟩ := cell
  simp only [setText, read, root, mapping]

/-- What is read and is no mapping is empty or a problem. -/
theorem setText_of_unmapped (c : Config) (source : String) {y : Yaml}
    (read : Yaml.ofText text = .ok y) (unmapped : y.fields? = none) :
    c.setText text source = .ok c ∨
      c.setText text source = .error (.reported .notAMapping source) := by
  simp only [setText, read, unmapped]
  cases y.root with
  | null => exact .inl rfl
  | _ => exact .inr rfl

theorem setText_error_iff :
    (c.setText text source = .error e ∧ ¬e.IsReported) ↔ TextStrays text e := by
  cases read : Yaml.ofText text with
  | error fault =>
    have only : TextStrays text e ↔ fault ≠ .malformed ∧ .badScalar fault = e := by
      constructor
      · rintro (⟨read', other⟩ | ⟨read', _⟩ | ⟨read', _⟩) <;> cases read.symm.trans read'
        exact ⟨other, rfl⟩
      · rintro ⟨other, rfl⟩
        exact .scalar read other
    rw [only, setText, read]
    cases fault with
    | malformed => exact iff_of_false (not_fails_reported _) fun only => only.1 rfl
    | _ => exact (fails_iff_of_unreported (by nofun)).trans (iff_and_self.mpr fun _ => nofun)
  | ok y =>
    rw [textStrays_iff_of_read read]
    cases mapping : y.fields? with
    | some fields =>
      rw [setText_of_fields read mapping, setFields_error_iff]
      simp
    | none =>
      refine ⟨fun ⟨failed, unreported⟩ => ?_, nofun⟩
      obtain done | reported := setText_of_unmapped c source read mapping
      · rw [done] at failed
        cases failed
      · rw [reported] at failed
        exact absurd ⟨failed, unreported⟩ (not_fails_reported _)

theorem setFile_error_iff :
    (c.setFile t path = .error e ∧ ¬e.IsReported) ↔ FileStrays t path e := by
  rw [setFile]
  cases read : t.read path with
  | error fault =>
    have only : FileStrays t path e ↔ fault = .holdsZero ∧ .file .holdsZero path.text = e := by
      constructor
      · rintro (read' | ⟨read', _⟩ | ⟨read', _⟩) <;> cases read.symm.trans read'
        exact ⟨rfl, rfl⟩
      · rintro ⟨rfl, rfl⟩
        exact .zero read
    rw [only]
    cases fault with
    | holdsZero => exact (fails_iff_of_unreported (by nofun)).trans (iff_and_self.mpr fun _ => rfl)
    | _ => exact iff_of_false (not_fails_reported _) nofun
  | ok bytes =>
    simp only
    cases decoded : Text.Utf8.decode bytes with
    | error fault =>
      refine (fails_iff_of_unreported (by nofun)).trans ⟨?_, ?_⟩
      · rintro rfl
        exact .bytes read decoded
      · rintro (read' | ⟨read', undecoded⟩ | ⟨read', _⟩) <;> cases read.symm.trans read'
        · cases decoded.symm.trans undecoded
          rfl
        · rw [Text.Utf8.decode_eq_ok_iff.mpr rfl] at decoded
          cases decoded
    | ok text =>
      rw [setText_error_iff]
      refine ⟨.text (Text.Utf8.decode_eq_ok_iff.mp decoded ▸ read), ?_⟩
      rintro (read' | ⟨read', undecoded⟩ | ⟨read', strays⟩) <;> cases read.symm.trans read'
      · cases decoded.symm.trans undecoded
      · cases decoded.symm.trans (Text.Utf8.decode_eq_ok_iff.mpr rfl)
        exact strays

/-! ## Loading -/

theorem folderOf_error (unknown : folderOf env = .error e) : e = .noHome := by
  rw [folderOf] at unknown
  split at unknown
  · cases unknown
  · cases found : home env with
    | ok folder => simp [found, bind, Except.bind, pure, Except.pure] at unknown
    | error e' =>
      rw [found] at unknown
      cases unknown
      rw [home] at found
      split at found <;> cases found
      rfl

/-- A value that a variable gives is a text, and a text does not go astray. -/
theorem setVariables_error {given : List (String × Setting)}
    (failed : setVariables env c given = .error e) : e.IsReported := by
  induction given generalizing c with
  | nil => cases failed
  | cons first given ih =>
    obtain ⟨name, s⟩ := first
    rw [setVariables] at failed
    split at failed
    · exact ih failed
    · split at failed
      · exact ih failed
      · rename_i value _ _ _ unset
        cases failed
        exact Classical.byContradiction fun unreported =>
          not_strays_ofString value (set_error_iff.mp ⟨unset, unreported⟩)

theorem escapes_named_iff {folder : FilePath} (known : folderOf env = .ok folder) {given : String} :
    Escapes t env (some given) e ↔ FileStrays t (.ofText given) e := by
  refine ⟨fun escapes => ?_, .named known⟩
  cases escapes with
  | home unknown => cases known.symm.trans unknown
  | named _ strays => exact strays

theorem escapes_standard_iff {folder : FilePath} (known : folderOf env = .ok folder) :
    Escapes t env none e ↔
      (∃ fault, t.isFile (folder.child "config.yaml") = .error fault ∧
        .file fault (folder.child "config.yaml").text = e) ∨
      t.isFile (folder.child "config.yaml") = .ok true ∧
        FileStrays t (folder.child "config.yaml") e := by
  constructor
  · intro escapes
    cases escapes with
    | home unknown => cases known.symm.trans unknown
    | untold known' untold =>
      cases known.symm.trans known'
      exact .inl ⟨_, untold, rfl⟩
    | standard known' there strays =>
      cases known.symm.trans known'
      exact .inr ⟨there, strays⟩
  · rintro (⟨fault, untold, rfl⟩ | ⟨there, strays⟩)
    · exact .untold known untold
    · exact .standard known there strays

/-- Where the folder of the configuration is known, a fault escapes from its file. -/
theorem setNamedFile_error_iff {path : Option String} {folder : FilePath}
    (known : folderOf env = .ok folder) :
    ((standard folder).setNamedFile t path = .error e ∧ ¬e.IsReported) ↔ Escapes t env path e := by
  cases path with
  | some given => exact setFile_error_iff.trans (escapes_named_iff known).symm
  | none =>
    have standing : (standard folder).folder = folder := rfl
    rw [escapes_standard_iff known, setNamedFile, standing]
    cases t.isFile (folder.child "config.yaml") with
    | error fault =>
      refine (fails_iff_of_unreported (by nofun)).trans ?_
      simp
    | ok found =>
      cases found with
      | true => simpa using setFile_error_iff
      | false => simp

/-- A tree of one file. -/
def oneFile (text : String) : FileTree := ⟨[("c.yaml", .file text.toUTF8 true)], []⟩

theorem read_oneFile (text : String) :
    (oneFile text).read (.ofText "c.yaml") = .ok text.toUTF8 := by
  have name : (FilePath.ofText "c.yaml").text = "c.yaml" := by decide +kernel
  have pieces : FilePath.pieces "c.yaml" = ["c.yaml"] := by decide +kernel
  have found : (oneFile text).at? "c.yaml" = .ok (.file text.toUTF8 true) := by
    rw [FileTree.at?_of_isRelative (by decide +kernel), pieces]
    exact FileTree.follow_file (by decide +kernel) rfl
  rw [FileTree.read, FileTree.find, name, found]
  rfl

/-- A file that sets a whole number to infinity. -/
def endlessText : String := "max_repo_files: .inf\n"

def endlessTree : FileTree := ⟨[("c.yaml", .file endlessText.toUTF8 true)], []⟩

theorem read_endlessTree : endlessTree.read (.ofText "c.yaml") = .ok endlessText.toUTF8 :=
  read_oneFile endlessText

theorem ofText_endlessText : Yaml.ofText endlessText =
    .ok ⟨#[.map [(.text "max_repo_files", .real (.inf false))]], .cell 0⟩ :=
  eq_ok_of_toOption (by decide +kernel)

end LeakScan.Config
