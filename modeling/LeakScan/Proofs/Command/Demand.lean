import LeakScan.Command.Demand
import LeakScan.Proofs.Command.Arguments

/-!
# Command lines for a scan of files

A command line asks for a scan of some paths in a format, into no file (`AsksScan`), whatever files
there are. What it comes to depends on the paths alone, if the configuration that it names can be
read (`ofArguments_of_asksScan`): it is refused where one of them is a file that cannot be read, and
followed where all of them are there and none is such a file.
-/

namespace LeakScan

/-- A file is at a path that cannot be read. -/
def FileTree.Denies (t : FileTree) (path : String) : Prop :=
  ∃ content, t.at? path = .ok (.file content false)

namespace Command
set_option autoImplicit false

variable {t : FileTree} {paths : List String} {config : Option String} {f : ExportFormat}
  {arguments : List String} {a : Arguments} {s : Switch}

/-- A command line asks for a scan of some paths in a format, into no file: before the command it
may name a configuration and ask for all messages, and after it are the paths and the format. -/
inductive AsksScan (paths : List String) (f : ExportFormat) (config : Option String)
    (arguments : List String) : Prop where
  | intro {top uses : List Use} {rest : List String}
    (program : Spells .program arguments ⟨top, Verb.scan.name :: rest⟩)
    (before : ∀ u ∈ top, u.switch = .config ∨ u.switch = .verbose)
    (named : Arguments.value? ⟨top, Verb.scan.name :: rest⟩ .config = config)
    (command : Spells (.verb .scan) rest ⟨uses, paths⟩)
    (formats : ∀ u ∈ uses, u.switch = .format)
    (format : Arguments.value? ⟨uses, paths⟩ .format = some f.name)

/-! ## Switches in use -/

theorem mem_switches_iff : s ∈ a.switches ↔ ∃ u ∈ a.uses, u.switch = s := by
  rw [Arguments.switches, List.mem_eraseDups, List.mem_map]

theorem exists_value?_of_mem (used : s ∈ a.switches) : ∃ value, a.value? s = some value := by
  obtain ⟨u, member, rfl⟩ := mem_switches_iff.mp used
  cases found : a.uses.reverse.find? (·.switch = u.switch) with
  | none =>
    have other := List.find?_eq_none.mp found u (List.mem_reverse.mpr member)
    simp at other
  | some u' => exact ⟨u'.value, by rw [Arguments.value?, found]; rfl⟩

theorem mem_switches_of_value? {value : String} (given : a.value? s = some value) :
    s ∈ a.switches := by
  obtain ⟨u, found, -⟩ := Option.map_eq_some_iff.mp given
  exact mem_switches_iff.mpr
    ⟨u, List.mem_reverse.mp (List.mem_of_find?_eq_some found), by simpa using List.find?_some found⟩

theorem prompt?_eq_none (plain : ∀ u ∈ a.uses, u.switch.isPrompt = false) : a.prompt? = none := by
  refine List.find?_eq_none.mpr fun s used => ?_
  obtain ⟨u, member, rfl⟩ := mem_switches_iff.mp used
  simp [plain u member]

namespace Settings

/-- The switches of the program set the configuration that is named, if its file can be read. -/
theorem exists_setAll_program {x : Settings} {ss : List Switch}
    (before : ∀ s ∈ ss, s = .config ∨ s = .verbose)
    (given : ∀ s ∈ ss, ∃ value, a.value? s = some value)
    (readable : ∀ path ∈ a.value? .config, ∃ content, t.at? path = .ok (.file content true)) :
    ∃ x', x.setAll t .program a ss = .ok x' ∧
      x'.config = if .config ∈ ss then a.value? .config else x.config := by
  induction ss generalizing x with
  | nil => exact ⟨x, rfl, by simp⟩
  | cons s ss ih =>
    obtain ⟨first, later⟩ := List.forall_mem_cons.mp before
    obtain ⟨⟨value, found⟩, others⟩ := List.forall_mem_cons.mp given
    rw [setAll, found, Option.getD_some]
    obtain rfl | rfl := first
    · obtain ⟨content, there⟩ := readable value found
      obtain ⟨x', set, config⟩ := @ih { x with config := some value } later others
      refine ⟨x', ?_, ?_⟩
      · simpa only [Settings.set, fileOf, there, Except.map] using set
      · rw [config, found]
        simp
    · obtain ⟨x', set, config⟩ := @ih { x with verbose := true } later others
      exact ⟨x', set, by simpa using config⟩

/-- The switches of a scan set its format. -/
theorem setAll_format {x : Settings} {ss : List Switch} (formats : ∀ s ∈ ss, s = .format)
    (format : a.value? .format = some f.name) :
    x.setAll t (.verb .scan) a ss =
      .ok (if ss = [] then x else { x with format := .exported f }) := by
  induction ss generalizing x with
  | nil => rfl
  | cons s ss ih =>
    obtain ⟨first, later⟩ := List.forall_mem_cons.mp formats
    subst first
    have named : formatOf f.name = .ok (.exported f) := by cases f <;> rfl
    rw [setAll, format, set, Option.getD_some, named]
    simp only [Except.map]
    rw [ih later]
    split <;> rfl

end Settings

/-! ## Paths -/

namespace Order

theorem checkPaths_eq_ok (there : ∀ path ∈ paths, ∃ node, t.at? path = .ok node)
    (readable : ∀ path ∈ paths, ¬t.Denies path) : checkPaths t paths = .ok () := by
  induction paths with
  | nil => rfl
  | cons path paths ih =>
    obtain ⟨⟨node, found⟩, there⟩ := List.forall_mem_cons.mp there
    obtain ⟨first, readable⟩ := List.forall_mem_cons.mp readable
    have fine : pathFault? t path = none := by
      rw [pathFault?, found]
      split
      · rename_i content same
        cases same
        exact absurd ⟨content, found⟩ first
      · rfl
      · cases ‹_›
      · cases ‹_›
    rw [checkPaths, fine]
    exact ih there readable

/-- The first file that cannot be read is refused. -/
theorem exists_checkPaths_eq_error (there : ∀ path ∈ paths, ∃ node, t.at? path = .ok node)
    (denied : ∃ path ∈ paths, t.Denies path) : ∃ path ∈ paths,
      checkPaths t paths =
        .error (.badValue (.verb .scan) (.operand "PATHS...") (.pathDenied path)) := by
  induction paths with
  | nil =>
    obtain ⟨path, member, -⟩ := denied
    cases member
  | cons path paths ih =>
    by_cases first : t.Denies path
    · obtain ⟨content, found⟩ := first
      exact ⟨path, List.mem_cons_self, by simp only [checkPaths, pathFault?, found]⟩
    · obtain ⟨here, there⟩ := List.forall_mem_cons.mp there
      have fine : checkPaths t [path] = .ok () := checkPaths_eq_ok (by simpa) (by simpa)
      have skipped : checkPaths t (path :: paths) = checkPaths t paths := by
        rw [checkPaths] at fine ⊢
        cases fault : pathFault? t path with
        | none => rfl
        | some e => simp [fault] at fine
      have later : ∃ path ∈ paths, t.Denies path := by simpa [first] using denied
      obtain ⟨path', member, refused⟩ := ih there later
      exact ⟨path', List.mem_cons_of_mem path member, skipped.trans refused⟩

end Order

/-! ## Command lines -/

namespace Demand

/-- After the name of a scan there is nothing to check but the paths. -/
theorem ofVerb_scan (top : Settings) {rest : List String} {uses : List Use}
    (command : Spells (.verb .scan) rest ⟨uses, paths⟩) (formats : ∀ u ∈ uses, u.switch = .format)
    (format : Arguments.value? ⟨uses, paths⟩ .format = some f.name) :
    ofVerb t top .scan rest =
      (Order.ofOperands t { Settings.standard with format := .exported f } .scan paths).map
        fun order => .command top.config top.verbose order ⟨.exported f, none⟩ := by
  have all : ∀ s ∈ Arguments.switches ⟨uses, paths⟩, s = .format := by
    intro s used
    obtain ⟨u, member, rfl⟩ := mem_switches_iff.mp used
    exact formats u member
  have unprompted : Arguments.prompt? ⟨uses, paths⟩ = none := by
    refine prompt?_eq_none fun u member => ?_
    rw [formats u member]
    rfl
  have set : Settings.standard.setAll t (.verb .scan) ⟨uses, paths⟩
      (Arguments.switches ⟨uses, paths⟩) =
        .ok { Settings.standard with format := .exported f } := by
    rw [Settings.setAll_format all format,
      if_neg (List.ne_nil_of_mem (mem_switches_of_value? format))]
  simp only [ofVerb, read_eq_ok_iff.mpr command, unprompted, set, bind, Except.bind]
  cases Order.ofOperands t _ .scan paths <;> rfl

/-- A command line for a scan comes to what its paths come to. -/
theorem exists_ofArguments_of_asksScan (asks : AsksScan paths f config arguments)
    (readable : ∀ path ∈ config, ∃ content, t.at? path = .ok (.file content true)) :
    ∃ verbose, ofArguments t arguments =
      (Order.ofOperands t { Settings.standard with format := .exported f } .scan paths).map
        fun order => .command config verbose order ⟨.exported f, none⟩ := by
  obtain @⟨top, uses, rest, program, before, rfl, command, formats, format⟩ := asks
  have nonempty : arguments.isEmpty = false := by
    cases arguments with
    | nil => cases program
    | cons => rfl
  have all : ∀ s ∈ Arguments.switches ⟨top, Verb.scan.name :: rest⟩,
      s = .config ∨ s = .verbose := by
    intro s used
    obtain ⟨u, member, rfl⟩ := mem_switches_iff.mp used
    exact before u member
  have unprompted : Arguments.prompt? ⟨top, Verb.scan.name :: rest⟩ = none := by
    refine prompt?_eq_none fun u member => ?_
    obtain same | same := before u member <;> rw [same] <;> rfl
  obtain ⟨x, set, named⟩ := @Settings.exists_setAll_program t _ .standard _ all
    (fun s used => exists_value?_of_mem used) readable
  have config : x.config = Arguments.value? ⟨top, Verb.scan.name :: rest⟩ .config := by
    rw [named]
    split
    · rfl
    · rename_i unused
      cases given : Arguments.value? ⟨top, Verb.scan.name :: rest⟩ .config with
      | none => rfl
      | some value => exact absurd (mem_switches_of_value? given) unused
  have verb : Verb.ofName? Verb.scan.name = some .scan := rfl
  refine ⟨x.verbose, ?_⟩
  rw [← config, ← ofVerb_scan x command formats format]
  simp only [ofArguments, nonempty, read_eq_ok_iff.mpr program, unprompted, set, verb, bind,
    Except.bind]
  rfl

/-- Where the paths are there, a command line for a scan is followed if all of their files can be
read, and refused otherwise. -/
theorem ofArguments_of_asksScan (asks : AsksScan paths f config arguments)
    (readable : ∀ path ∈ config, ∃ content, t.at? path = .ok (.file content true))
    (there : ∀ path ∈ paths, ∃ node, t.at? path = .ok node) :
    ((∃ path ∈ paths, t.Denies path) → ∃ path ∈ paths, ofArguments t arguments =
      .error (.badValue (.verb .scan) (.operand "PATHS...") (.pathDenied path))) ∧
    ((∀ path ∈ paths, ¬t.Denies path) → paths ≠ [] → ∃ verbose, ofArguments t arguments =
      .ok (.command config verbose (.scan paths) ⟨.exported f, none⟩)) ∧
    (paths = [] → ofArguments t arguments =
      .error (.operandMissing (.verb .scan) "PATHS...")) := by
  obtain ⟨verbose, asked⟩ := exists_ofArguments_of_asksScan asks readable
  rw [asked]
  have given {path : String} (member : path ∈ paths) (x : Settings) :
      Order.ofOperands t x .scan paths =
        (Order.checkPaths t paths).map fun _ => .scan paths := by
    cases paths with
    | nil => cases member
    | cons => rfl
  refine ⟨fun denied => ?_, fun allowed full => ?_, ?_⟩
  · obtain ⟨path, member, refused⟩ := Order.exists_checkPaths_eq_error there denied
    exact ⟨path, member, by rw [given member, refused]; rfl⟩
  · obtain ⟨path, member⟩ := List.exists_mem_of_ne_nil paths full
    exact ⟨verbose, by rw [given member, Order.checkPaths_eq_ok there allowed]; rfl⟩
  · rintro rfl
    rfl

end Demand
end Command
end LeakScan
