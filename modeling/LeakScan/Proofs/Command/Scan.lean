import LeakScan.Proofs.Command.Demand
import LeakScan.Proofs.Command.Step
import LeakScan.Proofs.Export.Plain
import LeakScan.Proofs.Files.Existing
import LeakScan.Proofs.Service.Critical
import LeakScan.Proofs.Service.Local
import LeakScan.Proofs.Session.Registry

/-!
# The exit code of a scan of files

A run that scans files makes one session and looks for nothing else (`Service.Knows`). If there is
no file to scan, it ends with exit code 2 (`ends_scanFiles_nil`). Otherwise, while the session has
not expired, the run finds it and writes what was found, and its exit code is 1 or 0, depending on
whether a critical signature matches on a line of a file (`ends_scanFiles`, `tells_of_asked`). A
file that is named and cannot be read ends the run before that (`scan_exit_code`).
-/

namespace LeakScan
set_option autoImplicit false

namespace Service

variable {T : Type} [Time T] {s : Service T} {session : Session T}

/-- A service that knows a single session. -/
structure Knows (s : Service T) (session : Session T) : Prop where
  sessions : s.sessions = [session]
  members : s.registry.members = [session.id]

namespace Knows

theorem enqueue (unused : s.sessions = []) (empty : s.registry.members = []) (now : T) (id : String)
    (task : Task) : (s.enqueue now id task).Knows (.create id task.kind task.source) := by
  have sessions : (s.enqueue now id task).sessions = [.create id task.kind task.source] := by
    rw [Service.enqueue, unused]
    rfl
  refine ⟨sessions, ?_⟩
  have purged (others : Sessions T) : (s.registry.purge others now).members = [] := by
    rw [Registry.purge, empty]
    rfl
  show (s.registry.add _ now id).members = [id]
  simp [Registry.add, purged]

/-- A session that has not expired can be asked about, and the service stays as it is. -/
theorem ask_eq {α : Type} (knows : s.Knows session) {now : T}
    (alive : session.expired s.registry.ttl now = false) (question : Session T → α) :
    s.ask now session.id question = (s, .ok (question session)) := by
  have found : s.sessions.get? session.id = some session := by
    simp [knows.sessions, Sessions.get?]
  have kept : s.registry.purge s.sessions now = s.registry := by
    rw [Registry.purge, List.filter_eq_self.mpr]
    rw [knows.members]
    simp [found, alive]
  have looked : s.registry.get s.sessions now session.id = (s.registry, .ok session) := by
    refine Prod.ext (Registry.get_fst.trans kept) (Registry.get_eq_ok_iff.mpr ⟨?_, found⟩)
    rw [kept, knows.members]
    exact List.mem_singleton_self _
  simp only [ask, Service.session, looked]
  rfl

omit [Time T] in
/-- After its scan the only session is still the only one. -/
theorem run (knows : s.Knows session) {task : Task} (queued : s.queue[0]? = some ⟨session.id, task⟩)
    (host : Host) (now : T) (listings : Nat) :
    (s.run host now listings 0).1.Knows
        (session.follow now (Course.ofTask host s.client s.requests listings task)) ∧
      (s.run host now listings 0).1.registry.ttl = s.registry.ttl := by
  have found : s.sessions.get? session.id = some session := by
    simp [knows.sessions, Sessions.get?]
  have ran : s.run host now listings 0 =
      { s with queue := s.queue.eraseIdx 0 }.runJob host now listings ⟨session.id, task⟩ := by
    simp only [Service.run, queued]
  rw [ran]
  simp only [runJob, found]
  refine ⟨⟨?_, ?_⟩, trivial⟩
  · simp [knows.sessions, Sessions.modify]
  · rw [Session.id_follow]
    exact knows.members

end Knows
end Service

namespace Command

open Act

/-- A session that ended when the scan of a run did has not expired whenever the run looks for
it. -/
def Moments.Unexpired (k : Moments) (ttl : Double) : Prop :=
  ∀ session : Session Double, session.finishedAt = some k.ended →
    ∀ now ∈ [k.watched, k.reported, k.exported], session.expired ttl now = false

variable {m : Surroundings} {k : Moments} {s : Service Double} {session ended : Session Double}

/-- A run follows the scan of the only session to its report. -/
theorem gives_followed {task : Task} (knows : s.Knows session)
    (queued : s.queue[0]? = some ⟨session.id, task⟩)
    (scanned : session.follow k.ended
      (Course.ofTask m.host s.client s.requests m.listings task) = ended)
    (alive : ∀ now ∈ [k.watched, k.reported, k.exported],
      ended.expired s.registry.ttl now = false) (f : ExportFormat) :
    ∃ s' : Service Double, s'.Knows ended ∧ s'.registry.ttl = s.registry.ttl ∧
      Gives (followed m k s session.id (.exported f)) (s', ended.report) "" := by
  have named : session.id = ended.id := by rw [← scanned, Session.id_follow]
  obtain ⟨known, ttl⟩ := knows.run queued m.host k.ended m.listings
  rw [scanned] at known
  rcases ran : s.run m.host k.ended m.listings 0 with ⟨s', trace⟩
  rw [ran] at known ttl
  have watched : s'.progress k.watched session.id = (s', .ok ended.showProgress) := by
    rw [Service.progress, named, known.ask_eq (ttl ▸ alive _ (by simp))]
  have reported : s'.report k.reported session.id = (s', .ok ended.report) := by
    rw [Service.report, named, known.ask_eq (ttl ▸ alive _ (by simp))]
  refine ⟨s', known, ttl, ?_⟩
  simp only [followed, ran, watched, reported]
  refine Gives.bind_of_silent (gives_modify fun _ => rfl) ?_
  refine Gives.bind_of_silent (gives_log _) ?_
  refine Gives.bind_of_silent (gives_answered _) ?_
  rw [if_neg nofun]
  exact Gives.bind_of_silent (gives_answered _) (.pure _)

/-- A run writes the results of the only session in a format. -/
theorem gives_showResults (known : s.Knows ended)
    (alive : ended.expired s.registry.ttl k.exported = false) (report : Report)
    (f : ExportFormat) :
    Gives (showResults m k s ended.id report ⟨.exported f, none⟩) ()
      (echoed m.onTerminal (Export.text ended.results f ++ "\n")) := by
  have named : Export.named ended.results f.name = .ok (Export.text ended.results f) := by
    cases f <;> rfl
  have exported : (s.exported k.exported ended.id f.name).2 =
      .ok (.ok (Export.text ended.results f)) := by
    rw [Service.exported, known.ask_eq alive, named]
  simp only [showResults, exported]
  refine Gives.bind_of_silent (gives_answered _) ?_
  exact gives_write m _

/-- Critical findings have an exit code of their own. -/
theorem ends_conclude (stats : Stats) :
    Ends (conclude stats) (if 0 < stats.critical then 1 else 0) "" := by
  rw [conclude]
  split
  · obtain ⟨cs, shows⟩ := exists_shown_critical stats.critical
    exact (Gives.bind_stops (gives_say shows) (stops_exit 1)).ends
  · exact (Gives.pure ()).ends

/-- A run that finishes the scan of the only session writes its results. -/
theorem ends_finish {task : Task} (knows : s.Knows session)
    (queued : s.queue[0]? = some ⟨session.id, task⟩)
    (scanned : session.follow k.ended
      (Course.ofTask m.host s.client s.requests m.listings task) = ended)
    (complete : ended.state = .complete)
    (alive : ∀ now ∈ [k.watched, k.reported, k.exported],
      ended.expired s.registry.ttl now = false) (f : ExportFormat) :
    Ends (finish m k s session.id ⟨.exported f, none⟩)
      (if 0 < ended.stats.critical then 1 else 0)
      (echoed m.onTerminal (Export.text ended.results f ++ "\n")) := by
  obtain ⟨s', known, ttl, gives⟩ := gives_followed knows queued scanned alive f
  have named : session.id = ended.id := by rw [← scanned, Session.id_follow]
  have success : ended.report.success = true := by simp [Session.report, complete]
  have still : ended.expired s'.registry.ttl k.exported = false := ttl ▸ alive _ (by simp)
  have shown := gives_showResults (m := m) known still ended.report f
  have both := Gives.bind_ends (f := fun _ => conclude ended.stats) shown
    (ends_conclude ended.stats)
  rw [String.append_empty] at both
  rw [finish]
  refine Gives.bind_ends_of_silent gives ?_
  simp only [success]
  rw [if_neg (by decide), named]
  exact both

/-- A run with no file to scan ends with code 2. -/
theorem ends_scanFiles_nil {paths : List String}
    (collected : (m.tree.collect paths).outcome = .ok []) (k : Moments) (c : Config)
    (d : Destination) : Ends (scanFiles m k c paths d) 2 "" := by
  obtain ⟨cs, opens⟩ := exists_shown_opening 0
  obtain ⟨ds, shows⟩ := exists_shown_noFiles
  have stops : Stops (start k c.service (.upload [])) 2 "" := by
    have rejected : c.service.start k.started (.upload []) = .error (.rejected .noFiles) := rfl
    rw [start, rejected]
    exact Gives.bind_stops (gives_say shows) (stops_exit 2)
  rw [scanFiles]
  refine Gives.bind_ends_of_silent (gives_log _) ?_
  simp only [collected]
  refine Gives.bind_ends_of_silent (.pure _) ?_
  refine Gives.bind_ends_of_silent (gives_say opens) ?_
  exact (stops.bind _).ends

/-- A run with files to scan writes what is found in them and ends with a code that tells whether
any of it is critical. -/
theorem ends_scanFiles {paths : List String} {batch : List Upload} {c : Config} {millis : Int}
    (collected : (m.tree.collect paths).outcome = .ok batch) (full : batch ≠ [])
    (scannable : ∀ u ∈ batch, u.content ≠ .absent) (clock : Time.millis k.started = .ok millis)
    (unexpired : k.Unexpired c.sessionTtl) (f : ExportFormat) :
    let results := Result.ofFindings (scanId millis 1) (batch.flatMap Upload.findings)
    Ends (scanFiles m k c paths ⟨.exported f, none⟩)
      (if 0 < (Stats.ofResults results batch.length).critical then 1 else 0)
      (echoed m.onTerminal (Export.text results f ++ "\n")) := by
  intro results
  obtain ⟨cs, opens⟩ := exists_shown_opening batch.length
  have asked : Task.ofRequest c.service.limit (.upload batch) = .ok (.upload batch) := by
    simp [Task.ofRequest, full]
  have named : c.service.nextId k.started = .ok (scanId millis 1) := by
    rw [Service.nextId, clock]
    rfl
  have started : c.service.start k.started (.upload batch) =
      .ok (c.service.enqueue k.started (scanId millis 1) (.upload batch), scanId millis 1) :=
    Service.start_eq asked named
  have knows := Service.Knows.enqueue (s := c.service) rfl rfl k.started (scanId millis 1)
    (.upload batch)
  have ttl : (c.service.enqueue k.started (scanId millis 1) (.upload batch)).registry.ttl =
      c.sessionTtl := Registry.ttl_add
  obtain ⟨-, -, ending⟩ := Course.ofUploadsFrom_eq batch.length 0 scannable
  have scanned := Session.follow_found (s := .create (scanId millis 1) "upload"
    (Task.source (.upload batch))) rfl k.ended ending
  have finished := ends_finish (m := m) knows rfl scanned rfl
    (fun now member => ttl ▸ unexpired _ rfl now member) f
  rw [scanFiles]
  refine Gives.bind_ends_of_silent (gives_log _) ?_
  simp only [collected]
  refine Gives.bind_ends_of_silent (.pure _) ?_
  refine Gives.bind_ends_of_silent (gives_say opens) ?_
  rw [start, started]
  exact Gives.bind_ends_of_silent (.pure _) finished

/-! ## The whole run -/

/-- The outcome of a run that scans a batch: a code for a batch without files, one for a batch with
a file on a line of which a critical signature matches, one for any other, and what is written. -/
structure Outcome.Tells (o : Outcome) (batch : List Upload) (text : String) : Prop where
  crash : o.crash = none
  nothing : o.code = 2 ↔ batch = []
  critical : o.code = 1 ↔ batch ≠ [] ∧ ∃ u ∈ batch, u.HoldsCritical
  clean : o.code = 0 ↔ batch ≠ [] ∧ ¬∃ u ∈ batch, u.HoldsCritical
  output : batch ≠ [] → o.effects.output = text

theorem runAt_eq {arguments : List String} {demand : Demand}
    (asked : Demand.ofArguments m.tree arguments = .ok demand) :
    runAt m k arguments = .ofAct (perform m k demand) ⟨"", "", m.tree, [], [], none⟩ := by
  rw [runAt, asked]

/-- A run that is asked for a scan of files loads its configuration and scans them. -/
theorem ends_perform_scan {config : Option String} {c : Config}
    (loads : Config.load m.tree m.environment config = .ok c) (verbose : Bool) {paths : List String}
    {d : Destination} {code : Nat} {added : String}
    (scans : Ends (scanFiles m k { c with verbose := verbose } paths d) code added) :
    Ends (perform m k (.command config verbose (.scan paths) d)) code added := by
  have loaded : Gives (loadConfig m config verbose) { c with verbose := verbose } "" := by
    rw [loadConfig, loads]
    exact .pure _
  exact loaded.bind_ends_of_silent scans

/-- What a run tells that is asked for a scan of files. -/
theorem tells_of_asked {arguments paths : List String} {config : Option String} {verbose : Bool}
    {f : ExportFormat} {batch : List Upload} {c : Config} {millis : Int}
    (collected : (m.tree.collect paths).outcome = .ok batch)
    (scannable : ∀ u ∈ batch, u.content ≠ .absent)
    (asked : Demand.ofArguments m.tree arguments =
      .ok (.command config verbose (.scan paths) ⟨.exported f, none⟩))
    (loads : Config.load m.tree m.environment config = .ok c)
    (clock : Time.millis k.started = .ok millis) (unexpired : k.Unexpired c.sessionTtl) :
    (runAt m k arguments).Tells batch (echoed m.onTerminal
      (Export.text (Result.ofFindings (scanId millis 1) (batch.flatMap Upload.findings)) f ++
        "\n")) := by
  rw [runAt_eq asked]
  by_cases full : batch = []
  · rw [full] at collected
    obtain ⟨e, outcome, output⟩ := ends_perform_scan loads verbose
      (ends_scanFiles_nil collected k _ ⟨.exported f, none⟩) ⟨"", "", m.tree, [], [], none⟩
    rw [outcome]
    constructor <;> simp [full]
  · obtain ⟨e, outcome, output⟩ := ends_perform_scan loads verbose
      (ends_scanFiles (c := { c with verbose := verbose }) collected full scannable clock unexpired
        f) ⟨"", "", m.tree, [], [], none⟩
    have written := output.trans String.empty_append
    have counted := Upload.count_critical_pos_iff (scanId millis 1) batch batch.length
    rw [outcome]
    by_cases critical : ∃ u ∈ batch, u.HoldsCritical
    · rw [if_pos (counted.mpr critical)]
      exact ⟨rfl, by simp [full], by simp [full, critical], by simp [full, critical],
        fun _ => written⟩
    · rw [if_neg (mt counted.mp critical)]
      exact ⟨rfl, by simp [full], by simp [full, critical], by simp [full, critical],
        fun _ => written⟩

/-- A command line with a fault is answered with that, on the output for messages. -/
theorem runAt_eq_of_fault {arguments : List String} {fault : UsageFault}
    (asked : Demand.ofArguments m.tree arguments = .error fault) (answered : fault.crash? = none) :
    (runAt m k arguments).crash = none ∧ (runAt m k arguments).code = 2 ∧
      (runAt m k arguments).effects.output = "" := by
  simp only [runAt, asked, answered]
  exact ⟨trivial, trivial, trivial⟩

/-- A line with a key. -/
def keyText : String := "k = AKIA0123456789ABCDEF"

/-- A name that holds a control sequence. -/
def redName : String := "\x1b[31mb.py"

/-- Names of files, and whether a file can be read. -/
def keyFiles : List (String × Bool) := [("a.py", true), (redName, true), ("c.py", false)]

/-- A folder with these files, each with a key. -/
def keyTree : FileTree := ⟨keyFiles.map fun f => (f.1, .file keyText.toUTF8 f.2), []⟩

theorem at?_keyTree : ∀ f ∈ keyFiles, keyTree.at? f.1 = .ok (.file keyText.toUTF8 f.2) := by
  have named : ∀ f ∈ keyFiles, FileTree.IsRelative f.1 ∧ FilePath.pieces f.1 = [f.1] ∧
      FileTree.IsEntryName f.1 := by decide +kernel
  have entry : ∀ f ∈ keyFiles, FileTree.entry? f.1 keyTree.top =
      some (.file keyText.toUTF8 f.2) := by
    simp only [keyFiles, List.forall_mem_cons]
    exact ⟨rfl, rfl, rfl, nofun⟩
  intro f member
  obtain ⟨relative, pieces, isName⟩ := named f member
  rw [FileTree.at?_of_isRelative relative, pieces]
  exact FileTree.follow_file isName (entry f member)

theorem gather_keyTree : ∀ f ∈ keyFiles, keyTree.gather (.ofText f.1) =
    if f.2 then ⟨[], .ok [⟨f.1, .bytes keyText.toUTF8⟩]⟩
    else ⟨["Skipping " ++ f.1 ++ ": " ++ FileFault.denied.message f.1], .ok []⟩ := by
  intro f member
  have text : (FilePath.ofText f.1).text = f.1 := by
    revert f
    decide +kernel
  have named : mayHoldSecret (.ofText f.1) = true := by
    revert f
    decide +kernel
  have found : keyTree.find (.ofText f.1) = .ok (.file keyText.toUTF8 f.2) := by
    rw [FileTree.find, text, at?_keyTree f member]
  have uploadable := FileTree.isUploadable_of_find found named (by decide +kernel)
  simp only [FileTree.gather, FileTree.candidates, FileTree.folder?, found, FileTree.take,
    uploadable, FileTree.read, text]
  cases f.2 <;> rfl

/-- Of the files that are named, those are collected that can be read. -/
theorem collect_keyTree {fs : List (String × Bool)} (among : ∀ f ∈ fs, f ∈ keyFiles) :
    (keyTree.collect (fs.map Prod.fst)).outcome =
      .ok ((fs.filter Prod.snd).map fun f => ⟨f.1, .bytes keyText.toUTF8⟩) := by
  induction fs with
  | nil => rfl
  | cons f fs ih =>
    obtain ⟨here, later⟩ := List.forall_mem_cons.mp among
    obtain ⟨name, readable⟩ := f
    rw [List.map_cons, FileTree.collect, gather_keyTree _ here, List.filter_cons]
    cases readable <;> simp [Collection.andThen, ih later, Except.map]

/-- A run with a folder with a key around it, and no file for the configuration. -/
def keyRun : Surroundings :=
  ⟨keyTree, [("XDG_CONFIG_HOME", "c")], fun _ _ => .unreachable "", .zero, 0, false, false⟩

/-- The configuration of such a run. -/
def keyConfig : Config := .standard ((FilePath.ofText "c").child "keysweep")

theorem load_keyRun : Config.load keyTree keyRun.environment none = .ok keyConfig := by
  have folder : Config.folderOf keyRun.environment = .ok keyConfig.folder := rfl
  have text : (keyConfig.folder.child "config.yaml").text = "c/keysweep/config.yaml" := by
    decide +kernel
  have pieces : FilePath.pieces "c/keysweep/config.yaml" = ["c", "keysweep", "config.yaml"] := by
    decide +kernel
  have missing : keyTree.find (keyConfig.folder.child "config.yaml") = .error .missing := by
    rw [FileTree.find, text, FileTree.at?_of_isRelative (by decide +kernel), pieces,
      FileTree.follow]
    rfl
  have absent : keyTree.isFile (keyConfig.folder.child "config.yaml") = .ok false := by
    rw [FileTree.isFile, missing]
    rfl
  have unset : keyConfig.setNamedFile keyTree none = .ok keyConfig := by
    simp only [Config.setNamedFile, absent]
  rw [Config.load, folder]
  show (keyConfig.setNamedFile keyTree none >>= _) = _
  rw [unset]
  rfl

theorem unexpired_keyConfig : (Moments.still .zero).Unexpired keyConfig.sessionTtl := by
  intro session finished now member
  have same : now = .zero := by simpa [Moments.still] using member
  have ttl : keyConfig.sessionTtl = .ofInt 3600 := rfl
  have fresh : Session.expired ⟨"", "", "", .failed "" .zero⟩ (.ofInt 3600) Double.zero =
      false := by decide +kernel
  simp only [Session.expired, Session.finishedAt] at fresh
  rw [Session.expired, finished, same, ttl]
  exact fresh

theorem text?_keyText : (Content.bytes keyText.toUTF8).text? = some keyText :=
  Content.text?_eq_some_iff.mpr (.inr rfl)

theorem holdsCritical_key (name : String) :
    (⟨name, .bytes keyText.toUTF8⟩ : Upload).HoldsCritical := by
  refine ⟨keyText, text?_keyText, keyText.toList, by decide +kernel, _, List.mem_cons_self,
    by decide, 4, "AKIA0123456789ABCDEF".toList, ?_⟩
  decide +kernel

/-- What is found in a file of a name with the key. -/
def keyFinding (name : String) : Finding := ⟨name, "AWS", "AKIA0123456789ABCDEF", 1, .critical⟩

theorem findings_key : ∀ name ∈ ["a.py", redName],
    (⟨name, .bytes keyText.toUTF8⟩ : Upload).findings = [keyFinding name] := by
  have found : ∀ name ∈ ["a.py", redName], scanContent name keyText = [keyFinding name] := by
    simp only [scanContent_eq]
    decide +kernel
  intro name member
  rw [Upload.findings_eq_scanContent text?_keyText, found name member]

/-- A command line may name its paths between its switches. -/
theorem asksScan_key : AsksScan ["a.py"] .json none ["-v", "scan", "a.py", "--format=json"] := by
  have verbose : Opens .program "-v".toList ⟨[⟨.verbose, ""⟩], none⟩ :=
    .letters (by decide) (.flag (by decide) rfl rfl .nil)
  have format : Opens (.verb .scan) "--format=json".toList ⟨[⟨.format, "json"⟩], none⟩ :=
    @Opens.value (.verb .scan) .format (by decide) rfl "json"
  have program : Spells .program ["-v", "scan", "a.py", "--format=json"]
      ⟨[⟨.verbose, ""⟩], ["scan", "a.py", "--format=json"]⟩ :=
    .opened verbose (.command (by decide) rfl _)
  have last : Spells (.verb .scan) ["--format=json"] ⟨[⟨.format, "json"⟩], []⟩ :=
    .opened format .nil
  have command : Spells (.verb .scan) ["a.py", "--format=json"] ⟨[⟨.format, "json"⟩], ["a.py"]⟩ :=
    @Spells.operand (.verb .scan) "a.py" (by decide) nofun _ _ last
  exact .intro program (by simp) rfl command (by simp) rfl

/-- A command line of paths and a format. -/
theorem asksScan_paths {paths : List String}
    (plain : ∀ path ∈ paths, namesSwitches path = false) (f : ExportFormat) :
    AsksScan paths f none ("scan" :: "--format" :: f.name :: paths) := by
  have format : Opens (.verb .scan) "--format".toList ⟨[], some (.format, "--format")⟩ :=
    @Opens.name (.verb .scan) .format (by decide) rfl
  have named : Spells (.verb .scan) paths ⟨[], paths⟩ := by
    induction paths with
    | nil => exact .nil
    | cons path paths ih =>
      obtain ⟨first, later⟩ := List.forall_mem_cons.mp plain
      exact @Spells.operand (.verb .scan) path first nofun _ _ (ih later)
  have program : Spells .program ("scan" :: "--format" :: f.name :: paths)
      ⟨[], "scan" :: "--format" :: f.name :: paths⟩ := .command (by decide) rfl _
  exact .intro program nofun rfl (.awaiting format f.name named) (by simp) rfl

end Command
end LeakScan
