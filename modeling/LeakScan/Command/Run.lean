import LeakScan.Command.Demand
import LeakScan.Config.Load
import LeakScan.Console.Markup
import LeakScan.Console.Sequence
import LeakScan.Console.Table
import LeakScan.Files.Collect
import LeakScan.Files.Write

/-!
# Running a command line

A run of the program writes to its two outputs, may write a file, makes requests and logs lines, and
ends with an exit code: 0, or 1 after critical findings, or 2 where there was nothing to report. A
fault that no message covers ends the run at once; what was written before stays written. Its
messages are not shown on a terminal, and its output may be.
-/

set_option autoImplicit false

namespace LeakScan.Command

/-- What a run finds around it: the files, the environment, the host of the repositories, the time,
the most listings that a scan may make, whether it can serve the web, and whether its output is
shown on a terminal. -/
structure Surroundings where
  tree : FileTree
  environment : Environment
  host : Host
  now : Double
  listings : Nat
  servesWeb : Bool
  onTerminal : Bool

/-- What the clock shows when a run starts a scan, when the scan ends, and when the run looks for
the scan: to see that it has ended, for its report, and for its results in a format. -/
structure Moments where
  started : Double
  ended : Double
  watched : Double
  reported : Double
  exported : Double

/-- The moments of a run while the clock stands still. -/
def Moments.still (now : Double) : Moments := ⟨now, now, now, now, now⟩

/-- A server that is to be started. -/
structure Listener where
  host : String
  port : Int
  isVerbose : Bool

/-- What a run has done: what it wrote to its outputs, the files as they are then, the requests it
made, the lines it logged, and the server to be started. -/
structure Effects where
  output : String
  messages : String
  tree : FileTree
  requests : List Request
  logs : List String
  listener : Option Listener

/-- A fault that no message covers. -/
inductive Crash where
  | config (fault : Config.Fault)
  | file (fault : FileFault) (path : String)
  | markup (fault : Markup.Fault)
  | start (fault : StartFault)
  | unspeakablePort
  | unknownScan (fault : NotFound)
  | unknownFormat (fault : Export.UnknownFormat)

/-- What is said of a fault that ends a run. -/
def Crash.message : Crash → String
  | config fault => fault.message.getD "Unusable configuration"
  | file fault path => fault.message path
  | markup fault => fault.message
  | start fault => fault.message
  | unspeakablePort => Numeral.tooWideMessage
  | unknownScan fault => fault.message
  | unknownFormat fault => fault.message

/-- Why a run ends before its last step. -/
inductive Stop where
  | exit (code : Nat)
  | crash (c : Crash)

/-- What of a text gets to an output: without a terminal, control sequences are left out. -/
def echoed (onTerminal : Bool) (s : String) : String :=
  if onTerminal then s else Console.withoutSequences s

/-- A step of a run. -/
abbrev Act := ExceptT Stop (StateM Effects)

/-- The cells of a line of the console. -/
def consoleWidth : Nat := 400

namespace Act

/-- Ends a run with an exit code. -/
def exit {α : Type} (code : Nat) : Act α := throw (.exit code)

/-- Ends a run with a fault. -/
def crash {α : Type} (c : Crash) : Act α := throw (.crash c)

/-- Writes to the output. -/
def write (m : Surroundings) (s : String) : Act Unit :=
  modify fun e => { e with output := e.output ++ echoed m.onTerminal s }

/-- Writes lines as messages. -/
def showLines (ls : List (List Char)) : Act Unit :=
  modify fun e => { e with
    messages := e.messages ++ String.ofList (ls.flatMap fun l => l ++ ['\n']) }

/-- The text that markup stands for. -/
def shown (markup : String) : Act (List Char) :=
  match Markup.shown markup with
  | .ok cs => return cs
  | .error e => crash (.markup e)

/-- Writes a message with markup. -/
def say (markup : String) : Act Unit := do
  showLines (Console.message consoleWidth (← shown markup))

/-- Logs lines. -/
def log (ls : List String) : Act Unit :=
  modify fun e => { e with logs := e.logs ++ ls }

/-- The answer of a service, which must know the scan it was asked about. -/
def answered {α : Type} : Except NotFound α → Act α
  | .ok a => return a
  | .error e => crash (.unknownScan e)

end Act

open Act

/-- A text in a style. -/
def styled (style s : String) : String := "[" ++ style ++ "]" ++ s ++ "[/" ++ style ++ "]"

/-- The style of a severity. -/
def styleOf : Severity → String
  | .critical => "red"
  | .high => "magenta"
  | .medium => "yellow"
  | .low => "blue"

/-- A count in the style of a severity, with its word. -/
def styledCount (s : Severity) (n : Nat) : String :=
  styled (styleOf s) (Numeral.ofInt n ++ " " ++ s.name)

/-- What is said of the numbers of a report. -/
def summary (s : Stats) : String :=
  "\nScanned " ++ Numeral.ofInt s.totalFiles ++ " file(s), found " ++ Numeral.ofInt s.totalLeaks ++
    " leak(s): " ++ ", ".intercalate [styledCount .critical s.critical, styledCount .high s.high,
      styledCount .medium s.medium, styledCount .low s.low]

/-- The order of results in a table: by severity, then by file, then by line. -/
def precedes (a b : Result) : Bool :=
  if a.severity.rank ≠ b.severity.rank then a.severity.rank < b.severity.rank
  else if a.file ≠ b.file then decide (a.file < b.file)
  else a.line.getD 0 ≤ b.line.getD 0

/-- The most characters of a match that a table shows. -/
def maxMatch : Nat := 50

/-- A column of a table of results, with the texts that markup stands for. -/
def column (head : String) (side : Console.Side) (set most : Option Nat) (cells : List String) :
    Act Console.Column := do
  return ⟨head, side, set, most, ← cells.mapM shown⟩

/-- The columns of a table of results. -/
def columns (rs : List Result) : Act (List Console.Column) := do
  let severity ← column "Severity" .left (some 10) none
    (rs.map fun r => styled (styleOf r.severity) r.severity.name)
  let file ← column "File" .left none none (rs.map (·.file))
  let line ← column "Line" .right none none
    (rs.map fun r => (r.line.map Numeral.ofInt).getD "")
  let kind ← column "Type" .left none none (rs.map (·.kind))
  let text ← column "Match" .left none (some maxMatch)
    (rs.map fun r => String.ofList (r.text.toList.take maxMatch))
  return [severity, file, line, kind, text]

/-- Writes a table of results. -/
def showTable (rs : List Result) : Act Unit := do
  if rs.isEmpty then say (styled "green" "No leaks found.")
  else
    let columns ← columns (rs.mergeSort precedes)
    showLines (Console.Table.lines consoleWidth ⟨"Findings", columns⟩)

/-- Writes a text to a file. -/
def writeFile (path text : String) : Act Unit := do
  let p := FilePath.ofText path
  match (← get).tree.write p text.toUTF8 with
  | .ok tree => modify fun e => { e with tree := tree }
  | .error e => crash (.file e p.text)

/-- Writes exported results to where they should go. -/
def deliver (m : Surroundings) (text : String) (count : Nat) : (output : String) → Act Unit
  | "" => write m (text ++ "\n")
  | path => do
    writeFile path (text ++ "\n")
    say ("Wrote " ++ Numeral.ofInt count ++ " result(s) to " ++ styled "cyan" path)

/-- Loads the configuration of a run. -/
def loadConfig (m : Surroundings) (path : Option String) (verbose : Bool) : Act Config :=
  match Config.load m.tree m.environment path with
  | .ok c => return { c with verbose := verbose }
  | .error (.reported problem source) => do
    say (styled "red" "Configuration error:" ++ " " ++ Config.located problem.message source)
    exit 2
  | .error e => crash (.config e)

/-- The most characters of a status that a progress bar shows. -/
def maxStatus : Nat := 60

/-- Takes a progress bar away; an empty line stays. The status in it is read, but not shown. -/
def endProgress (status : String) : Act Unit := do
  match Markup.read ("[bold]" ++ String.ofList (status.toList.take maxStatus)) with
  | .ok _ => say ""
  | .error e => crash (.markup e)

/-- Starts a scan. -/
def start (k : Moments) (s : Service Double) (r : ScanRequest) : Act (Service Double × String) :=
  match s.start k.started r with
  | .ok started => return started
  | .error (.rejected e) => do
    say (styled "red" e.message)
    exit 2
  | .error e => crash (.start e)

/-- What is said when the scan of a source starts. -/
def opening (source : String) : String := styled "bold" program ++ " scanning " ++ source ++ "\n"

/-- Runs a scan that was started, waits for its end and takes its report. Only before a table is
there a progress bar. -/
def followed (m : Surroundings) (k : Moments) (s : Service Double) (id : String)
    (format : ReportFormat) : Act (Service Double × Report) := do
  let (s, trace) := s.run m.host k.ended m.listings 0
  modify fun e => { e with requests := e.requests ++ trace.requests }
  log (trace.logs.map (·.text))
  let (s, progress) := s.progress k.watched id
  let progress ← answered progress
  if format = .table then endProgress progress.status
  let (s, report) := s.report k.reported id
  return (s, ← answered report)

/-- Shows or exports the results of a scan. -/
def showResults (m : Surroundings) (k : Moments) (s : Service Double) (id : String)
    (report : Report) (d : Destination) : Act Unit :=
  match d.format with
  | .table => do
    showTable report.results
    say (summary report.stats)
  | .exported f => do
    match ← answered (s.exported k.exported id f.name).2 with
    | .ok text => deliver m text report.results.length (d.output.getD "")
    | .error e => crash (.unknownFormat e)

/-- Ends a run that has reported: critical findings have an exit code of their own. -/
def conclude (s : Stats) : Act Unit := do
  if 0 < s.critical then
    say ("\n" ++ styled "red" (Numeral.ofInt s.critical ++ " critical finding(s)"))
    exit 1

/-- Runs a scan that was started and reports on it. -/
def finish (m : Surroundings) (k : Moments) (s : Service Double) (id : String) (d : Destination) :
    Act Unit := do
  let (s, report) ← followed m k s id d.format
  if !report.success then
    say (styled "red" report.message)
    exit 2
  showResults m k s id report d
  conclude report.stats

/-- Scans files. -/
def scanFiles (m : Surroundings) (k : Moments) (c : Config) (paths : List String)
    (d : Destination) : Act Unit := do
  let collection := m.tree.collect paths
  log (collection.warnings.map fun w => (LogLine.warning w).text)
  let uploads ← match collection.outcome with
    | .ok uploads => pure uploads
    | .error (e, p) => crash (.file e p.text)
  say (opening (styled "cyan" (Numeral.ofInt uploads.length) ++ " file(s)"))
  let (s, id) ← start k c.service (.upload uploads)
  finish m k s id d

/-- Scans a repository. -/
def scanRepository (m : Surroundings) (k : Moments) (c : Config) (reference : String)
    (maxFiles : Option Int) (d : Destination) : Act Unit := do
  let (s, id) ← start k c.service (.repository reference maxFiles)
  let (s, session) := s.session k.started id
  say (opening (styled "cyan" (← answered session).source))
  finish m k s id d

/-- Starts the server. -/
def startServer (c : Config) (port : Option Int) : Act Unit := do
  let port := port.getD c.webPort
  match Numeral.ofInt? port with
  | none => crash .unspeakablePort
  | some text =>
    say (styled "bold" program ++ " API starting on " ++
      styled "cyan" ("http://" ++ c.webHost ++ ":" ++ text ++ "/api"))
  say ("  " ++ styled "dim" "Bound to 127.0.0.1 only" ++ "\n")
  modify fun e => { e with listener := some ⟨c.webHost, port, c.verbose⟩ }

/-- Does what a command line asks for. -/
def perform (m : Surroundings) (k : Moments) : Demand → Act Unit
  | .version => write m (program ++ ", version " ++ version ++ "\n")
  | .help p => write m p.help
  | .command config verbose (.server port) _ => do
    if !m.servesWeb then
      say (styled "red" "Web dependencies not installed." ++
        "\nInstall with: pip install keysweep[web]")
      exit 1
    startServer (← loadConfig m config verbose) port
  | .command config verbose (.scan paths) d => do
    scanFiles m k (← loadConfig m config verbose) paths d
  | .command config verbose (.github reference maxFiles) d => do
    scanRepository m k (← loadConfig m config verbose) reference maxFiles d

/-- What came of a run: its exit code, the fault that ended it if one did, and its effects. -/
structure Outcome where
  code : Nat
  crash : Option Crash
  effects : Effects

/-- The outcome of a step on which nothing follows. -/
def Outcome.ofAct (a : Act Unit) (e : Effects) : Outcome :=
  match a.run e with
  | (.ok (), e) => ⟨0, none, e⟩
  | (.error (.exit code), e) => ⟨code, none, e⟩
  | (.error (.crash c), e) => ⟨1, some c, e⟩

/-- Runs a command line, at some moments. -/
def runAt (m : Surroundings) (k : Moments) (arguments : List String) : Outcome :=
  let e : Effects := ⟨"", "", m.tree, [], [], none⟩
  match Demand.ofArguments m.tree arguments with
  | .ok demand => .ofAct (perform m k demand) e
  | .error fault =>
    match fault.crash? with
    | some (e', path) => ⟨1, some (.file e' path), e⟩
    | none => ⟨2, none, { e with messages := echoed false fault.text }⟩

/-- Runs a command line while the clock stands still. -/
def run (m : Surroundings) (arguments : List String) : Outcome := runAt m (.still m.now) arguments

end LeakScan.Command
