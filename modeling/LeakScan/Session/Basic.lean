import LeakScan.Finding.Result

/-!
# Scan sessions

A session records one scan. It starts pending, runs while the scan announces what it is doing,
and ends complete or failed; once it has ended, nothing changes it. While it runs its progress
never goes back and stays below one hundred. Times are of any type `T`.
-/

set_option autoImplicit false

namespace LeakScan

/-- Where a session stands in its life. -/
inductive ScanState where
  | pending
  | running
  | complete
  | failed
deriving DecidableEq, Repr

namespace ScanState

/-- Every state, in the order of a session's life. -/
def all : List ScanState := [pending, running, complete, failed]

def name : ScanState → String
  | pending => "pending"
  | running => "running"
  | complete => "complete"
  | failed => "failed"

/-- Whether a session has ended. -/
def isTerminal : ScanState → Bool
  | pending | running => false
  | complete | failed => true

end ScanState

/-- The phase of a session, with what is known in it. The file at hand is named as its listing
names it, and is null when there is none. -/
inductive Phase (T : Type) where
  | pending
  | running (progress : Int) (status : String) (file : Json)
  | complete (results : List Result) (totalFiles : Int) (finishedAt : T)
  | failed (reason : String) (finishedAt : T)
deriving Repr

/-- The record of one scan. -/
structure Session (T : Type) where
  id : String
  kind : String
  source : String
  phase : Phase T
deriving Repr

/-- What a session shows of its progress. -/
structure Progress where
  progress : Int
  status : String
  file : Json
deriving Repr

/-- The results and statistics of a session. -/
structure Report where
  success : Bool
  results : List Result
  stats : Stats
  message : String
deriving Repr

namespace Session

variable {T : Type}

/-- A new session. -/
def create (id kind source : String) : Session T := ⟨id, kind, source, .pending⟩

def state (s : Session T) : ScanState :=
  match s.phase with
  | .pending => .pending
  | .running .. => .running
  | .complete .. => .complete
  | .failed .. => .failed

def isTerminal (s : Session T) : Bool := s.state.isTerminal

/-- The progress in percent. -/
def progress (s : Session T) : Int :=
  match s.phase with
  | .pending => 0
  | .running p _ _ => p
  | .complete .. | .failed .. => 100

/-- What the session says it is doing, or how it ended. -/
def status (s : Session T) : String :=
  match s.phase with
  | .pending => "Initializing scan..."
  | .running _ status _ => status
  | .complete .. => "Scan complete"
  | .failed reason _ => "Scan failed: " ++ reason

/-- The file at hand, or null. -/
def currentFile (s : Session T) : Json :=
  match s.phase with
  | .running _ _ file => file
  | _ => .null

def results (s : Session T) : List Result :=
  match s.phase with
  | .complete rs _ _ => rs
  | _ => []

def stats (s : Session T) : Stats :=
  match s.phase with
  | .complete rs total _ => .ofResults rs total
  | _ => .none

def finishedAt (s : Session T) : Option T :=
  match s.phase with
  | .complete _ _ t => some t
  | .failed _ t => some t
  | _ => none

/-- Moves the progress forward, never back and never to one hundred. -/
def advance (s : Session T) (progress : Int) (status : String) (file : Json) : Session T :=
  match s.phase with
  | .complete .. | .failed .. => s
  | _ => { s with phase := .running (max s.progress (min progress 99)) status file }

/-- Ends a session with its results. -/
def complete (s : Session T) (now : T) (results : List Result) (totalFiles : Int) : Session T :=
  match s.phase with
  | .complete .. | .failed .. => s
  | _ => { s with phase := .complete results totalFiles now }

/-- Ends a session without results. -/
def fail (s : Session T) (now : T) (reason : String) : Session T :=
  match s.phase with
  | .complete .. | .failed .. => s
  | _ => { s with phase := .failed reason now }

/-- The progress at this moment. -/
def showProgress (s : Session T) : Progress := ⟨s.progress, s.status, s.currentFile⟩

/-- The report at this moment. -/
def report (s : Session T) : Report where
  success := s.state != .failed
  results := s.results
  stats := s.stats
  message := if s.state = .complete then "Scan completed successfully" else s.status

end Session

def Progress.toJson (p : Progress) : Json :=
  .obj [("progress", .int p.progress), ("status", .str p.status), ("current_file", p.file)]

def Report.toJson (r : Report) : Json :=
  .obj [("success", .bool r.success), ("results", .arr (r.results.map Result.toJson)),
    ("stats", r.stats.toJson), ("message", .str r.message)]

/-- The identifier of the scan number `n`, started at a time in milliseconds. -/
def scanId (millis : Int) (n : Nat) : String :=
  "scan-" ++ Numeral.ofInt millis ++ "-" ++ String.ofList (Text.hexDigits 9 n)

end LeakScan
