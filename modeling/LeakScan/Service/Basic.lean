import LeakScan.Export.Basic
import LeakScan.Service.Course
import LeakScan.Session.Registry

/-!
# The scan service

A service accepts requests for scans, queues a job for each, runs the jobs one by one and answers
questions about the sessions that its registry holds. A rejected request leaves no trace. A
question may drop expired sessions from the registry and does nothing else.
-/

set_option autoImplicit false

namespace LeakScan

/-- Why no scan starts: the request is rejected, the clock shows a time that no session can be named
by, or the rejection would speak of an integer with too many digits. -/
inductive StartFault where
  | rejected (rejection : Rejection)
  | timeless (fault : Double.WholeFault)
  | unspeakable
deriving Repr

def StartFault.message : StartFault → String
  | rejected rejection => rejection.message
  | timeless fault => fault.message
  | unspeakable => Numeral.tooWideMessage

/-- The fault that the rejection of a request is. -/
def StartFault.ofRejection (e : Rejection) : StartFault :=
  if e.isSpeakable then .rejected e else .unspeakable

/-- A scan that waits to be run. -/
structure Job where
  session : String
  task : Task

/-- A line that a service logs. -/
inductive LogLine where
  | warning (message : String)
  | error (message : String)
deriving DecidableEq, Repr

def LogLine.text : LogLine → String
  | warning m => "WARNING " ++ m
  | error m => "ERROR " ++ m

/-- What a run of a job shows: the progress of the session after each announcement, the requests
made and the lines logged. -/
structure Trace where
  shown : List Progress
  requests : List Request
  logs : List LogLine

def Trace.empty : Trace := ⟨[], [], []⟩

/-- A service. `limit` is the most files that a scan of a repository takes. The registry it was
offered is set aside if it held no session. -/
structure Service (T : Type) where
  limit : Int
  client : Client
  registry : Registry T
  aside : Option (Registry T)
  sessions : Sessions T
  queue : List Job
  requests : List Request
  closings : Nat

namespace Session

variable {T : Type}

/-- A session after an announcement. -/
def announce (s : Session T) (a : Announcement) : Session T :=
  s.advance a.progress a.status a.file

/-- What a session shows after each of some announcements. -/
def shownAfter (s : Session T) : List Announcement → List Progress
  | [] => []
  | a :: as => (s.announce a).showProgress :: (s.announce a).shownAfter as

/-- A session after the end of its scan. -/
def finish (s : Session T) (now : T) : Ending → Session T
  | .found fs files => s.complete now (Result.ofFindings s.id fs) files
  | .failed (.repository fault) => s.fail now fault.message
  | .failed (.mishap m) => s.fail now m.reason
  | .unfinished => s

/-- A session after its scan. -/
def follow (s : Session T) (now : T) (c : Course) : Session T :=
  (c.announced.foldl announce s).finish now c.ending

end Session

/-- What is logged about the end of a scan. -/
def Ending.logs (id : String) : Ending → List LogLine
  | failed (.repository fault) => [.error ("Scan " ++ id ++ " failed: " ++ fault.message)]
  | failed (.mishap _) => [.error ("Scan " ++ id ++ " failed")]
  | _ => []

/-- What is logged in the course of a scan. -/
def Course.logs (id : String) (c : Course) : List LogLine :=
  c.warnings.map .warning ++ c.ending.logs id

namespace Service

variable {T : Type}

/-- A service that has not been used. It takes over a registry it is offered, unless that holds
no session; then it keeps a registry of its own, with the time to live `ttl`. -/
def create (limit : Int) (client : Client) (ttl : T) (offered : Option (Registry T))
    (sessions : Sessions T) : Service T :=
  let (registry, aside) :=
    match offered with
    | none => (Registry.empty ttl, none)
    | some r => if r.size = 0 then (Registry.empty ttl, some r) else (r, none)
  ⟨limit, client, registry, aside, sessions, [], [], 0⟩

/-- The registry that the service was offered, as it is now; its own if it was offered none. -/
def given (s : Service T) : Registry T := s.aside.getD s.registry

variable [Time T]

/-- The identifier of the next session. -/
def nextId (s : Service T) (now : T) : Except Double.WholeFault String :=
  (Time.millis now).map (scanId · (s.sessions.length + 1))

/-- Registers a pending session and queues a job for a task. -/
def enqueue (s : Service T) (now : T) (id : String) (task : Task) : Service T :=
  let sessions := s.sessions ++ [.create id task.kind task.source]
  { s with
    sessions := sessions
    registry := s.registry.add sessions now id
    queue := s.queue ++ [⟨id, task⟩] }

/-- Accepts a request, with the identifier of its session, or rejects it. -/
def start (s : Service T) (now : T) (request : ScanRequest) :
    Except StartFault (Service T × String) :=
  match Task.ofRequest s.limit request with
  | .error e => .error (.ofRejection e)
  | .ok task =>
    match s.nextId now with
    | .error e => .error (.timeless e)
    | .ok id => .ok (s.enqueue now id task, id)

/-- Runs a job, within a number of listings. -/
def runJob (s : Service T) (host : Host) (now : T) (listings : Nat) (job : Job) :
    Service T × Trace :=
  let course := Course.ofTask host s.client s.requests listings job.task
  match s.sessions.get? job.session with
  | none => (s, .empty)
  | some session =>
    ({ s with
        sessions := s.sessions.modify job.session fun session => session.follow now course
        requests := s.requests ++ course.requests },
      ⟨session.shownAfter course.announced, course.requests, course.logs job.session⟩)

/-- Runs the job at a place of the queue; nothing happens if there is none. -/
def run (s : Service T) (host : Host) (now : T) (listings : Nat) (index : Nat) :
    Service T × Trace :=
  match s.queue[index]? with
  | none => (s, .empty)
  | some job => { s with queue := s.queue.eraseIdx index }.runJob host now listings job

/-- Looks a session up. -/
def session (s : Service T) (now : T) (id : String) :
    Service T × Except NotFound (Session T) :=
  let (registry, found) := s.registry.get s.sessions now id
  ({ s with registry := registry }, found)

/-- Answers a question about a session. -/
def ask {α : Type} (s : Service T) (now : T) (id : String) (question : Session T → α) :
    Service T × Except NotFound α :=
  let (s, found) := s.session now id
  (s, found.map question)

/-- The progress of a scan. -/
def progress (s : Service T) (now : T) (id : String) : Service T × Except NotFound Progress :=
  s.ask now id Session.showProgress

/-- The report of a scan. -/
def report (s : Service T) (now : T) (id : String) : Service T × Except NotFound Report :=
  s.ask now id Session.report

/-- Whether a scan has ended. -/
def isDone (s : Service T) (now : T) (id : String) : Service T × Except NotFound Bool :=
  s.ask now id Session.isTerminal

/-- The results of a scan in the format of a name. -/
def exported (s : Service T) (now : T) (id format : String) :
    Service T × Except NotFound (Except Export.UnknownFormat String) :=
  s.ask now id fun session => Export.named session.results format

/-- Closes the connection to the host. -/
def close (s : Service T) : Service T := { s with closings := s.closings + 1 }

end Service
end LeakScan
