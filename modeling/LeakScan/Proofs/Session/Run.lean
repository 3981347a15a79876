import LeakScan.Session.Basic

/-!
# Runs of a session

Events happen to a session in any order: announcements, an end with results, an end without, and
movements of the clock. What a session shows is a record of fields, and each operation changes the
fields one by one, unless the session has ended (`view_advance`, `view_complete`, `view_fail`). A
run is read through these three equations.
-/

namespace LeakScan.Session
set_option autoImplicit false

variable {T : Type}

/-- Something that happens to a session, or to the clock. -/
inductive Event (T : Type) where
  | advance (progress : Int) (status : String) (file : Json)
  | complete (results : List Result) (totalFiles : Int)
  | fail (reason : String)
  | clock (now : T)

/-- A session and the time that the clock shows. -/
structure Timed (T : Type) where
  session : Session T
  now : T

/-- What an event does. -/
def Timed.step (s : Timed T) : Event T → Timed T
  | .advance progress status file => { s with session := s.session.advance progress status file }
  | .complete results totalFiles =>
    { s with session := s.session.complete s.now results totalFiles }
  | .fail reason => { s with session := s.session.fail s.now reason }
  | .clock now => { s with now := now }

/-- What some events do, one after another. -/
def Timed.run (s : Timed T) (events : List (Event T)) : Timed T := events.foldl Timed.step s

/-- Everything that a session shows. `done` answers whether it has ended to one who does not
wait. -/
structure View (T : Type) where
  state : ScanState
  progress : Int
  status : String
  file : Json
  results : List Result
  stats : Stats
  finishedAt : Option T
  done : Bool

def view (s : Session T) : View T where
  state := s.state
  progress := s.progress
  status := s.status
  file := s.currentFile
  results := s.results
  stats := s.stats
  finishedAt := s.finishedAt
  done := s.isTerminal

/-- The fields that an end sets. -/
def View.finish (v : View T) (now : T) (state : ScanState) (status : String) : View T :=
  { v with
    state := state
    progress := 100
    status := status
    file := .null
    finishedAt := some now
    done := true }

theorem view_create (id kind source : String) :
    (create id kind source : Session T).view =
      ⟨.pending, 0, "Initializing scan...", .null, [], .none, none, false⟩ := rfl

theorem view_advance (s : Session T) (progress : Int) (status : String) (file : Json) :
    (s.advance progress status file).view =
      if s.view.state.isTerminal then s.view
      else { s.view with
        state := .running
        progress := max s.view.progress (min progress 99)
        status := status
        file := file } := by
  obtain ⟨id, kind, source, phase⟩ := s
  cases phase <;> rfl

theorem view_complete (s : Session T) (now : T) (results : List Result) (totalFiles : Int) :
    (s.complete now results totalFiles).view =
      if s.view.state.isTerminal then s.view
      else { s.view with results := results, stats := .ofResults results totalFiles }.finish now
        .complete "Scan complete" := by
  obtain ⟨id, kind, source, phase⟩ := s
  cases phase <;> rfl

theorem view_fail (s : Session T) (now : T) (reason : String) :
    (s.fail now reason).view =
      if s.view.state.isTerminal then s.view
      else { s.view with results := [], stats := .none }.finish now .failed
        ("Scan failed: " ++ reason) := by
  obtain ⟨id, kind, source, phase⟩ := s
  cases phase <;> rfl

end LeakScan.Session
