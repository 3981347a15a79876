import LeakScan.Service.Basic

/-!
# From an accepted request to the end of its session

An accepted request leaves a job in the queue and a pending session (`Awaits`); other jobs and
sessions may stand around them. Running the job lets the session follow the course of the task
(`run_awaiting`), and a session that has not ended follows a course to the course's end
(`follow_found`, `follow_failed`).
-/

namespace LeakScan
set_option autoImplicit false

variable {T : Type}

/-- The reason that a scan gives for a fault that ended it. -/
def HostFault.reason : HostFault → String
  | repository fault => fault.message
  | mishap m => m.reason

namespace Session

variable {s : Session T}

/-- A session that has not ended is pending or running. -/
theorem phase_of_going (going : s.isTerminal = false) :
    s.phase = .pending ∨ ∃ progress status file, s.phase = .running progress status file := by
  obtain ⟨id, kind, source, phase⟩ := s
  cases phase with
  | pending => exact Or.inl rfl
  | running progress status file => exact Or.inr ⟨progress, status, file, rfl⟩
  | complete results totalFiles finishedAt => cases going
  | failed reason finishedAt => cases going

theorem announce_eq (going : s.isTerminal = false) (a : Announcement) :
    ∃ progress, s.announce a = { s with phase := .running progress a.status a.file } := by
  rcases phase_of_going going with pending | ⟨_, _, _, running⟩
  · exact ⟨_, by rw [announce, advance, pending]⟩
  · exact ⟨_, by rw [announce, advance, running]⟩

/-- Announcements do not end a session, and they change nothing but its phase. -/
theorem foldl_announce (going : s.isTerminal = false) (announced : List Announcement) :
    ∃ phase, announced.foldl announce s = { s with phase := phase } ∧
      ({ s with phase := phase } : Session T).isTerminal = false := by
  induction announced generalizing s with
  | nil => exact ⟨s.phase, rfl, going⟩
  | cons a announced ih =>
    obtain ⟨progress, step⟩ := announce_eq going a
    obtain ⟨phase, run, goesOn⟩ := @ih { s with phase := .running progress a.status a.file } rfl
    exact ⟨phase, by rw [List.foldl_cons, step, run], goesOn⟩

theorem complete_eq (going : s.isTerminal = false) (now : T) (results : List Result)
    (totalFiles : Int) :
    s.complete now results totalFiles = { s with phase := .complete results totalFiles now } := by
  rcases phase_of_going going with pending | ⟨_, _, _, running⟩
  · rw [complete, pending]
  · rw [complete, running]

/-- A session that follows a course with findings is complete with their results. -/
theorem follow_found (going : s.isTerminal = false) (now : T) {c : Course} {fs : List Finding}
    {files : Nat} (ending : c.ending = .found fs files) :
    s.follow now c = { s with phase := .complete (Result.ofFindings s.id fs) files now } := by
  obtain ⟨phase, run, goesOn⟩ := foldl_announce going c.announced
  rw [follow, run, ending]
  exact complete_eq goesOn now _ _

theorem fail_eq (going : s.isTerminal = false) (now : T) (reason : String) :
    s.fail now reason = { s with phase := .failed reason now } := by
  rcases phase_of_going going with pending | ⟨_, _, _, running⟩
  · rw [fail, pending]
  · rw [fail, running]

/-- A session that follows a course that a fault ends has failed for that. -/
theorem follow_failed (going : s.isTerminal = false) (now : T) {c : Course} {fault : HostFault}
    (ending : c.ending = .failed fault) :
    s.follow now c = { s with phase := .failed fault.reason now } := by
  obtain ⟨phase, run, goesOn⟩ := foldl_announce going c.announced
  rw [follow, run, ending]
  cases fault with
  | repository fault => exact fail_eq goesOn now _
  | mishap m => exact fail_eq goesOn now _

theorem id_finish (s : Session T) (now : T) (e : Ending) : (s.finish now e).id = s.id := by
  obtain ⟨id, kind, source, phase⟩ := s
  rcases e with ⟨fs, files⟩ | ⟨fault | m⟩ | _ <;> cases phase <;> rfl

theorem finishedAt_finish (s : Session T) (now : T) (e : Ending) :
    (s.finish now e).finishedAt = s.finishedAt ∨
      s.finishedAt = none ∧ (s.finish now e).finishedAt = some now := by
  obtain ⟨id, kind, source, phase⟩ := s
  rcases e with ⟨fs, files⟩ | ⟨fault | m⟩ | _ <;> cases phase <;>
    simp [finish, complete, fail, finishedAt]

/-- Announcements change neither the identifier of a session nor the time at which it ended. -/
theorem foldl_announce_keeps (s : Session T) (announced : List Announcement) :
    (announced.foldl announce s).id = s.id ∧
      (announced.foldl announce s).finishedAt = s.finishedAt := by
  induction announced generalizing s with
  | nil => exact ⟨rfl, rfl⟩
  | cons a announced ih =>
    have one : (s.announce a).id = s.id ∧ (s.announce a).finishedAt = s.finishedAt := by
      obtain ⟨id, kind, source, phase⟩ := s
      cases phase <;> exact ⟨rfl, rfl⟩
    rw [List.foldl_cons, (ih _).1, (ih _).2]
    exact one

theorem id_follow (s : Session T) (now : T) (c : Course) : (s.follow now c).id = s.id := by
  rw [follow, id_finish, (foldl_announce_keeps s c.announced).1]

/-- A session that follows a course ends at that time, if it ends then. -/
theorem finishedAt_follow (s : Session T) (now : T) (c : Course) :
    (s.follow now c).finishedAt = s.finishedAt ∨
      s.finishedAt = none ∧ (s.follow now c).finishedAt = some now := by
  rw [follow, ← (foldl_announce_keeps s c.announced).2]
  exact finishedAt_finish _ now c.ending

end Session

namespace Service

/-- The job at a place of the queue is a task of a pending session, the one at `place` of those
ever made. -/
structure Awaits (s : Service T) (index place : Nat) (session : Session T) (task : Task) :
    Prop where
  queued : s.queue[index]? = some ⟨session.id, task⟩
  registered : s.sessions[place]? = some session
  pending : session.phase = .pending

variable {s : Service T}

theorem start_eq [Time T] {now : T} {request : ScanRequest} {task : Task} {id : String}
    (asked : Task.ofRequest s.limit request = .ok task) (named : s.nextId now = .ok id) :
    s.start now request = .ok (s.enqueue now id task, id) := by
  simp only [start, asked, named]

/-- What a service comes to when it accepts a request. -/
theorem start_eq_ok_iff [Time T] {now : T} {request : ScanRequest} {accepted : Service T}
    {id : String} : s.start now request = .ok (accepted, id) ↔
      ∃ task, Task.ofRequest s.limit request = .ok task ∧ s.nextId now = .ok id ∧
        accepted = s.enqueue now id task := by
  constructor
  · intro started
    rw [start] at started
    split at started
    · cases started
    · rename_i task asked
      split at started
      · cases started
      · rename_i id' named
        cases started
        exact ⟨task, asked, named, rfl⟩
  · rintro ⟨task, asked, named, rfl⟩
    exact start_eq asked named

/-- What was queued last is the last job, and its session is the last of all. -/
theorem enqueue_awaits [Time T] (s : Service T) (now : T) (id : String) (task : Task) :
    (s.enqueue now id task).Awaits s.queue.length s.sessions.length
      (.create id task.kind task.source) task where
  queued := by simp [enqueue, Session.create]
  registered := by simp [enqueue]
  pending := rfl

/-- A request that asks for a task is accepted if the clock shows a time to name a session by. Its
job is then the last of the queue, and its session the last of all. -/
theorem start_awaits [Time T] {now : T} {request : ScanRequest} {task : Task} {id : String}
    (asked : Task.ofRequest s.limit request = .ok task) (named : s.nextId now = .ok id) :
    ∃ accepted, s.start now request = .ok (accepted, id) ∧
      accepted.Awaits s.queue.length s.sessions.length (.create id task.kind task.source) task :=
  ⟨_, start_eq asked named, enqueue_awaits s now id task⟩

/-- Running a job lets its session follow the course of the task. -/
theorem run_awaiting {index place : Nat} {session : Session T} {task : Task}
    (awaits : s.Awaits index place session task) (host : Host) (now : T) (listings : Nat) :
    let course := Course.ofTask host s.client s.requests listings task
    (s.run host now listings index).1.sessions[place]? = some (session.follow now course) ∧
      (s.run host now listings index).2.requests = course.requests ∧
      (s.run host now listings index).2.logs = course.logs session.id := by
  intro course
  have known : ∃ other, s.sessions.get? session.id = some other := by
    apply Option.isSome_iff_exists.mp
    rw [Sessions.get?, List.find?_isSome]
    exact ⟨session, List.mem_of_getElem? awaits.registered, decide_eq_true rfl⟩
  obtain ⟨other, known⟩ := known
  have run : s.run host now listings index =
      { s with queue := s.queue.eraseIdx index }.runJob host now listings ⟨session.id, task⟩ := by
    simp only [Service.run, awaits.queued]
  rw [run]
  simp only [runJob, known]
  refine ⟨?_, rfl, rfl⟩
  rw [Sessions.modify, List.getElem?_map, awaits.registered]
  simp [course]

end Service
end LeakScan
