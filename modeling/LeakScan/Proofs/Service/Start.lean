import LeakScan.Proofs.Number.Numeral
import LeakScan.Proofs.Service.Job
import LeakScan.Proofs.Session.Registry

/-!
# A request is accepted as a whole or not at all

To start a scan takes several steps, each of which changes the service: a session is made and uses
up a number, it is registered, which drops expired sessions, and a job is queued (`submit`). The
request and the clock are looked at before any of them, so a fault finds the service as it was
(`submit_eq`). An unacceptable request is rejected, unless the rejection would have to write an
integer with too many digits; any other request has one new session and one new job
(`start_whole`).
-/

namespace LeakScan
set_option autoImplicit false

namespace ScanRequest

/-- A request that brings no file, names no repository, asks for a number of files that is out of
range, or is no request for a scan. -/
def Unacceptable (limit : Int) : ScanRequest → Prop
  | upload files => files = []
  | repository reference maxFiles =>
    RepoRef.ofText? reference.repaired = none ∨ ∃ n ∈ maxFiles, ¬(1 ≤ n ∧ n ≤ limit)
  | other _ => True

/-- A request whose rejection would write an integer with too many digits: the limit, where the
number of files is out of range, or one that stands in what is no request for a scan. -/
def Unspeakable (limit : Int) : ScanRequest → Prop
  | upload _ => False
  | repository reference _ =>
    RepoRef.ofText? reference.repaired ≠ none ∧ Numeral.ofInt? limit = none
  | other value => value.isShowable = false

end ScanRequest

namespace Task

variable {limit : Int} {request : ScanRequest}

theorem capOf_eq_error_iff {maxFiles : Option Int} {e : Rejection} :
    capOf limit maxFiles = .error e ↔
      (∃ n ∈ maxFiles, ¬(1 ≤ n ∧ n ≤ limit)) ∧ e = .capOutOfRange limit := by
  cases maxFiles with
  | none => simp [capOf]
  | some n =>
    by_cases inside : 1 ≤ n ∧ n ≤ limit
    · simp [capOf, inside]
    · simp only [capOf, if_neg inside, Except.error.injEq, Option.mem_some_iff, exists_eq_left']
      exact ⟨fun same => ⟨inside, same.symm⟩, fun both => both.2.symm⟩

/-- A request asks for a task or is unacceptable. -/
theorem ofRequest_eq_ok_or (limit : Int) (request : ScanRequest) :
    (∃ task, ofRequest limit request = .ok task ∧ ¬request.Unacceptable limit) ∨
      ∃ e, ofRequest limit request = .error e ∧ request.Unacceptable limit ∧
        (e.isSpeakable = true ↔ ¬request.Unspeakable limit) := by
  cases request with
  | upload files =>
    cases files with
    | nil => exact Or.inr ⟨.noFiles, rfl, rfl, fun _ => id, fun _ => rfl⟩
    | cons file files => exact Or.inl ⟨.upload (file :: files), rfl, nofun⟩
  | other v =>
    exact Or.inr ⟨.unsupported v, rfl, trivial,
      by simp [Rejection.isSpeakable, ScanRequest.Unspeakable]⟩
  | repository reference maxFiles =>
    cases named : RepoRef.ofText? reference.repaired with
    | none =>
      refine Or.inr ⟨.notARepository reference, by simp only [ofRequest, named], Or.inl named, ?_⟩
      simp [Rejection.isSpeakable, ScanRequest.Unspeakable, named]
    | some repo =>
      cases capped : capOf limit maxFiles with
      | ok cap =>
        refine Or.inl ⟨.repository repo cap, by simp only [ofRequest, named, capped], ?_⟩
        rintro (unnamed | outside)
        · rw [named] at unnamed
          cases unnamed
        · rw [capOf_eq_error_iff.mpr ⟨outside, rfl⟩] at capped
          cases capped
      | error e =>
        obtain ⟨outside, rfl⟩ := capOf_eq_error_iff.mp capped
        refine Or.inr ⟨.capOutOfRange limit, by simp only [ofRequest, named, capped],
          Or.inr outside, ?_⟩
        simp [Rejection.isSpeakable, ScanRequest.Unspeakable, named, Option.isSome_iff_ne_none]

end Task

namespace Service

variable {T : Type} [Time T] {s after : Service T} {now : T} {request : ScanRequest} {id : String}

/-- Makes a pending session for a task. -/
def makeSession (now : T) (task : Task) : EStateM StartFault (Service T) String := do
  let s ← get
  let id ← ofExcept ((s.nextId now).mapError .timeless)
  set { s with sessions := s.sessions ++ [Session.create id task.kind task.source] }
  return id

theorem run_makeSession (s : Service T) (now : T) (task : Task) :
    (makeSession now task).run s =
      match s.nextId now with
      | .ok id => .ok id { s with
          sessions := s.sessions ++ [Session.create id task.kind task.source] }
      | .error e => .error (.timeless e) s := by
  simp only [makeSession, EStateM.run_bind, EStateM.run_get]
  cases s.nextId now <;> rfl

/-- Starts a scan step by step. What a step has changed stays so, whatever comes after it. -/
def submit (now : T) (request : ScanRequest) : EStateM StartFault (Service T) String := do
  let s ← get
  let task ← ofExcept ((Task.ofRequest s.limit request).mapError .ofRejection)
  let id ← makeSession now task
  modify fun s => { s with registry := s.registry.add s.sessions now id }
  modify fun s => { s with queue := s.queue ++ [⟨id, task⟩] }
  return id

/-- Step by step a service comes to what it is after a start, and a fault finds it as it was. -/
theorem submit_eq (s : Service T) (now : T) (request : ScanRequest) :
    (submit now request).run s =
      match s.start now request with
      | .ok (after, id) => .ok id after
      | .error e => .error e s := by
  simp only [submit, start, EStateM.run_bind, EStateM.run_get]
  cases Task.ofRequest s.limit request with
  | error e => rfl
  | ok task =>
    simp only [Except.mapError, ofExcept, EStateM.run_pure, run_makeSession]
    cases s.nextId now <;> rfl

theorem start_eq_error {e : Rejection} (asked : Task.ofRequest s.limit request = .error e) :
    s.start now request = .error (.ofRejection e) := by
  rw [start, asked]

/-- Where the rejection cannot be written, something else is raised in its place. -/
theorem start_eq_unspeakable (unacceptable : request.Unacceptable s.limit)
    (unspoken : request.Unspeakable s.limit) : s.start now request = .error .unspeakable := by
  rcases Task.ofRequest_eq_ok_or s.limit request with
    ⟨task, asked, fine⟩ | ⟨e, asked, -, speakable⟩
  · exact absurd unacceptable fine
  · rw [start_eq_error asked, StartFault.ofRejection,
      if_neg fun shown => speakable.mp shown unspoken]

/-- What a service has come to with one new session, which waits for its scan, and one new job. The
other sessions that are held, and what a look-up says of them, are as they would be without. -/
structure Started (s : Service T) (now : T) (task : Task) (session : Session T)
    (after : Service T) : Prop where
  pending : session.state = .pending
  progress : session.progress = 0
  results : session.results = []
  source : session.kind = task.kind ∧ session.source = task.source
  made : after.sessions = s.sessions ++ [session]
  queued : after.queue = s.queue ++ [⟨session.id, task⟩]
  requests : after.requests = s.requests
  held : ∀ id, id ∈ after.registry.members ↔
    id ∈ (s.registry.purge s.sessions now).members ∨ id = session.id
  others : ∀ id, id ≠ session.id → (after.session now id).2 = (s.session now id).2
  found : s.sessions.get? session.id = none → (after.session now session.id).2 = .ok session

theorem session_snd (s : Service T) (now : T) (id : String) :
    (s.session now id).2 = (s.registry.get s.sessions now id).2 := rfl

theorem started_enqueue (s : Service T) (now : T) (id : String) (task : Task) :
    s.Started now task (.create id task.kind task.source) (s.enqueue now id task) where
  pending := rfl
  progress := rfl
  results := rfl
  source := ⟨rfl, rfl⟩
  made := rfl
  queued := rfl
  requests := rfl
  held other := by
    rw [enqueue, Registry.mem_add_iff, Registry.purge_append rfl]
    rfl
  others other ne := by
    rw [session_snd, session_snd]
    apply Registry.get_congr
    · exact (Registry.mem_purge_add_iff ne).trans (by rw [Registry.purge_append rfl])
    · exact Sessions.get?_append_of_ne (fun same => ne same.symm)
  found fresh := by
    have known : (s.enqueue now id task).sessions.get? id =
        some (.create id task.kind task.source) := Sessions.get?_append_self fresh
    refine (session_snd _ now id).trans (Registry.get_eq_ok_iff.mpr ⟨?_, known⟩)
    refine Registry.mem_purge_iff.mpr ⟨Registry.mem_add_iff.mpr (Or.inr rfl), ?_⟩
    intro session known'
    rw [known] at known'
    cases known'
    rfl

/-- **A request is accepted as a whole or not at all.** In every state of a service, a start comes
to what its steps come to, and a fault finds the service as it was. The fault is a rejection exactly
where the request is unacceptable and the rejection can be written. A request that is acceptable, if
the clock shows a time to name a session by, has one new session, which is found where its
identifier is new, and one new job. -/
theorem start_whole (s : Service T) (now : T) (request : ScanRequest) :
    ((submit now request).run s =
      match s.start now request with
      | .ok (after, id) => .ok id after
      | .error e => .error e s) ∧
    ((∃ e, s.start now request = .error (.rejected e)) ↔
      request.Unacceptable s.limit ∧ ¬request.Unspeakable s.limit) ∧
    (request.Unacceptable s.limit → request.Unspeakable s.limit →
      s.start now request = .error .unspeakable) ∧
    (¬request.Unacceptable s.limit → ∀ id, s.nextId now = .ok id →
      ∃ task session after, Task.ofRequest s.limit request = .ok task ∧ session.id = id ∧
        s.start now request = .ok (after, id) ∧ s.Started now task session after) := by
  refine ⟨submit_eq s now request, ?_⟩
  refine and_left_comm.mp ⟨start_eq_unspeakable, ?_⟩
  rcases Task.ofRequest_eq_ok_or s.limit request with
    ⟨task, asked, fine⟩ | ⟨e, asked, unacceptable, speakable⟩
  · cases named : s.nextId now with
    | error e => simp [start, asked, named, fine]
    | ok id =>
      rw [start_eq asked named]
      refine ⟨⟨?_, fun wrong => absurd wrong.1 fine⟩, fun _ id' same => ?_⟩
      · rintro ⟨e, rejected⟩
        cases rejected
      · cases same
        exact ⟨task, _, _, asked, rfl, rfl, started_enqueue s now id task⟩
  · rw [start_eq_error asked]
    refine ⟨⟨?_, ?_⟩, fun fine => absurd unacceptable fine⟩
    · rintro ⟨e', rejected⟩
      refine ⟨unacceptable, speakable.mp ?_⟩
      by_contra silent
      rw [StartFault.ofRejection, if_neg silent] at rejected
      cases rejected
    · rintro ⟨-, spoken⟩
      exact ⟨e, by rw [StartFault.ofRejection, if_pos (speakable.mpr spoken)]⟩

/-- A request for no file at all is rejected, and one for as many as there may be is accepted. -/
theorem start_whole_both_ends :
    let s := create 50 (.create "" .never) (0 : Rat) none []
    (∃ e, s.start 0 (.repository "o/r" (some 0)) = .error (.rejected e)) ∧
      ∃ task session after,
        s.start 0 (.repository "o/r" (some 50)) = .ok (after, scanId 0 1) ∧
          s.Started 0 task session after := by
  intro s
  obtain ⟨-, rejected, -, -⟩ := start_whole s 0 (.repository "o/r" (some 0))
  obtain ⟨-, -, -, accepted⟩ := start_whole s 0 (.repository "o/r" (some 50))
  have named : s.nextId 0 = .ok (scanId 0 1) := by
    simp [s, nextId, Time.millis, ExactTime.wholeMillis, create, Except.map]
  refine ⟨rejected.mpr ⟨Or.inr ⟨0, rfl, by decide⟩, ?_⟩, ?_⟩
  · rintro ⟨-, wide⟩
    rw [show s.limit = 50 from rfl, Numeral.ofInt?_of_small (by decide)] at wide
    cases wide
  · have acceptable : ¬ScanRequest.Unacceptable s.limit (.repository "o/r" (some 50)) := by
      rintro (unnamed | ⟨n, given, outside⟩)
      · cases unnamed
      · cases given
        exact outside (by decide)
    obtain ⟨task, session, after, -, -, ok, started⟩ := accepted acceptable _ named
    exact ⟨task, session, after, ok, started⟩

/-- A number of files that is out of range is not rejected if the limit has too many digits. -/
theorem start_wide_limit :
    let limit : Int := (Nat.pow 10 Numeral.maxDigits : Nat)
    let request := ScanRequest.repository "o/r" (some 0)
    let s := create limit (.create "" .never) (0 : Rat) none []
    request.Unacceptable s.limit ∧ ∀ e, s.start 0 request ≠ .error (.rejected e) := by
  intro limit request s
  have wide : Numeral.ofInt? limit = none := Numeral.ofInt?_natCast_of_large (Nat.le_refl _)
  have outside : ¬((1 : Int) ≤ 0 ∧ 0 ≤ limit) := fun inside => absurd inside.1 (by decide)
  have asked : Task.ofRequest s.limit request = .error (.capOutOfRange limit) := by
    have capped : Task.capOf limit (some 0) = .error (.capOutOfRange limit) :=
      Task.capOf_eq_error_iff.mpr ⟨⟨0, rfl, outside⟩, rfl⟩
    simp only [Task.ofRequest, request, s, create, capped]
    rfl
  refine ⟨Or.inr ⟨0, rfl, outside⟩, ?_⟩
  rw [start_eq_error asked, StartFault.ofRejection, Rejection.isSpeakable, wide]
  nofun

end Service
end LeakScan
