import LeakScan.Proofs.Repository.Steady
import LeakScan.Proofs.Service.Repository
import LeakScan.Proofs.Service.Run

/-!
# Scans do not touch each other

Every job of a queue is of a pending session of its own (`Ready`), and a step either leaves jobs and
sessions alone, adds one of each, or takes one job and lets its session follow the course of the
task (`Moves`). With a steady host that course is the same whenever the job is run. So a session
that waits stays as it is until its job is run, and then comes to what its course says (`Fate`):
the order of the jobs, and whatever else is done between them, makes no difference.
-/

namespace LeakScan
set_option autoImplicit false

variable {T : Type}

/-- What a scan has come to, whenever it ended. -/
def Session.outcome (s : Session T) : ScanState × String × List Result × Stats :=
  (s.state, s.status, s.results, s.stats)

namespace Session

theorem outcome_follow (s : Session T) (now later : T) (c : Course) :
    (s.follow now c).outcome = (s.follow later c).outcome := by
  simp only [follow]
  obtain ⟨id, kind, source, phase⟩ := c.announced.foldl announce s
  rcases c.ending with ⟨fs, files⟩ | ⟨fault | m⟩ | _ <;> cases phase <;> rfl

/-- A session that follows a course with an end ends. -/
theorem isTerminal_follow (s : Session T) (now : T) {c : Course} (ended : c.ending ≠ .unfinished) :
    (s.follow now c).isTerminal = true := by
  rw [follow]
  obtain ⟨id, kind, source, phase⟩ := c.announced.foldl announce s
  rcases ending : c.ending with ⟨fs, files⟩ | ⟨fault | m⟩ | _
  · cases phase <;> rfl
  · cases phase <;> rfl
  · cases phase <;> rfl
  · exact absurd ending ended

end Session

namespace Service

/-- Every job of the queue is of a pending session of its own. -/
structure Ready (s : Service T) : Prop where
  distinct : (s.sessions.map Session.id).Nodup
  single : (s.queue.map Job.session).Nodup
  pending : ∀ job ∈ s.queue, ∃ session,
    s.sessions.get? job.session = some session ∧ session.phase = .pending

/-- What a step does to the jobs and sessions of a service. -/
inductive Moves (host : Host) (listings : Nat) (now : T) (s s' : Service T) : Prop where
  | stays (sessions : s'.sessions = s.sessions) (queue : s'.queue = s.queue)
  | starts (id : String) (task : Task)
    (sessions : s'.sessions = s.sessions ++ [.create id task.kind task.source])
    (queue : s'.queue = s.queue ++ [⟨id, task⟩])
  | runs (index : Nat) (job : Job) (queued : s.queue[index]? = some job)
    (sessions : s'.sessions = s.sessions.modify job.session fun session =>
      session.follow now (Course.ofTask host s.client s.requests listings job.task))
    (queue : s'.queue = s.queue.eraseIdx index)

/-- A run takes a job from the queue, if there is one at the place. -/
theorem queue_run (s : Service T) (host : Host) (now : T) (listings index : Nat) :
    (s.run host now listings index).1.queue = s.queue.eraseIdx index := by
  rw [Service.run]
  cases queued : s.queue[index]? with
  | none => exact (List.eraseIdx_of_length_le (List.getElem?_eq_none_iff.mp queued)).symm
  | some job =>
    simp only [runJob]
    cases s.sessions.get? job.session <;> rfl

theorem ids_run (s : Service T) (host : Host) (now : T) (listings index : Nat) :
    (s.run host now listings index).1.sessions.map Session.id = s.sessions.map Session.id := by
  rw [Service.run]
  split
  · rfl
  · rw [runJob]
    split
    · rfl
    · exact Sessions.map_id_modify (fun s => Session.id_follow s now _) _

theorem client_run (s : Service T) (host : Host) (now : T) (listings index : Nat) :
    (s.run host now listings index).1.client = s.client := by
  rw [Service.run]
  split
  · rfl
  · rw [runJob]
    split <;> rfl

variable {s s' : Service T} {host : Host} {listings : Nat} {now : T}

theorem moves_run (s : Service T) (host : Host) (now : T) (listings index : Nat) :
    s.Moves host listings now (s.run host now listings index).1 := by
  cases queued : s.queue[index]? with
  | none =>
    have idle : s.run host now listings index = (s, .empty) := by rw [Service.run, queued]
    rw [idle]
    exact .stays rfl rfl
  | some job =>
    refine .runs index job queued ?_ (queue_run s host now listings index)
    simp only [Service.run, queued, runJob]
    cases known : s.sessions.get? job.session with
    | none => exact (Sessions.modify_of_get?_eq_none known _).symm
    | some session => rfl

/-- A move keeps all sessions that there were. -/
theorem Moves.keeps_ids (moves : s.Moves host listings now s') :
    s.sessions.map Session.id <+: s'.sessions.map Session.id := by
  cases moves with
  | stays sessions queue => simp only [sessions, List.prefix_rfl]
  | starts id task sessions queue =>
    rw [sessions, List.map_append]
    exact List.prefix_append _ _
  | runs index job queued sessions queue =>
    simp only [sessions, Sessions.map_id_modify fun s => Session.id_follow s now _,
      List.prefix_rfl]

theorem id_notMem_of_nodup {sessions : Sessions T} {session : Session T}
    (distinct : ((sessions ++ [session]).map Session.id).Nodup) :
    session.id ∉ sessions.map Session.id := by
  rw [List.map_append, List.nodup_append] at distinct
  exact fun member => distinct.2.2 _ member _ (List.mem_singleton_self _) rfl

/-- The jobs that are left do not share the session of the job that was taken. -/
theorem Ready.session_ne (ready : s.Ready) {index : Nat} {job other : Job}
    (queued : s.queue[index]? = some job) (left : other ∈ s.queue.eraseIdx index) :
    other.session ≠ job.session := by
  obtain ⟨place, elsewhere, here⟩ := List.mem_eraseIdx_iff_getElem?.mp left
  intro same
  refine elsewhere ((List.getElem?_inj ?_ ready.single).mp ?_)
  · rw [List.length_map]
    exact (List.getElem?_eq_some_iff.mp here).1
  · rw [List.getElem?_map, List.getElem?_map, here, queued, Option.map_some, Option.map_some, same]

theorem Ready.session_mem (ready : s.Ready) {job : Job} (queued : job ∈ s.queue) :
    job.session ∈ s.sessions.map Session.id := by
  obtain ⟨session, known, -⟩ := ready.pending job queued
  exact Sessions.id_mem_of_get? known

/-- A move makes every job one of a pending session of its own again, as long as identifiers are
distinct. -/
theorem Ready.moves (ready : s.Ready) (moves : s.Moves host listings now s')
    (distinct : (s'.sessions.map Session.id).Nodup) : s'.Ready := by
  cases moves with
  | stays sessions queue =>
    exact ⟨distinct, queue ▸ ready.single, by rw [sessions, queue]; exact ready.pending⟩
  | starts id task sessions queue =>
    have new := id_notMem_of_nodup (sessions ▸ distinct)
    refine ⟨distinct, ?_, ?_⟩
    · rw [queue, List.map_append, List.nodup_append]
      refine ⟨ready.single, by simp, ?_⟩
      intro other waiting _ single
      obtain ⟨job, queued, rfl⟩ := List.mem_map.mp waiting
      rw [List.mem_singleton.mp single]
      rintro rfl
      exact new (ready.session_mem queued)
    · intro job queued
      rw [queue] at queued
      rcases List.mem_append.mp queued with before | last
      · obtain ⟨session, known, pending⟩ := ready.pending job before
        exact ⟨session, by rw [sessions]; exact Sessions.get?_append known _, pending⟩
      · rw [List.mem_singleton.mp last]
        have member : Session.create id task.kind task.source ∈ s'.sessions := by
          rw [sessions]
          exact List.mem_append_right _ (List.mem_singleton_self _)
        have known := Sessions.get?_id_of_mem distinct member
        exact ⟨_, known, rfl⟩
  | runs index job queued sessions queue =>
    refine ⟨distinct, ?_, ?_⟩
    · rw [queue]
      exact ready.single.sublist ((List.eraseIdx_sublist _ _).map _)
    · intro other left
      rw [queue] at left
      obtain ⟨session, known, pending⟩ := ready.pending other (List.mem_of_mem_eraseIdx left)
      refine ⟨session, ?_, pending⟩
      rw [sessions, Sessions.get?_modify (fun s => Session.id_follow s now _), known]
      have own : session.id ≠ job.session :=
        (Sessions.mem_of_get? known).2 ▸ ready.session_ne queued left
      simp [own]

/-- What has become of a job: it waits, and its session is as it was, or it was run, and its session
followed a course. -/
inductive Fate (job : Job) (session : Session T) (course : Course) (s : Service T) : Prop where
  | waits (queued : job ∈ s.queue) (known : s.sessions.get? job.session = some session)
  | ran (taken : job.session ∉ s.queue.map Job.session) (at' : T)
    (known : s.sessions.get? job.session = some (session.follow at' course))

/-- A move lets a job wait or be run, and changes no session whose job was run. -/
theorem Fate.moves {job : Job} {session : Session T} {course : Course} (ready : s.Ready)
    (fate : Fate job session course s) (moves : s.Moves host listings now s')
    (distinct : (s'.sessions.map Session.id).Nodup)
    (same : ∀ past, Course.ofTask host s.client past listings job.task = course) :
    Fate job session course s' := by
  cases moves with
  | stays sessions queue =>
    cases fate with
    | waits queued known => exact .waits (queue ▸ queued) (sessions ▸ known)
    | ran taken at' known => exact .ran (queue ▸ taken) at' (sessions ▸ known)
  | starts id task sessions queue =>
    cases fate with
    | waits queued known =>
      exact .waits (queue ▸ List.mem_append_left _ queued)
        (sessions ▸ Sessions.get?_append known _)
    | ran taken at' known =>
      refine .ran ?_ at' (sessions ▸ Sessions.get?_append known _)
      have new : id ∉ s.sessions.map Session.id := id_notMem_of_nodup (sessions ▸ distinct)
      rw [queue, List.map_append, List.mem_append, not_or]
      refine ⟨taken, fun last => new ?_⟩
      have shared : job.session = id := List.mem_singleton.mp last
      exact shared ▸ Sessions.id_mem_of_get? known
  | runs index other queued' sessions queue =>
    cases fate with
    | waits queued known =>
      by_cases left : job ∈ s.queue.eraseIdx index
      · refine .waits (queue ▸ left) ?_
        have own : session.id ≠ other.session :=
          (Sessions.mem_of_get? known).2 ▸ ready.session_ne queued' left
        rw [sessions, Sessions.get?_modify (fun s => Session.id_follow s now _), known]
        simp [own]
      · obtain rfl : job = other := by
          obtain ⟨place, here⟩ := List.mem_iff_getElem?.mp queued
          have taken : place = index := by
            by_contra elsewhere
            exact left (List.mem_eraseIdx_iff_getElem?.mpr ⟨place, elsewhere, here⟩)
          rw [taken, queued'] at here
          exact (Option.some.inj here).symm
        refine .ran ?_ now ?_
        · rw [queue]
          intro shared
          obtain ⟨other, left, own⟩ := List.mem_map.mp shared
          exact ready.session_ne queued' left own
        · rw [sessions, Sessions.get?_modify (fun s => Session.id_follow s now _), known, same]
          simp [(Sessions.mem_of_get? known).2]
    | ran taken at' known =>
      refine .ran ?_ at' ?_
      · rw [queue]
        exact fun left => taken (((List.eraseIdx_sublist _ _).map _).subset left)
      · have own : (session.follow at' course).id ≠ other.session := by
          rw [(Sessions.mem_of_get? known).2]
          rintro shared
          exact taken (shared ▸ List.mem_map_of_mem (List.mem_of_getElem? queued'))
        rw [sessions, Sessions.get?_modify (fun s => Session.id_follow s now _), known]
        simp [own]

namespace Timed

variable [ExactTime T] {w : Timed T}

/-- Every step is a move. -/
theorem moves_step (host : Host) (listings : Nat) (w : Timed T) (e : Step T) :
    w.service.Moves host listings w.now (w.step host listings e).1.service := by
  cases e with
  | start request =>
    simp only [step]
    split
    · rename_i accepted id started
      obtain ⟨task, -, -, rfl⟩ := start_eq_ok_iff.mp started
      exact .starts id task rfl rfl
    · exact .stays rfl rfl
  | run index => exact moves_run w.service host w.now listings index
  | ask id question =>
    simp only [step, answer_eq]
    exact .stays rfl rfl
  | count => exact .stays rfl rfl
  | pass elapsed onward => exact .stays rfl rfl

theorem client_step (host : Host) (listings : Nat) (w : Timed T) (e : Step T) :
    (w.step host listings e).1.service.client = w.service.client := by
  cases e with
  | start request =>
    simp only [step]
    split
    · rename_i accepted id started
      obtain ⟨task, -, -, rfl⟩ := start_eq_ok_iff.mp started
      rfl
    · rfl
  | run index => exact client_run w.service host w.now listings index
  | ask id question => simp only [step, answer_eq]
  | count => rfl
  | pass elapsed onward => rfl

theorem keeps_ids_run (host : Host) (listings : Nat) (w : Timed T) (steps : List (Step T)) :
    w.service.sessions.map Session.id <+:
      (w.run host listings steps).service.sessions.map Session.id := by
  induction steps generalizing w with
  | nil => exact List.prefix_rfl
  | cons e steps ih => exact (moves_step host listings w e).keeps_ids.trans (ih _)

/-- Identifiers that are distinct in the end were distinct before. -/
theorem distinct_of_run {host : Host} {listings : Nat} {steps : List (Step T)}
    (distinct : ((w.run host listings steps).service.sessions.map Session.id).Nodup) :
    (w.service.sessions.map Session.id).Nodup :=
  distinct.sublist (keeps_ids_run host listings w steps).sublist

theorem ready_run {host : Host} {listings : Nat} (ready : w.service.Ready) (steps : List (Step T))
    (distinct : ((w.run host listings steps).service.sessions.map Session.id).Nodup) :
    (w.run host listings steps).service.Ready := by
  induction steps generalizing w with
  | nil => exact ready
  | cons e steps ih =>
    exact ih (ready.moves (moves_step host listings w e) (distinct_of_run distinct)) distinct

/-- In a run a job waits or is run, as long as identifiers are distinct. -/
theorem fate_run {host : Host} {listings : Nat} {job : Job} {session : Session T} {course : Course}
    (ready : w.service.Ready) (fate : Fate job session course w.service) (steps : List (Step T))
    (distinct : ((w.run host listings steps).service.sessions.map Session.id).Nodup)
    (same : ∀ past, Course.ofTask host w.service.client past listings job.task = course) :
    Fate job session course (w.run host listings steps).service := by
  induction steps generalizing w with
  | nil => exact fate
  | cons e steps ih =>
    have moves := moves_step host listings w e
    have distinct' := distinct_of_run (w := (w.step host listings e).1) distinct
    exact ih (ready.moves moves distinct') (fate.moves ready moves distinct' same) distinct
      ((client_step host listings w e).symm ▸ same)

end Timed

/-- A service with one job of another and the session of that job, and nothing else. -/
def alone (s : Service T) (job : Job) : Service T :=
  { s with
    registry := { s.registry with members := [job.session] }
    aside := none
    sessions := (s.sessions.get? job.session).toList
    queue := [job]
    requests := [] }

theorem sessionAfter_alone {job : Job} {session : Session T}
    (known : s.sessions.get? job.session = some session) (pending : session.phase = .pending)
    (host : Host) (now : T) (listings : Nat) :
    (s.alone job).sessionAfter host now listings 0 0 =
      some (session.follow now (Course.ofTask host s.client [] listings job.task)) := by
  obtain ⟨-, own⟩ := Sessions.mem_of_get? known
  have awaits : (s.alone job).Awaits 0 0 session job.task :=
    ⟨by rw [own]; rfl, by simp [alone, known], pending⟩
  exact (run_awaiting awaits host now listings).1

theorem exists_enough {client : Client} (steady : host.Steady) {jobs : List Job}
    (ends : ∀ job ∈ jobs, job.task.Ends host client) :
    ∃ enough, ∀ job ∈ jobs, ∃ course : Course, course.ending ≠ .unfinished ∧
      ∀ past listings, enough ≤ listings →
        Course.ofTask host client past listings job.task = course := by
  induction jobs with
  | nil => exact ⟨0, nofun⟩
  | cons job jobs ih =>
    obtain ⟨first, others⟩ := List.forall_mem_cons.mp ends
    obtain ⟨enough, course, ended, same⟩ := Task.exists_course steady first
    obtain ⟨enough', rest⟩ := ih others
    refine ⟨max enough enough', List.forall_mem_cons.mpr ⟨⟨course, ended, ?_⟩, ?_⟩⟩
    · exact fun past listings le => same past listings ((le_max_left _ _).trans le)
    · intro other member
      obtain ⟨course, ended, same⟩ := rest other member
      refine ⟨course, ended, fun past listings le => same past listings ?_⟩
      exact (le_max_right _ _).trans le

/-- A job that was run has left its session with what the course of its task says. -/
theorem Ready.outcome_eq [ExactTime T] (ready : s.Ready) {job : Job} (queued : job ∈ s.queue)
    {session : Session T} (known : s.sessions.get? job.session = some session) {course : Course}
    (same : ∀ past, Course.ofTask host s.client past listings job.task = course)
    {steps : List (Step T)} :
    let w := Timed.run host listings ⟨s, now⟩ steps
    (w.service.sessions.map Session.id).Nodup → job ∉ w.service.queue →
      ∃ ended, w.service.sessions.get? job.session = some ended ∧
        ended.outcome = (session.follow now course).outcome := by
  intro w distinct taken
  cases Timed.fate_run (w := ⟨s, now⟩) ready (.waits queued known) steps distinct same with
  | waits queued' => exact absurd queued' taken
  | ran _ at' known' => exact ⟨_, known', Session.outcome_follow session at' now course⟩

/-- **Scans do not touch each other.** With a steady host, every queued scan whose walk ends comes
to the same state, status, results and statistics in whatever order the jobs are run and whatever
else is done between them, and to the same as when it is the only one. That every job is of a
pending session of its own holds of a new service and of what any run makes of it. -/
theorem scans_independent [ExactTime T] (host : Host) (steady : host.Steady) :
    (∀ (limit : Int) (client : Client) (ttl : T) (offered : Option (Registry T))
      (sessions : Sessions T), (sessions.map Session.id).Nodup →
      (create limit client ttl offered sessions).Ready) ∧
    (∀ (host : Host) (listings : Nat) (w : Timed T) (steps : List (Step T)), w.service.Ready →
      ((w.run host listings steps).service.sessions.map Session.id).Nodup →
      (w.run host listings steps).service.Ready) ∧
    ∀ s : Service T, s.Ready → (∀ job ∈ s.queue, job.task.Ends host s.client) →
      ∃ enough, ∀ listings, enough ≤ listings → ∀ job ∈ s.queue, ∀ now : T,
        ∃ single, (s.alone job).sessionAfter host now listings 0 0 = some single ∧
          single.isTerminal = true ∧
          ∀ (start : T) (steps : List (Step T)),
            let w := Timed.run host listings ⟨s, start⟩ steps
            (w.service.sessions.map Session.id).Nodup → job ∉ w.service.queue →
              ∃ ended, w.service.sessions.get? job.session = some ended ∧
                ended.outcome = single.outcome := by
  refine ⟨?_, fun host listings w steps ready distinct => Timed.ready_run ready steps distinct, ?_⟩
  · intro limit client ttl offered sessions distinct
    exact ⟨distinct, List.nodup_nil, nofun⟩
  · intro s ready ends
    obtain ⟨enough, courses⟩ := exists_enough steady ends
    refine ⟨enough, fun listings le job queued now => ?_⟩
    obtain ⟨session, known, pending⟩ := ready.pending job queued
    obtain ⟨course, ended, same⟩ := courses job queued
    have same (past : List Request) := same past listings le
    refine ⟨_, sessionAfter_alone known pending host now listings, ?_, ?_⟩
    · rw [same]
      exact Session.isTerminal_follow session now ended
    · intro start steps w distinct taken
      obtain ⟨ended, known', outcome⟩ := ready.outcome_eq queued known same distinct taken
      exact ⟨ended, known', by rw [outcome, same, Session.outcome_follow]⟩

/-- An uploaded file and a repository, whose scans are run in both orders. -/
theorem scans_independent_two :
    let host := serving mixedListing.indented mixedReply
    let empty := create 50 publicClient (0 : Rat) none []
    let s := (Timed.run host 0 ⟨empty, 0⟩
      [.start (.upload [⟨".env", .text ""⟩]), .start (.repository "o/r" none)]).service
    let first := scanId 0 1
    let second := scanId 0 2
    host.Steady ∧ s.queue.map Job.session = [first, second] ∧ s.Ready ∧
      (∀ job ∈ s.queue, job.task.Ends host s.client) ∧
      ∃ enough, ∀ listings, enough ≤ listings → ∀ job ∈ s.queue, ∃ ended ended' : Session Rat,
        (Timed.run host listings ⟨s, 0⟩
          [.run 0, .ask second .progress, .run 0]).service.sessions.get? job.session = some ended ∧
        (Timed.run host listings ⟨s, 0⟩
          [.run 1, .ask first .report, .run 0]).service.sessions.get? job.session = some ended' ∧
        ended.outcome = ended'.outcome := by
  intro host empty s first second
  have steady : host.Steady := fun _ _ _ => rfl
  obtain ⟨created, kept, same⟩ := scans_independent (T := Rat) host steady
  let half := empty.enqueue 0 first (.upload [⟨".env", .text ""⟩])
  have started : empty.start 0 (.upload [⟨".env", .text ""⟩]) = .ok (half, first) :=
    start_eq rfl (nextId_zero 50 publicClient)
  have started' : half.start 0 (.repository "o/r" none) =
      .ok (half.enqueue 0 second (.repository ⟨"o", "r"⟩ 50), second) := by
    refine start_eq rfl ?_
    simp [nextId, Time.millis, ExactTime.wholeMillis, enqueue, create, Except.map, half, empty,
      second]
  have accepted : s = half.enqueue 0 second (.repository ⟨"o", "r"⟩ 50) := by
    simp only [s, Timed.run, List.foldl_cons, List.foldl_nil, Timed.step, started, started']
  have queue : s.queue = [⟨first, .upload [⟨".env", .text ""⟩]⟩,
      ⟨second, .repository ⟨"o", "r"⟩ 50⟩] := by
    rw [accepted]
    rfl
  have ids : s.sessions.map Session.id = [first, second] := by
    rw [accepted]
    rfl
  have distinct : [first, second].Nodup := by decide
  have ready : s.Ready := by
    apply kept host 0 ⟨empty, 0⟩ _ (created 50 publicClient 0 none [] List.nodup_nil)
    change (s.sessions.map Session.id).Nodup
    rw [ids]
    exact distinct
  have ends : ∀ job ∈ s.queue, job.task.Ends host s.client := by
    rw [queue, accepted]
    simp only [List.forall_mem_cons]
    exact ⟨trivial, ⟨2, _, collect_mixedListing⟩, List.forall_mem_nil _⟩
  refine ⟨steady, by rw [queue]; rfl, ready, ends, ?_⟩
  obtain ⟨enough, all⟩ := same s ready ends
  refine ⟨enough, fun listings le job queued => ?_⟩
  obtain ⟨single, -, -, orders⟩ := all listings le job queued 0
  obtain ⟨ended, known, outcome⟩ := orders 0 [.run 0, .ask second .progress, .run 0]
    (by simp only [Timed.run, List.foldl_cons, List.foldl_nil, Timed.step, answer_eq, ids_run, ids]
        exact distinct)
    (by simp [Timed.run, Timed.step, answer_eq, queue_run, queue])
  obtain ⟨ended', known', outcome'⟩ := orders 0 [.run 1, .ask first .report, .run 0]
    (by simp only [Timed.run, List.foldl_cons, List.foldl_nil, Timed.step, answer_eq, ids_run, ids]
        exact distinct)
    (by simp [Timed.run, Timed.step, answer_eq, queue_run, queue])
  exact ⟨ended, ended', known, known', outcome.trans outcome'.symm⟩

end Service
end LeakScan
