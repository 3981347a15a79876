import LeakScan.Proofs.Service.Repository
import LeakScan.Proofs.Service.Run

/-!
# The registry that a service is offered

Others may hold the registry that a service is offered, look sessions up in it and register their
own. A service that takes the registry over does nothing to it but what those others could do
(`Timed.exists_events`), so what is true of registries is true of it: every scan that the service
starts is found there while it is live by the registry's own time to live, and the service answers
for every session that is found there (`offered_registry_serves`). A registry is taken over if it
holds a session. One that is empty is set aside, and no scan of the service is ever found in it.
-/

namespace LeakScan
set_option autoImplicit false

variable {T : Type}

/-! ## What a scan does to its session -/

/-- The event that an announcement is. -/
def Announcement.event (a : Announcement) : Session.Event T := .advance a.progress a.status a.file

/-- The event that the end of a scan is, if it ends. -/
def Ending.events (id : String) : Ending → List (Session.Event T)
  | found fs files => [.complete (Result.ofFindings id fs) files]
  | failed fault => [.fail fault.reason]
  | unfinished => []

/-- The events that the course of a scan is. -/
def Course.events (id : String) (c : Course) : List (Session.Event T) :=
  c.announced.map Announcement.event ++ c.ending.events id

namespace Session

theorem finish_eq_foldl (s : Session T) (now : T) (e : Ending) :
    s.finish now e = (e.events s.id).foldl (fun s e => s.after now e) s := by
  rcases e with ⟨fs, files⟩ | ⟨fault | m⟩ | _ <;> rfl

/-- A session that follows a course goes through its events. -/
theorem follow_eq_foldl (s : Session T) (now : T) (c : Course) :
    s.follow now c = (c.events s.id).foldl (fun s e => s.after now e) s := by
  rw [follow, finish_eq_foldl, (foldl_announce_keeps s c.announced).1, Course.events,
    List.foldl_append, List.foldl_map]
  rfl

end Session

namespace Sessions

variable {sessions : Sessions T} {id : String} {f g : Session T → Session T}

theorem modify_congr (same : ∀ s : Session T, s.id = id → f s = g s) :
    sessions.modify id f = sessions.modify id g := by
  apply List.map_congr_left
  intro s _
  split
  · rename_i here
    exact same s here
  · rfl

theorem modify_modify (keeps : ∀ s, (f s).id = s.id) :
    (sessions.modify id f).modify id g = sessions.modify id fun s => g (f s) := by
  rw [modify, modify, List.map_map]
  apply List.map_congr_left
  intro s _
  by_cases here : s.id = id <;> simp [here, keeps]

end Sessions

/-- What a purge does not leave is not found. -/
theorem Registry.get_of_notMem [Time T] {r : Registry T} {sessions : Sessions T} {now : T}
    {id : String} (gone : id ∉ (r.purge sessions now).members) :
    (r.get sessions now id).2 = .error ⟨id⟩ :=
  get_eq_error_iff.mpr fun _ found => gone (get_eq_ok_iff.mp found).1

namespace Registry.Timed

/-- Events of one session change that session and nothing else. -/
theorem run_map_happen [Time T] (w : Timed T) (id : String) (events : List (Session.Event T)) :
    w.run (events.map (.happen id)) =
      { w with sessions := w.sessions.modify id fun s =>
          events.foldl (fun s e => s.after w.now e) s } := by
  induction events generalizing w with
  | nil => simp [run, Sessions.modify]
  | cons e events ih =>
    have first := ih (w.step (.happen id e))
    rw [run] at first
    rw [List.map_cons, run, List.foldl_cons, first, step,
      Sessions.modify_modify fun s => Session.id_after s w.now e]
    rfl

theorem orderly_map_happen [ExactTime T] (w : Timed T) (id : String)
    (events : List (Session.Event T)) : Orderly w (events.map (.happen id)) := by
  induction events generalizing w with
  | nil => trivial
  | cons e events ih => exact ⟨trivial, ih _⟩

theorem added_map_happen (id : String) (events : List (Session.Event T)) :
    added (events.map (.happen id)) = [] := by
  simp [added]

end Registry.Timed

namespace Service

/-- A service after the registry that it was offered has changed, and sessions with it. -/
def regiven (s : Service T) (r : Registry T) (sessions : Sessions T) : Service T :=
  match s.aside with
  | none => { s with registry := r, sessions := sessions }
  | some _ => { s with aside := some r, sessions := sessions }

theorem regiven_of_adopted {s : Service T} (adopted : s.aside = none) (r : Registry T)
    (sessions : Sessions T) :
    s.regiven r sessions = { s with registry := r, sessions := sessions } := by
  obtain ⟨limit, client, registry, aside, known, queue, requests, closings⟩ := s
  cases adopted
  rfl

/-- A job changes its session event by event, and the registry not at all. -/
theorem exists_events_run (s : Service T) (host : Host) (now : T) (listings index : Nat) :
    let after := (s.run host now listings index).1
    ∃ (id : String) (events : List (Session.Event T)), after.registry = s.registry ∧
      after.sessions = s.sessions.modify id fun session =>
        events.foldl (fun session e => session.after now e) session := by
  have idle : s.sessions.modify "" (fun session => session) = s.sessions := by
    simp [Sessions.modify]
  intro after
  cases queued : s.queue[index]? with
  | none =>
    refine ⟨"", [], ?_, ?_⟩
    · simp [after, Service.run, queued]
    · simp [after, Service.run, queued, idle]
  | some job =>
    cases known : s.sessions.get? job.session with
    | none =>
      refine ⟨"", [], ?_, ?_⟩
      · simp [after, Service.run, queued, runJob, known]
      · simp [after, Service.run, queued, runJob, known, idle]
    | some session =>
      let course := Course.ofTask host s.client s.requests listings job.task
      refine ⟨job.session, course.events job.session, ?_, ?_⟩
      · simp [after, Service.run, queued, runJob, known]
      · simp only [after, Service.run, queued, runJob, known]
        apply Sessions.modify_congr
        intro session own
        rw [← own]
        exact Session.follow_eq_foldl session now course

/-- Something that is done with a service, or by others with the registry that it was offered. -/
inductive Use (T : Type) [ExactTime T] where
  | own (e : Step T)
  | other (e : Registry.Event T)

namespace Timed

/-- The registry that the service was offered, as all see it who hold it. -/
def offered (w : Timed T) : Registry.Timed T := ⟨w.service.given, w.service.sessions, w.now⟩

theorem offered_of_adopted {w : Timed T} (adopted : w.service.aside = none) :
    w.offered = ⟨w.service.registry, w.service.sessions, w.now⟩ := by
  rw [offered, given, adopted, Option.getD_none]

variable [ExactTime T]

/-- What a use does. -/
def use (host : Host) (listings : Nat) (w : Timed T) : Use T → Timed T
  | .own e => (w.step host listings e).1
  | .other e =>
    let t := w.offered.step e
    ⟨w.service.regiven t.registry t.sessions, t.now⟩

/-- What some uses do, one after another. -/
def useAll (host : Host) (listings : Nat) (w : Timed T) (uses : List (Use T)) : Timed T :=
  uses.foldl (use host listings) w

/-- The identifier of the scan that a step starts, or of the session that others register. -/
def entered (host : Host) (listings : Nat) (w : Timed T) : Use T → List String
  | .own e =>
    match (w.step host listings e).2 with
    | .started (.ok id) => [id]
    | _ => []
  | .other e => Registry.added [e]

/-- The identifiers of the scans that some uses start and of the sessions that others register. -/
def enteredAll (host : Host) (listings : Nat) (w : Timed T) : List (Use T) → List String
  | [] => []
  | u :: uses => w.entered host listings u ++ (w.use host listings u).enteredAll host listings uses

end Timed

/-- A use that can be: a scan that starts has an identifier of its own, and what others do can
happen to the registry. -/
def Use.Fits [ExactTime T] (w : Timed T) : Use T → Prop
  | .own (.start _) =>
    ∀ id, w.service.nextId w.now = .ok id → w.service.sessions.get? id = none
  | .own _ => True
  | .other e => e.Fits w.offered

namespace Timed

variable [ExactTime T] {host : Host} {listings : Nat} {w : Timed T} {ttl : T} {seen : List String}

/-- Uses that can be, one after another. -/
def Orderly (host : Host) (listings : Nat) : Timed T → List (Use T) → Prop
  | _, [] => True
  | w, u :: uses => u.Fits w ∧ Orderly host listings (w.use host listings u) uses

/-- What was set aside stays aside, and a registry that was taken over stays so. -/
theorem aside_step (host : Host) (listings : Nat) (w : Timed T) (e : Step T) :
    (w.step host listings e).1.service.aside = w.service.aside := by
  cases e with
  | start request =>
    simp only [step]
    split
    · rename_i accepted id started
      obtain ⟨task, -, -, rfl⟩ := start_eq_ok_iff.mp started
      rfl
    · rfl
  | run index =>
    simp only [step, Service.run]
    split
    · rfl
    · rw [runJob]
      split <;> rfl
  | ask id question => simp only [step, answer_eq]
  | count => rfl
  | pass elapsed onward => rfl

theorem aside_run (host : Host) (listings : Nat) (w : Timed T) (steps : List (Step T)) :
    (w.run host listings steps).service.aside = w.service.aside := by
  induction steps generalizing w with
  | nil => rfl
  | cons e steps ih => exact (ih _).trans (aside_step host listings w e)

/-- To the registry that it has taken over, a step of the service is some events, in which nothing
but the scan that it starts is registered. -/
theorem exists_events (adopted : w.service.aside = none) {e : Step T}
    (fits : Use.Fits w (.own e)) :
    ∃ events, (w.step host listings e).1.offered = w.offered.run events ∧
      Registry.Orderly w.offered events ∧
      Registry.added events = w.entered host listings (.own e) := by
  rw [offered_of_adopted ((aside_step host listings w e).trans adopted), offered_of_adopted adopted]
  cases e with
  | start request =>
    cases started : w.service.start w.now request with
    | error fault =>
      refine ⟨[], ?_, trivial, ?_⟩
      · simp [step, started, Registry.Timed.run]
      · simp [entered, step, started, Registry.added]
    | ok outcome =>
      obtain ⟨accepted, id⟩ := outcome
      obtain ⟨task, asked, named, rfl⟩ := start_eq_ok_iff.mp started
      have fresh := fits id named
      -- To others, a start is a session that is made and then registered.
      refine ⟨[.create id task.kind task.source, .add id], ?_, ⟨fresh, ?_, trivial⟩, ?_⟩
      · simp only [step, started]
        rfl
      · exact ⟨_, Sessions.get?_append_self (s := .create id task.kind task.source) fresh⟩
      · simp [entered, step, started, Registry.added]
  | run index =>
    obtain ⟨id, events, registry, sessions⟩ :=
      exists_events_run w.service host w.now listings index
    refine ⟨events.map (.happen id), ?_, Registry.Timed.orderly_map_happen _ id events, ?_⟩
    · rw [Registry.Timed.run_map_happen]
      simp only [step, registry, sessions]
    · rw [Registry.Timed.added_map_happen]
      rfl
  | ask id question =>
    refine ⟨[.get id], ?_, ⟨trivial, trivial⟩, rfl⟩
    simp only [step, answer_eq, Registry.Timed.run, List.foldl_cons, List.foldl_nil,
      Registry.Timed.step, Registry.get_fst]
  | count => exact ⟨[], rfl, trivial, rfl⟩
  | pass elapsed onward =>
    exact ⟨[.clock (w.now + elapsed)], rfl, ⟨le_add_of_nonneg_right onward, trivial⟩, rfl⟩

/-- The service has taken over a registry with a time to live, in which some identifiers were
registered so far. -/
structure Adopts (w : Timed T) (ttl : T) (seen : List String) : Prop where
  adopted : w.service.aside = none
  inv : w.offered.Inv ttl seen

theorem Adopts.use (adopts : w.Adopts ttl seen) {u : Use T} (fits : u.Fits w) :
    (w.use host listings u).Adopts ttl (seen ++ w.entered host listings u) := by
  cases u with
  | own e =>
    obtain ⟨events, same, orderly, added⟩ := exists_events adopts.adopted fits
    refine ⟨(aside_step host listings w e).trans adopts.adopted, ?_⟩
    rw [Timed.use, same, ← added]
    exact Registry.Timed.inv_run adopts.inv orderly
  | other e =>
    have adopted : (w.use host listings (.other e)).service.aside = none := by
      rw [Timed.use, regiven_of_adopted adopts.adopted]
      exact adopts.adopted
    refine ⟨adopted, ?_⟩
    rw [offered_of_adopted adopted, Timed.use, regiven_of_adopted adopts.adopted]
    exact Registry.Timed.inv_step adopts.inv fits

theorem Adopts.useAll (adopts : w.Adopts ttl seen) {uses : List (Use T)}
    (orderly : Orderly host listings w uses) :
    (w.useAll host listings uses).Adopts ttl (seen ++ w.enteredAll host listings uses) := by
  induction uses generalizing w seen with
  | nil => rwa [enteredAll, List.append_nil]
  | cons u uses ih =>
    have later := ih (adopts.use orderly.1) orderly.2
    rwa [List.append_assoc] at later

/-- A registry that holds a session is taken over with the sessions that it holds. -/
theorem adopts_create (limit : Int) (client : Client) (ttl : T) {r : Registry T}
    {sessions : Sessions T} (distinct : (sessions.map Session.id).Nodup)
    (nodup : r.members.Nodup) (known : ∀ id ∈ r.members, ∃ s, sessions.get? id = some s)
    (held : r.members ≠ []) (now : T) :
    Adopts ⟨create limit client ttl (some r) sessions, now⟩ r.ttl r.members := by
  have holds : r.size ≠ 0 := mt List.length_eq_zero_iff.mp held
  have created : create limit client ttl (some r) sessions =
      ⟨limit, client, r, none, sessions, [], [], 0⟩ := by
    simp only [create, if_neg holds]
  rw [created]
  exact ⟨rfl, rfl, distinct, nodup, known, fun _ => id, fun _ => Or.inl⟩

/-- An answer is told of the session that a look-up in the offered registry finds. -/
theorem Adopts.answer_eq (adopts : w.Adopts ttl seen) (id : String) (question : Question) :
    (w.service.answer w.now id question).2 = (w.offered.lookup id).map question.tell := by
  rw [Service.answer_eq, offered_of_adopted adopts.adopted]
  rfl

end Timed

/-- **A registry that holds a session serves the service it is offered to.** Whatever is then done
with the service, and by others with the registry, every scan that was started and every session
that was registered is found in the registry exactly while it is live by the registry's own time to
live, and the service answers for every session that is found there. A registry that is empty stays
as it was offered, and so it has none of the scans. -/
theorem offered_registry_serves [ExactTime T] (limit : Int) (client : Client) (ttl : T)
    (r : Registry T) (sessions : Sessions T) (distinct : (sessions.map Session.id).Nodup)
    (nodup : r.members.Nodup) (known : ∀ id ∈ r.members, ∃ s, sessions.get? id = some s)
    (now : T) (host : Host) (listings : Nat) :
    let start : Timed T := ⟨create limit client ttl (some r) sessions, now⟩
    (r.members ≠ [] → ∀ uses, start.Orderly host listings uses →
      let w := start.useAll host listings uses
      (∀ id, id ∈ r.members ∨ id ∈ start.enteredAll host listings uses →
        ∃ s, w.service.sessions.get? id = some s ∧
          (w.offered.lookup id = .ok s ↔ s.Live r.ttl w.now)) ∧
      ∀ id question,
        (w.service.answer w.now id question).2 = (w.offered.lookup id).map question.tell) ∧
    (r.members = [] → ∀ steps, (start.run host listings steps).service.given = r) := by
  intro start
  constructor
  · intro held uses orderly w
    have adopts : w.Adopts r.ttl (r.members ++ start.enteredAll host listings uses) :=
      (Timed.adopts_create limit client ttl distinct nodup known held now).useAll orderly
    refine ⟨fun id entered => ?_, adopts.answer_eq⟩
    have member := List.mem_append.mpr entered
    obtain ⟨s, found⟩ := adopts.inv.known id member
    refine ⟨s, found, adopts.inv.lookup_eq_ok.trans ?_⟩
    exact ⟨fun all => all.2.2, fun live => ⟨member, found, live⟩⟩
  · intro empty steps
    have none : r.size = 0 := List.length_eq_zero_iff.mpr empty
    rw [given, Timed.aside_run]
    simp only [start, create, if_pos none, Option.getD_some]

/-- A scan of one uploaded file is started and run, and ten seconds go by. -/
def oneScan : List (Step Rat) :=
  [.start (.upload [⟨".env", .text "b"⟩]), .run 0, .pass 10 (by decide)]

/-- A registry that keeps its sessions for ever holds one, and is offered to a service that would
keep its own for five seconds. After ten seconds the scan of the service and the other session are
still found, by the service too. -/
theorem offered_registry_serves_shared :
    let r : Registry Rat := ⟨0, ["a"]⟩
    let sessions : Sessions Rat := [.create "a" "upload" "x"]
    let host : Host := fun _ _ => .unreachable ""
    let start : Timed Rat := ⟨create 50 publicClient 5 (some r) sessions, 0⟩
    let uses := oneScan.map .own ++ [.other (.get "a")]
    let w := start.useAll host 0 uses
    start.Orderly host 0 uses ∧
      (∃ s, w.offered.lookup (scanId 0 2) = .ok s ∧ s.isTerminal = true) ∧
      (w.service.answer w.now "a" .done).2 = .ok (.done false) := by
  intro r sessions host start uses w
  have named : start.service.nextId 0 = .ok (scanId 0 2) := by
    simp [start, nextId, Time.millis, ExactTime.wholeMillis, create, Except.map, sessions]
  have orderly : start.Orderly host 0 uses := by
    refine ⟨fun id next => ?_, trivial, trivial, trivial, trivial⟩
    rw [named] at next
    cases next
    decide +kernel
  obtain ⟨serves, -⟩ := offered_registry_serves 50 publicClient 5 r sessions (by decide)
    (by decide) (by simp [r, sessions, Sessions.get?, Session.create]) 0 host 0
  obtain ⟨found, answers⟩ := serves (by decide) uses orderly
  have started : scanId 0 2 ∈ start.enteredAll host 0 uses := by
    decide +kernel
  obtain ⟨s, known, live⟩ := found (scanId 0 2) (Or.inr started)
  obtain ⟨other, known', live'⟩ := found "a" (Or.inl (by decide))
  have ended : (w.service.sessions.get? (scanId 0 2)).map Session.isTerminal = some true := by
    decide +kernel
  have waits : (w.service.sessions.get? "a").map Session.isTerminal = some false := by
    decide +kernel
  rw [known, Option.map_some, Option.some.injEq] at ended
  rw [known', Option.map_some, Option.some.injEq] at waits
  refine ⟨orderly, ⟨s, live.mpr (Or.inl (le_refl _)), ended⟩, ?_⟩
  rw [answers, live'.mpr (Or.inl (le_refl _)), Except.map, Question.tell, waits]

/-- A scan of a service that was offered an empty registry is live by the time to live of that
registry, which keeps its sessions for ever. It is not found in it, and after ten seconds the
service, which keeps its own for five, does not know it either. -/
theorem offered_registry_set_aside :
    let r : Registry Rat := .empty 0
    let host : Host := fun _ _ => .unreachable ""
    let start : Timed Rat := ⟨create 50 publicClient 5 (some r) [], 0⟩
    let uses := oneScan.map .own
    let w := start.useAll host 0 uses
    start.Orderly host 0 uses ∧ start.enteredAll host 0 uses = [scanId 0 1] ∧
      (∃ s, w.service.sessions.get? (scanId 0 1) = some s ∧ s.Live r.ttl w.now) ∧
      w.offered.lookup (scanId 0 1) = .error ⟨scanId 0 1⟩ ∧
      (w.service.answer w.now (scanId 0 1) .report).2 = .error ⟨scanId 0 1⟩ := by
  intro r host start uses w
  refine ⟨⟨fun _ _ => rfl, trivial, trivial, trivial⟩, by decide +kernel, ?_, ?_, ?_⟩
  · have known : (w.service.sessions.get? (scanId 0 1)).isSome = true := by decide +kernel
    obtain ⟨s, found⟩ := Option.isSome_iff_exists.mp known
    exact ⟨s, found, Or.inl (le_refl _)⟩
  · exact Registry.get_of_notMem (by decide +kernel)
  · rw [answer_eq, Registry.get_of_notMem (by decide +kernel)]
    rfl

end Service
end LeakScan
