import Mathlib.Data.List.Basic
import LeakScan.Proofs.Finding.Identifier
import LeakScan.Proofs.Service.Independence
import LeakScan.Proofs.Service.Offered
import LeakScan.Proofs.Session.Report

/-!
# Results over a run of a service

The results of a scan are those of its findings, numbered behind the identifier of the scan
(`Session.Numbered`). A step of a service keeps that for every session, and a session that has ended
stands as it is at every later moment. So a service whose scans have identifiers of their own never
gives two results the same identifier, in whichever reports and at whatever moments they are shown
(`results_told_apart`).
-/

namespace LeakScan
set_option autoImplicit false

variable {T : Type}

namespace Session

variable {s : Session T}

/-- The results of a session are those of some findings, in their order. -/
def Numbered (s : Session T) : Prop := ∃ fs, s.results = Result.ofFindings s.id fs

/-- The place of a result in a report is the number in its identifier. -/
theorem Numbered.ids (numbered : s.Numbered) :
    s.report.results.map Result.id =
      (List.range s.report.results.length).map fun i => s.id ++ "-" ++ toString i := by
  obtain ⟨fs, results⟩ := numbered
  rw [show s.report.results = Result.ofFindings s.id fs from results, Result.length_ofFindings,
    Result.id_ofFindings]

theorem results_of_going (going : s.isTerminal = false) : s.results = [] := by
  rcases phase_of_going going with pending | ⟨_, _, _, running⟩
  · rw [results, pending]
  · rw [results, running]

theorem numbered_of_going (going : s.isTerminal = false) : s.Numbered :=
  ⟨[], results_of_going going⟩

theorem isTerminal_of_getElem?_results {i : Nat} {r : Result} (shown : s.results[i]? = some r) :
    s.isTerminal = true := by
  cases going : s.isTerminal with
  | true => rfl
  | false =>
    rw [results_of_going going] at shown
    cases shown

/-- A session that has ended follows no course. -/
theorem follow_of_terminal (ended : s.isTerminal = true) (now : T) (c : Course) :
    s.follow now c = s := by
  rw [follow_eq_foldl]
  exact List.foldl_fixed' (after_of_terminal ended now) _

/-- A session that follows a course numbers what the course has found. -/
theorem Numbered.follow (numbered : s.Numbered) (now : T) (c : Course) :
    (s.follow now c).Numbered := by
  cases going : s.isTerminal with
  | true =>
    rw [follow_of_terminal going]
    exact numbered
  | false =>
    cases ending : c.ending with
    | found fs files =>
      rw [follow_found going now ending]
      exact ⟨fs, rfl⟩
    | failed fault =>
      rw [follow_failed going now ending]
      exact ⟨[], rfl⟩
    | unfinished =>
      obtain ⟨phase, run, goesOn⟩ := foldl_announce going c.announced
      rw [Session.follow, run, ending]
      exact numbered_of_going goesOn

end Session

namespace Sessions

/-- If there is a session at a place, its results are numbered. -/
def NumberedAt (sessions : Sessions T) (place : Nat) : Prop :=
  ∀ s, sessions[place]? = some s → s.Numbered

theorem numberedAt_nil (place : Nat) : NumberedAt ([] : Sessions T) place := by
  intro s known
  rw [List.getElem?_nil] at known
  cases known

/-- Where identifiers are distinct, a session is known by its own. -/
theorem id_eq_iff {sessions : Sessions T} (distinct : (sessions.map Session.id).Nodup)
    {place place' : Nat} {s s' : Session T} (here : sessions[place]? = some s)
    (there : sessions[place']? = some s') : s.id = s'.id ↔ place = place' := by
  constructor
  · intro same
    refine (List.getElem?_inj ?_ distinct).mp ?_
    · rw [List.length_map]
      exact (List.getElem?_eq_some_iff.mp here).1
    · rw [List.getElem?_map, List.getElem?_map, here, there, Option.map_some, Option.map_some, same]
  · rintro rfl
    rw [here] at there
    cases there
    rfl

end Sessions

namespace Service

/-- A report that a service gives is that of the session of the identifier asked for. -/
theorem exists_of_report_eq_ok [Time T] {s : Service T} {now : T} {id : String} {r : Report}
    (told : (s.report now id).2 = .ok r) :
    ∃ (place : Nat) (session : Session T), s.sessions[place]? = some session ∧ session.id = id ∧
      session.report = r := by
  have told : (s.registry.get s.sessions now id).2.map Session.report = .ok r := told
  cases found : (s.registry.get s.sessions now id).2 with
  | error e =>
    rw [found] at told
    cases told
  | ok session =>
    rw [found] at told
    cases told
    obtain ⟨-, known⟩ := Registry.get_eq_ok_iff.mp found
    obtain ⟨member, own⟩ := Sessions.mem_of_get? known
    obtain ⟨place, here⟩ := List.mem_iff_getElem?.mp member
    exact ⟨place, session, here, own, rfl⟩

variable {s s' : Service T} {host : Host} {listings : Nat} {now : T} {place : Nat}

/-- A new session has no results yet, and one whose job is run numbers its own. -/
theorem Moves.numberedAt (moves : s.Moves host listings now s')
    (numbered : s.sessions.NumberedAt place) : s'.sessions.NumberedAt place := by
  intro session known
  cases moves with
  | stays sessions queue => exact numbered session (sessions ▸ known)
  | starts id task sessions queue =>
    rw [sessions, List.getElem?_append] at known
    split at known
    · exact numbered session known
    · rw [List.mem_singleton.mp (List.mem_of_getElem? known)]
      exact Session.numbered_of_going rfl
  | runs index job queued sessions queue =>
    rw [sessions, Sessions.modify, List.getElem?_map, Option.map_eq_some_iff] at known
    obtain ⟨before, known, rfl⟩ := known
    split
    · exact (numbered before known).follow now _
    · exact numbered before known

/-- A move leaves a session that has ended where and as it is. -/
theorem Moves.getElem?_of_terminal (moves : s.Moves host listings now s') {session : Session T}
    (ended : session.isTerminal = true) (known : s.sessions[place]? = some session) :
    s'.sessions[place]? = some session := by
  cases moves with
  | stays sessions queue => rw [sessions, known]
  | starts id task sessions queue =>
    rw [sessions, List.getElem?_append_left (List.getElem?_eq_some_iff.mp known).1, known]
  | runs index job queued sessions queue =>
    rw [sessions, Sessions.modify, List.getElem?_map, known, Option.map_some,
      Session.follow_of_terminal ended, ite_self]

/-- A run of a job leaves the sessions of other identifiers alone. -/
theorem getElem?_run_of_ne {index : Nat} {job : Job} {session : Session T}
    (queued : s.queue[index]? = some job) (other : session.id ≠ job.session)
    (known : s.sessions[place]? = some session) :
    (s.run host now listings index).1.sessions[place]? = some session := by
  simp only [Service.run, queued, runJob]
  split
  · exact known
  · rw [Sessions.modify, List.getElem?_map, known, Option.map_some, if_neg other]

namespace Timed

variable [ExactTime T] {w : Timed T}

theorem numberedAt_run (numbered : w.service.sessions.NumberedAt place) (steps : List (Step T)) :
    (w.run host listings steps).service.sessions.NumberedAt place := by
  induction steps generalizing w with
  | nil => exact numbered
  | cons e steps ih => exact ih ((moves_step host listings w e).numberedAt numbered)

theorem getElem?_run_of_terminal {session : Session T} (ended : session.isTerminal = true)
    (known : w.service.sessions[place]? = some session) (steps : List (Step T)) :
    (w.run host listings steps).service.sessions[place]? = some session := by
  induction steps generalizing w with
  | nil => exact known
  | cons e steps ih => exact ih ((moves_step host listings w e).getElem?_of_terminal ended known)

/-- A result of one moment and a result of the same or a later one. -/
theorem result_id_eq_iff {more : List (Step T)} {place' : Nat} {session session' : Session T}
    (distinct : ((w.run host listings more).service.sessions.map Session.id).Nodup)
    (here : w.service.sessions[place]? = some session)
    (there : (w.run host listings more).service.sessions[place']? = some session')
    (numbered : session.Numbered) (numbered' : session'.Numbered) {i i' : Nat} {r r' : Result}
    (shown : session.results[i]? = some r) (shown' : session'.results[i']? = some r') :
    (r.id = r'.id ↔ place = place' ∧ i = i') ∧ (r.id = r'.id → r = r') := by
  -- What was shown at the first moment is still shown at the second, so both are compared there.
  have still : (w.run host listings more).service.sessions[place]? = some session :=
    getElem?_run_of_terminal (Session.isTerminal_of_getElem?_results shown) here more
  have apart : r.id = r'.id ↔ place = place' ∧ i = i' := by
    obtain ⟨fs, results⟩ := numbered
    obtain ⟨gs, results'⟩ := numbered'
    rw [Result.id_eq_iff_of_ofFindings (results ▸ shown) (results' ▸ shown'),
      Sessions.id_eq_iff distinct still there]
  refine ⟨apart, fun same => ?_⟩
  obtain ⟨rfl, rfl⟩ := apart.mp same
  rw [still, Option.some.injEq] at there
  rw [there, shown', Option.some.injEq] at shown
  exact shown.symm

end Timed

/-- **Results are told apart by their identifiers.** An identifier tells the scan and the number of
its result, whatever the scan is called. So where the scans of a service have identifiers of their
own, two results that are reported, at one moment or at two, share an identifier only if they are
one result: of one scan and with one number, which is the place in the report. A session that came
with an offered registry counts as a scan if its results were numbered in the same way. -/
theorem results_told_apart [ExactTime T] :
    (∀ (f g : Finding) (scanId scanId' : String) (i i' : Nat),
      (f.toResult scanId i).id = (g.toResult scanId' i').id ↔ scanId = scanId' ∧ i = i') ∧
    ∀ (limit : Int) (client : Client) (ttl : T) (offered : Option (Registry T))
      (sessions : Sessions T) (start : T) (host : Host) (listings : Nat)
      (steps more : List (Step T)),
      let earlier := Timed.run host listings ⟨create limit client ttl offered sessions, start⟩ steps
      let later := earlier.run host listings more
      (later.service.sessions.map Session.id).Nodup →
      (∀ (id : String) (report : Report), (later.service.report later.now id).2 = .ok report →
        ∃ (place : Nat) (s : Session T), later.service.sessions[place]? = some s ∧ s.id = id ∧
          s.report = report) ∧
      ∀ (place place' : Nat), sessions.NumberedAt place → sessions.NumberedAt place' →
        ∀ s s' : Session T, earlier.service.sessions[place]? = some s →
          later.service.sessions[place']? = some s' →
          s.report.results.map Result.id =
            (List.range s.report.results.length).map (fun i => s.id ++ "-" ++ toString i) ∧
          ∀ (i i' : Nat) (r r' : Result), s.report.results[i]? = some r →
            s'.report.results[i']? = some r' →
            (r.id = r'.id ↔ place = place' ∧ i = i') ∧ (r.id = r'.id → r = r') := by
  refine ⟨fun f g scanId scanId' i i' => Finding.id_toResult_eq_iff, ?_⟩
  intro limit client ttl offered sessions start host listings steps more earlier later distinct
  refine ⟨fun id report told => exists_of_report_eq_ok told, ?_⟩
  intro place place' before before' s s' here there
  have made (place : Nat) (before : sessions.NumberedAt place) :
      earlier.service.sessions.NumberedAt place :=
    Timed.numberedAt_run (w := ⟨create limit client ttl offered sessions, start⟩) before steps
  have numbered : s.Numbered := made place before s here
  have numbered' : s'.Numbered := Timed.numberedAt_run (made place' before') more s' there
  refine ⟨numbered.ids, fun i i' r r' shown shown' => ?_⟩
  exact Timed.result_id_eq_iff distinct here there numbered numbered' shown shown'

/-- The scans of two uploaded batches, of which the first has been run when the second is. -/
theorem results_told_apart_two :
    let host : Host := fun _ _ => .unreachable ""
    let batch : List Upload := [⟨".env", .text ""⟩, ⟨"id_rsa", .text ""⟩]
    let single : List Upload := [⟨".env", .text ""⟩]
    let earlier := Timed.run host 0 ⟨create 50 publicClient (0 : Rat) none [], 0⟩
      [.start (.upload batch), .start (.upload single), .run 0]
    let later := earlier.run host 0 [.run 0]
    ∃ s s' : Session Rat, earlier.service.sessions[0]? = some s ∧
      later.service.sessions[1]? = some s' ∧
      s.report.results.map Result.id = ["scan-0-000000001-0", "scan-0-000000001-1"] ∧
      s'.report.results.map Result.id = ["scan-0-000000002-0"] ∧
      ∀ r ∈ s.report.results, ∀ r' ∈ s'.report.results, r.id ≠ r'.id := by
  intro host batch single earlier later
  let half := (create 50 publicClient (0 : Rat) none []).enqueue 0 (scanId 0 1) (.upload batch)
  let both := half.enqueue 0 (scanId 0 2) (.upload single)
  have started : (create 50 publicClient (0 : Rat) none []).start 0 (.upload batch) =
      .ok (half, scanId 0 1) := start_eq rfl (nextId_zero 50 publicClient)
  have started' : half.start 0 (.upload single) = .ok (both, scanId 0 2) := by
    refine start_eq rfl ?_
    simp [nextId, Time.millis, ExactTime.wholeMillis, enqueue, create, Except.map, half]
  have run : earlier = ⟨(both.run host 0 0 0).1, 0⟩ := by
    simp only [earlier, Timed.run, List.foldl_cons, List.foldl_nil, Timed.step, started, started']
  have awaits : both.Awaits 0 0 (.create (scanId 0 1) "upload" (Task.source (.upload batch)))
      (.upload batch) := ⟨rfl, rfl, rfl⟩
  have awaits' : (both.run host 0 0 0).1.Awaits 0 1
      (.create (scanId 0 2) "upload" (Task.source (.upload single))) (.upload single) :=
    ⟨by rw [queue_run]; rfl, getElem?_run_of_ne awaits.queued (by decide) rfl, rfl⟩
  have next : later = ⟨((both.run host 0 0 0).1.run host 0 0 0).1, 0⟩ := by
    simp only [later, run, Timed.run, List.foldl_cons, List.foldl_nil, Timed.step]
  obtain ⟨s, here, results⟩ : ∃ s, earlier.service.sessions[0]? = some s ∧
      s.report.results = Result.ofFindings (scanId 0 1) (batch.flatMap Upload.findings) := by
    rw [run]
    exact ⟨_, sessionAfter_upload awaits (by simp [batch]) host 0 0, rfl⟩
  obtain ⟨s', there, results'⟩ : ∃ s', later.service.sessions[1]? = some s' ∧
      s'.report.results = Result.ofFindings (scanId 0 2) (single.flatMap Upload.findings) := by
    rw [next]
    exact ⟨_, sessionAfter_upload awaits' (by simp [single]) host 0 0, rfl⟩
  have env : (⟨".env", .text ""⟩ : Upload).findings =
      [⟨".env", "Sensitive File", ".env", 1, .high⟩] := by
    rw [Upload.findings_eq_scanContent rfl, scanContent_eq]
    decide +kernel
  have key : (⟨"id_rsa", .text ""⟩ : Upload).findings =
      [⟨"id_rsa", "Sensitive File", "id_rsa", 1, .high⟩] := by
    rw [Upload.findings_eq_scanContent rfl, scanContent_eq]
    decide +kernel
  have distinct : (later.service.sessions.map Session.id).Nodup := by
    have ids : both.sessions.map Session.id = [scanId 0 1, scanId 0 2] := rfl
    rw [next, ids_run, ids_run, ids]
    decide
  obtain ⟨-, runs⟩ := results_told_apart (T := Rat)
  obtain ⟨-, apart⟩ := runs 50 publicClient 0 none [] 0 host 0 _ _ distinct
  obtain ⟨-, pairs⟩ := apart 0 1 (Sessions.numberedAt_nil 0) (Sessions.numberedAt_nil 1) s s' here
    there
  refine ⟨s, s', here, there, ?_, ?_, ?_⟩
  · rw [results, Result.id_ofFindings]
    simp only [batch, List.flatMap_cons, List.flatMap_nil, env, key]
    decide +kernel
  · rw [results', Result.id_ofFindings]
    simp only [single, List.flatMap_cons, List.flatMap_nil, env]
    decide +kernel
  · intro r member r' member' same
    obtain ⟨i, shown⟩ := List.mem_iff_getElem?.mp member
    obtain ⟨i', shown'⟩ := List.mem_iff_getElem?.mp member'
    cases ((pairs i i' r r' shown shown').1.mp same).1

end Service
end LeakScan
