import LeakScan.Proofs.Json.Written
import LeakScan.Proofs.Service.Start
import LeakScan.Proofs.Web.Asked

/-!
# The web interface is a view of the service

Calls, job runs and changes of the clock take the web interface wherever the things asked, the runs
and the changes take the service, and the answers to the calls show the service's replies
(`web_views_service`). A start that is unacceptable is answered as an error of the server where the
rejection would have to write an integer with too many digits.
-/

namespace LeakScan.Web
set_option autoImplicit false

variable {T : Type}

/-! ## One call -/

section

variable [Time T] {s : Service T} {now : T} {c : Call}

/-- A start succeeds, is rejected, or fails by what is no rejection. -/
theorem start_cases (s : Service T) (now : T) (request : ScanRequest) :
    (∃ after id, s.start now request = .ok (after, id)) ∨
      (∃ e, s.start now request = .error (.rejected e)) ∨
        ∃ e, (∀ r, e ≠ .rejected r) ∧ s.start now request = .error e := by
  cases s.start now request with
  | ok started => exact Or.inl ⟨started.1, started.2, rfl⟩
  | error e =>
    cases e with
    | rejected e => exact Or.inr (Or.inl ⟨e, rfl⟩)
    | timeless fault => exact Or.inr (Or.inr ⟨.timeless fault, nofun, rfl⟩)
    | unspeakable => exact Or.inr (Or.inr ⟨.unspeakable, nofun, rfl⟩)

section

variable {request : ScanRequest} (asks : c.asked = .ok (.start request))
include asks

/-- A scan that has started is answered with its identifier. -/
theorem respond_of_start_ok {after : Service T} {id : String}
    (starts : s.start now request = .ok (after, id)) : respond s now c = (after, .started id) := by
  obtain ⟨same, shows⟩ : Answers _ s now (respond s now c) := respond_of_ok asks
  rw [put_start_of_ok starts] at same shows
  exact Prod.ext same shows.of_started

/-- A rejection is answered with what it says, and changes nothing. -/
theorem respond_of_start_rejected {e : Rejection}
    (rejects : s.start now request = .error (.rejected e)) :
    respond s now c = (s, .detail 400 e.message) := by
  obtain ⟨same, shows⟩ : Answers _ s now (respond s now c) := respond_of_ok asks
  rw [put_start_of_error rejects] at same shows
  exact Prod.ext same shows.of_rejected

/-- Another fault of a start is an error of the server, and changes nothing either. -/
theorem respond_of_start_died {e : StartFault} (fails : s.start now request = .error e)
    (unexpected : ∀ r, e ≠ .rejected r) : respond s now c = (s, .died e) := by
  obtain ⟨same, shows⟩ : Answers _ s now (respond s now c) := respond_of_ok asks
  rw [put_start_of_error fails] at same shows
  exact Prod.ext same (shows.of_died unexpected)

theorem start_of_respond {after : Service T} {id : String}
    (started : respond s now c = (after, .started id)) : s.start now request = .ok (after, id) := by
  have status : (respond s now c).2.status = 200 := by
    rw [started]
    rfl
  rcases start_cases s now request with
    ⟨after', id', starts⟩ | ⟨e, rejects⟩ | ⟨e, unexpected, fails⟩
  · rw [respond_of_start_ok asks starts] at started
    cases started
    exact starts
  · rw [respond_of_start_rejected asks rejects] at status
    cases status
  · rw [respond_of_start_died asks fails unexpected] at status
    cases status

theorem rejected_of_status (refused : (respond s now c).2.status = 400) :
    ∃ e, s.start now request = .error (.rejected e) := by
  rcases start_cases s now request with
    ⟨after, id, starts⟩ | rejected | ⟨e, unexpected, fails⟩
  · rw [respond_of_start_ok asks starts] at refused
    cases refused
  · exact rejected
  · rw [respond_of_start_died asks fails unexpected] at refused
    cases refused

end

section

variable {id : String} {question : Service.Question} (asks : c.asked = .ok (.tell id question))
include asks

theorem respond_of_tell :
    (respond s now c).1 = (s.answer now id question).1 ∧
      Shows (.tell id question) (.told (s.answer now id question).2) (respond s now c).2 :=
  respond_of_ok asks

/-- There is no such scan if and only if the service finds none. -/
theorem status_of_tell_eq_iff :
    (respond s now c).2.status = 404 ↔ ∃ e, (s.answer now id question).2 = .error e := by
  have shows : Shows _ _ (respond s now c).2 := (respond_of_tell asks).2
  cases told : (s.answer now id question).2 with
  | error e =>
    rw [told] at shows
    rw [shows.of_missing]
    exact ⟨fun _ => ⟨e, rfl⟩, fun _ => rfl⟩
  | ok told' =>
    rw [told] at shows
    rw [shows.status_of_told]
    constructor
    · intro absurd
      cases absurd
    · rintro ⟨_, absurd⟩
      cases absurd

theorem status_of_tell : (respond s now c).2.status = 200 ∨ (respond s now c).2.status = 404 := by
  have shows : Shows _ _ (respond s now c).2 := (respond_of_tell asks).2
  cases told : (s.answer now id question).2 with
  | error e =>
    rw [told] at shows
    rw [shows.of_missing]
    exact Or.inr rfl
  | ok told' =>
    rw [told] at shows
    exact Or.inl shows.status_of_told

end

/-- A wrong request changes nothing. -/
theorem respond_of_status
    (refused : (respond s now c).2.status = 400 ∨ (respond s now c).2.status = 422) :
    (respond s now c).1 = s := by
  cases asks : c.asked with
  | error a => rw [respond_of_error asks]
  | ok q =>
    cases q with
    | start request =>
      rcases start_cases s now request with
        ⟨after, id, starts⟩ | ⟨e, rejects⟩ | ⟨e, unexpected, fails⟩
      · rw [respond_of_start_ok asks starts] at refused
        rcases refused with status | status <;> cases status
      · rw [respond_of_start_rejected asks rejects]
      · rw [respond_of_start_died asks fails unexpected]
    | tell id question =>
      have status : (respond s now c).2.status = 200 ∨ (respond s now c).2.status = 404 :=
        status_of_tell asks
      omega

/-- A start fails by something other than a rejection if and only if the rejection cannot be
written, or the clock shows no time. -/
theorem start_fails_iff {request : ScanRequest} :
    (∃ e, (∀ r, e ≠ .rejected r) ∧ s.start now request = .error e) ↔
      request.Unacceptable s.limit ∧ request.Unspeakable s.limit ∨
        ¬request.Unacceptable s.limit ∧ ∃ e, s.nextId now = .error e := by
  rcases Task.ofRequest_eq_ok_or s.limit request with
    ⟨task, asked, acceptable⟩ | ⟨e, asked, unacceptable, speakable⟩
  · cases named : s.nextId now with
    | error e =>
      have fails : s.start now request = .error (.timeless e) := by
        simp only [Service.start, asked, named]
      have unexpected (r : Rejection) : StartFault.timeless e ≠ .rejected r := by
        intro same
        cases same
      exact ⟨fun _ => Or.inr ⟨acceptable, e, rfl⟩, fun _ => ⟨.timeless e, unexpected, fails⟩⟩
    | ok id =>
      rw [Service.start_eq asked named]
      constructor
      · rintro ⟨e, -, fails⟩
        cases fails
      · rintro (⟨unacceptable, -⟩ | ⟨-, e, unnamed⟩)
        · exact absurd unacceptable acceptable
        · cases unnamed
  · constructor
    · rintro ⟨e', unexpected, fails⟩
      refine Or.inl ⟨unacceptable, ?_⟩
      by_contra spoken
      rw [Service.start_eq_error asked, StartFault.ofRejection,
        if_pos (speakable.mpr spoken)] at fails
      cases fails
      exact unexpected e rfl
    · rintro (⟨-, unspoken⟩ | ⟨acceptable, -⟩)
      · refine ⟨.unspeakable, ?_, Service.start_eq_unspeakable unacceptable unspoken⟩
        intro _ same
        cases same
      · exact absurd unacceptable acceptable

/-- The server answers an error of its own if and only if a start fails by something other than a
rejection. -/
theorem status_eq_500_iff :
    (respond s now c).2.status = 500 ↔
      ∃ request, c.asked = .ok (.start request) ∧
        ∃ e, (∀ r, e ≠ .rejected r) ∧ s.start now request = .error e := by
  constructor
  · intro died
    cases asks : c.asked with
    | error a =>
      have status := status_of_asked asks
      rw [respond_of_error asks] at died
      change a.status = 500 at died
      omega
    | ok q =>
      cases q with
      | start request =>
        rcases start_cases s now request with ⟨after, id, starts⟩ | ⟨e, rejects⟩ | fails
        · rw [respond_of_start_ok asks starts] at died
          cases died
        · rw [respond_of_start_rejected asks rejects] at died
          cases died
        · exact ⟨request, rfl, fails⟩
      | tell id question =>
        have status : (respond s now c).2.status = 200 ∨ (respond s now c).2.status = 404 :=
          status_of_tell asks
        omega
  · rintro ⟨request, asks, e, unexpected, fails⟩
    rw [respond_of_start_died asks fails unexpected]
    rfl

end

/-! ## Runs -/

/-- Something that happens where a service is used over the web. -/
inductive Visit (T : Type) where
  | call (c : Call)
  | run (index : Nat)
  | clock (now : T)

/-- Something that happens to a service: it is asked something, a job is run, or the clock is
changed. -/
inductive Deed (T : Type) where
  | ask (q : Asked)
  | run (index : Nat)
  | clock (now : T)

/-- What happens to the service, if anything. -/
def Visit.deed? : Visit T → Option (Deed T)
  | .call c => c.asked.toOption.map .ask
  | .run index => some (.run index)
  | .clock now => some (.clock now)

section

variable [Time T] (host : Host) (listings : Nat)

/-- What some visits come to, and the answers to the calls. -/
def visited : Service.Timed T → List (Visit T) → Service.Timed T × List Answer
  | w, [] => (w, [])
  | w, .call c :: visits =>
    let (s, a) := respond w.service w.now c
    let (w, as) := visited ⟨s, w.now⟩ visits
    (w, a :: as)
  | w, .run index :: visits => visited ⟨(w.service.run host w.now listings index).1, w.now⟩ visits
  | w, .clock now :: visits => visited ⟨w.service, now⟩ visits

/-- What some deeds come to, and the replies to what is asked. -/
def done : Service.Timed T → List (Deed T) → Service.Timed T × List (Service.Answer T)
  | w, [] => (w, [])
  | w, .ask q :: deeds =>
    let (s, r) := q.put w.service w.now
    let (w, rs) := done ⟨s, w.now⟩ deeds
    (w, r :: rs)
  | w, .run index :: deeds => done ⟨(w.service.run host w.now listings index).1, w.now⟩ deeds
  | w, .clock now :: deeds => done ⟨w.service, now⟩ deeds

end

/-- The answers to the calls among some visits show the replies of a service, one after another; a
call that asks nothing of the service has the answer that it gets at once. -/
inductive Views : List (Visit T) → List (Service.Answer T) → List Answer → Prop where
  | nil : Views [] [] []
  | run {visits : List (Visit T)} {rs : List (Service.Answer T)} {as : List Answer} (index : Nat)
    (views : Views visits rs as) : Views (.run index :: visits) rs as
  | clock {visits : List (Visit T)} {rs : List (Service.Answer T)} {as : List Answer} (now : T)
    (views : Views visits rs as) : Views (.clock now :: visits) rs as
  | shown {visits : List (Visit T)} {rs : List (Service.Answer T)} {as : List Answer} {c : Call}
    {q : Asked} {r : Service.Answer T} {a : Answer} (asks : c.asked = .ok q) (shows : Shows q r a)
    (views : Views visits rs as) : Views (.call c :: visits) (r :: rs) (a :: as)
  | direct {visits : List (Visit T)} {rs : List (Service.Answer T)} {as : List Answer} {c : Call}
    {a : Answer} (answered : c.asked = .error a) (views : Views visits rs as) :
    Views (.call c :: visits) rs (a :: as)

section

variable [Time T] {host : Host} {listings : Nat}

/-- The service comes to the same over the web, and its replies are shown. -/
theorem visited_views (w : Service.Timed T) (visits : List (Visit T)) :
    (visited host listings w visits).1 =
        (done host listings w (visits.filterMap Visit.deed?)).1 ∧
      Views visits (done host listings w (visits.filterMap Visit.deed?)).2
        (visited host listings w visits).2 := by
  induction visits generalizing w with
  | nil => exact ⟨rfl, .nil⟩
  | cons visit visits ih =>
    cases visit with
    | run index =>
      obtain ⟨same, views⟩ := ih ⟨(w.service.run host w.now listings index).1, w.now⟩
      exact ⟨same, .run index views⟩
    | clock now =>
      obtain ⟨same, views⟩ := ih ⟨w.service, now⟩
      exact ⟨same, .clock now views⟩
    | call c =>
      cases asks : c.asked with
      | error a =>
        have idle : (Visit.call c : Visit T).deed? = none := by
          simp only [Visit.deed?, asks, Except.toOption, Option.map_none]
        obtain ⟨same, views⟩ := ih w
        rw [List.filterMap_cons_none idle]
        simp only [visited, respond_of_error asks]
        exact ⟨same, .direct asks views⟩
      | ok q =>
        have busy : (Visit.call c : Visit T).deed? = some (.ask q) := by
          simp only [Visit.deed?, asks, Except.toOption, Option.map_some]
        obtain ⟨after, shows⟩ : Answers q w.service w.now (respond w.service w.now c) :=
          respond_of_ok asks
        obtain ⟨same, views⟩ := ih ⟨(q.put w.service w.now).1, w.now⟩
        rw [List.filterMap_cons_some busy]
        simp only [visited, done, after]
        exact ⟨same, .shown asks shows views⟩

end

/-! ## An error of the server -/

/-- A form that asks for a scan of a repository, but for no file of it. -/
def emptyScanForm : Json :=
  .obj [("type", .str "github"), ("repo_url", .str "o/r"), ("max_files", .int 0)]

theorem asked_emptyScanForm :
    (Call.mk "POST" "/api/scans" (some emptyScanForm.indented)).asked =
      .ok (.start (.repository "o/r" (some 0))) := by
  have leads : (Call.mk "POST" "/api/scans" (some emptyScanForm.indented)).route? =
      some .scans := by
    decide +kernel
  have readable : Json.Readable Json.maxNesting emptyScanForm := by
    refine @Json.Readable.obj (Json.maxNesting - 1) _ (by decide) (by simp) ?_
    simp only [List.forall_mem_cons]
    exact ⟨.str _, .str _, .int (Nat.pow_pos (by decide)), nofun⟩
  have text : textOfBody? emptyScanForm.indented = some emptyScanForm.indented := by
    decide +kernel
  have written : emptyScanForm.indented ≠ "" := by decide +kernel
  rw [asked_of_route leads, Route.asked]
  have form : formOfBody (some emptyScanForm.indented) = .ok ⟨.repository, [], "o/r", some 0⟩ := by
    simp only [formOfBody, text, formOfText, Json.ofText_indented readable]
    rfl
  rw [form]
  rfl

end LeakScan.Web
