import LeakScan.Proofs.Service.Run
import LeakScan.Web.Api

/-!
# What a call over the web asks

A call over the web is answered at once, or it asks one thing of the service: to start a scan, or
something about a scan (`Call.asked`). In the latter case the service does what it is asked, and the
answer shows its reply (`Shows`). What is answered at once leaves the service as it was.
-/

namespace LeakScan.Web
set_option autoImplicit false

variable {T : Type}

/-! ## What a call asks -/

/-- What a call asks of the service. -/
inductive Asked where
  | start (request : ScanRequest)
  | tell (id : String) (question : Service.Question)

/-- The format that an address asks for. -/
def Address.format (a : Address) : String := (a.value? "format").getD "json"

/-- What a request for what a path leads to asks, or the answer that it gets at once. -/
def Route.asked (query : Address) (body : Option String) : Route → Except Answer Asked
  | .scans => (formOfBody body).map fun f => .start f.request
  | .progress id => .ok (.tell id .progress)
  | .results id => .ok (.tell id .report)
  | .exported id =>
    match ExportFormat.ofName? query.format with
    | none => .error (.detail 400 ("Unsupported export format: " ++ query.format))
    | some f => .ok (.tell id (.exported f.name))

/-- Where a call goes, and what it leads to if its method is the one for that. -/
def Call.route? (c : Call) : Option Route :=
  (Route.ofPath (Address.ofTarget c.target).path).filter (c.method = ·.method)

/-- What a call asks of the service, or the answer that it gets at once. -/
def Call.asked (c : Call) : Except Answer Asked :=
  match Route.ofPath (Address.ofTarget c.target).path with
  | none => .error .noPage
  | some route =>
    if c.method = route.method then route.asked (Address.ofTarget c.target) c.body
    else .error .noMethod

/-- Asks a service. -/
def Asked.put [Time T] (s : Service T) (now : T) : Asked → Service T × Service.Answer T
  | .start request =>
    match s.start now request with
    | .ok (after, id) => (after, .started (.ok id))
    | .error e => (s, .started (.error e))
  | .tell id question =>
    let (after, reply) := s.answer now id question
    (after, .told reply)

/-- The answer to a call that has started a scan. -/
def Answer.started (id : String) : Answer := ⟨200, .json (.obj [("scan_id", .str id)])⟩

/-- What an answer shows of a service's reply to what it was asked. -/
inductive Shows : Asked → Service.Answer T → Answer → Prop where
  | started (request : ScanRequest) (id : String) :
    Shows (.start request) (.started (.ok id)) (.started id)
  | rejected (request : ScanRequest) (e : Rejection) :
    Shows (.start request) (.started (.error (.rejected e))) (.detail 400 e.message)
  | died (request : ScanRequest) (e : StartFault) (unexpected : ∀ r, e ≠ .rejected r) :
    Shows (.start request) (.started (.error e)) (.died e)
  | missing (id : String) (question : Service.Question) (e : NotFound) :
    Shows (.tell id question) (.told (.error e)) .noScan
  | progress (id : String) (p : Progress) :
    Shows (.tell id .progress) (.told (.ok (.progress p))) ⟨200, .json p.toJson⟩
  | report (id : String) (r : Report) :
    Shows (.tell id .report) (.told (.ok (.report r))) ⟨200, .json r.toJson⟩
  | exported (id : String) (f : ExportFormat) (text : String) :
    Shows (.tell id (.exported f.name)) (.told (.ok (.exported (.ok text)))) (fileAnswer id f text)

namespace Shows

variable {request : ScanRequest} {id : String} {question : Service.Question} {a : Answer}

theorem of_started (shows : Shows (T := T) (.start request) (.started (.ok id)) a) :
    a = .started id := by
  cases shows
  rfl

theorem of_rejected {e : Rejection}
    (shows : Shows (T := T) (.start request) (.started (.error (.rejected e))) a) :
    a = .detail 400 e.message := by
  cases shows with
  | rejected => rfl
  | died _ _ unexpected => exact absurd rfl (unexpected e)

theorem of_died {e : StartFault} (unexpected : ∀ r, e ≠ .rejected r)
    (shows : Shows (T := T) (.start request) (.started (.error e)) a) : a = .died e := by
  cases shows with
  | rejected _ r => exact absurd rfl (unexpected r)
  | died => rfl

theorem of_missing {e : NotFound}
    (shows : Shows (T := T) (.tell id question) (.told (.error e)) a) : a = .noScan := by
  cases shows
  rfl

theorem status_of_told {told : Service.Told T}
    (shows : Shows (.tell id question) (.told (.ok told)) a) : a.status = 200 := by
  cases shows <;> rfl

end Shows

/-! ## One call -/

section

variable [Time T] {s : Service T} {now : T} {c : Call} {a : Answer} {q : Asked}

theorem asked_of_route {route : Route} (leads : c.route? = some route) :
    c.asked = route.asked (Address.ofTarget c.target) c.body := by
  obtain ⟨path, method⟩ := Option.filter_eq_some_iff.mp leads
  unfold Call.asked
  rw [path]
  exact if_pos (of_decide_eq_true method)

theorem status_of_formOfBody {body : Option String} (unread : formOfBody body = .error a) :
    a.status = 400 ∨ a.status = 422 := by
  have ofText (text : String) (unread : formOfText text = .error a) :
      a.status = 400 ∨ a.status = 422 := by
    unfold formOfText at unread
    split at unread
    · cases unread
      exact Or.inr rfl
    · cases unread
      exact Or.inl rfl
    · split at unread
      · cases unread
      · cases unread
        exact Or.inr rfl
  unfold formOfBody at unread
  split at unread
  · cases unread
    exact Or.inr rfl
  · cases unread
    exact Or.inr rfl
  · split at unread
    · cases unread
      exact Or.inl rfl
    · exact ofText _ unread

theorem status_of_route {query : Address} {body : Option String} {route : Route}
    (answered : route.asked query body = .error a) : a.status = 400 ∨ a.status = 422 := by
  cases route with
  | scans =>
    unfold Route.asked at answered
    cases decoded : formOfBody body with
    | ok f =>
      rw [decoded] at answered
      cases answered
    | error _ =>
      rw [decoded] at answered
      cases answered
      exact status_of_formOfBody decoded
  | progress id | results id => cases answered
  | exported id =>
    unfold Route.asked at answered
    cases named : ExportFormat.ofName? query.format with
    | none =>
      rw [named] at answered
      cases answered
      exact Or.inl rfl
    | some f =>
      rw [named] at answered
      cases answered

/-- What is answered at once has a status of a wrong request. -/
theorem status_of_asked (answered : c.asked = .error a) :
    a.status = 400 ∨ a.status = 404 ∨ a.status = 405 ∨ a.status = 422 := by
  unfold Call.asked at answered
  generalize Address.ofTarget c.target = address at answered
  cases leads : Route.ofPath address.path with
  | none =>
    simp only [leads] at answered
    cases answered
    exact Or.inr (Or.inl rfl)
  | some route =>
    simp only [leads] at answered
    by_cases method : c.method = route.method
    · rw [if_pos method] at answered
      rcases status_of_route answered with status | status
      · exact Or.inl status
      · exact Or.inr (Or.inr (Or.inr status))
    · rw [if_neg method] at answered
      cases answered
      exact Or.inr (Or.inr (Or.inl rfl))

theorem put_start_of_ok {request : ScanRequest} {after : Service T} {id : String}
    (starts : s.start now request = .ok (after, id)) :
    (Asked.start request).put s now = (after, .started (.ok id)) := by
  simp only [Asked.put, starts]

theorem put_start_of_error {request : ScanRequest} {e : StartFault}
    (fails : s.start now request = .error e) :
    (Asked.start request).put s now = (s, .started (.error e)) := by
  simp only [Asked.put, fails]

/-- What a question is told, or that there is no such scan, is what its look-up says. -/
theorem put_tell (s : Service T) (now : T) (id : String) (question : Service.Question) :
    (Asked.tell id question).put s now =
      ((s.session now id).1, .told ((s.session now id).2.map question.tell)) := by
  simp only [Asked.put, Service.answer_eq, Service.session, Registry.get_fst]

/-- A service has done what it was asked, and the answer shows its reply. -/
def Answers (q : Asked) (s : Service T) (now : T) (answered : Service T × Answer) : Prop :=
  answered.1 = (q.put s now).1 ∧ Shows q (q.put s now).2 answered.2

theorem startScan_answers (s : Service T) (now : T) (request : ScanRequest) :
    Answers (.start request) s now (startScan s now request) := by
  unfold Answers startScan
  cases starts : s.start now request with
  | ok started =>
    rw [put_start_of_ok starts]
    exact ⟨rfl, .started request started.2⟩
  | error e =>
    rw [put_start_of_error starts]
    cases e with
    | rejected e => exact ⟨rfl, .rejected request e⟩
    | timeless fault => exact ⟨rfl, .died request _ nofun⟩
    | unspeakable => exact ⟨rfl, .died request _ nofun⟩

theorem exportScan_answers (s : Service T) (now : T) (id : String) {format : String}
    {f : ExportFormat} (named : ExportFormat.ofName? format = some f) :
    Answers (.tell id (.exported f.name)) s now (exportScan s now id format) := by
  have written (rs : List Result) : Export.named rs f.name = .ok (Export.text rs f) := by
    cases f <;> rfl
  unfold Answers exportScan Service.ask
  rw [put_tell, named]
  cases found : (s.session now id).2 with
  | error e =>
    simp only [found, Except.map]
    exact ⟨trivial, .missing id _ e⟩
  | ok session =>
    simp only [found, Except.map, Service.Question.tell, written]
    exact ⟨trivial, .exported id f _⟩

theorem serve_of_error {query : Address} {body : Option String} {route : Route}
    (answered : route.asked query body = .error a) : serve s now query body route = (s, a) := by
  cases route with
  | scans =>
    unfold Route.asked at answered
    unfold serve
    cases decoded : formOfBody body with
    | ok f =>
      rw [decoded] at answered
      cases answered
    | error _ =>
      rw [decoded] at answered
      cases answered
      rfl
  | progress id | results id => cases answered
  | exported id =>
    unfold Route.asked at answered
    unfold serve exportScan
    rw [← Address.format]
    cases named : ExportFormat.ofName? query.format with
    | some f =>
      rw [named] at answered
      cases answered
    | none =>
      rw [named] at answered
      cases answered
      rfl

theorem serve_of_ok {query : Address} {body : Option String} {route : Route}
    (asks : route.asked query body = .ok q) :
    Answers q s now (serve s now query body route) := by
  cases route with
  | scans =>
    unfold Route.asked at asks
    unfold serve
    cases decoded : formOfBody body with
    | error _ =>
      rw [decoded] at asks
      cases asks
    | ok f =>
      rw [decoded] at asks
      cases asks
      exact startScan_answers s now f.request
  | progress id =>
    cases asks
    unfold Answers
    rw [put_tell]
    refine ⟨rfl, ?_⟩
    simp only [serve, Service.progress, Service.ask]
    cases (s.session now id).2 with
    | error e => exact .missing id .progress e
    | ok session => exact .progress id session.showProgress
  | results id =>
    cases asks
    unfold Answers
    rw [put_tell]
    refine ⟨rfl, ?_⟩
    simp only [serve, Service.report, Service.ask]
    cases (s.session now id).2 with
    | error e => exact .missing id .report e
    | ok session => exact .report id session.report
  | exported id =>
    unfold Route.asked at asks
    unfold serve
    rw [← Address.format]
    cases named : ExportFormat.ofName? query.format with
    | none =>
      rw [named] at asks
      cases asks
    | some f =>
      rw [named] at asks
      cases asks
      exact exportScan_answers s now id named

/-- A call that asks nothing changes nothing. -/
theorem respond_of_error (answered : c.asked = .error a) : respond s now c = (s, a) := by
  unfold Call.asked at answered
  unfold respond
  generalize Address.ofTarget c.target = address at answered ⊢
  cases leads : Route.ofPath address.path with
  | none =>
    simp only [leads] at answered ⊢
    cases answered
    rfl
  | some route =>
    simp only [leads] at answered ⊢
    by_cases method : c.method = route.method
    · rw [if_pos method] at answered ⊢
      exact serve_of_error answered
    · rw [if_neg method] at answered ⊢
      cases answered
      rfl

/-- A call that asks something has the service do that, and is shown its reply. -/
theorem respond_of_ok (asks : c.asked = .ok q) : Answers q s now (respond s now c) := by
  unfold Call.asked at asks
  unfold respond
  generalize Address.ofTarget c.target = address at asks ⊢
  cases leads : Route.ofPath address.path with
  | none =>
    simp only [leads] at asks
    cases asks
  | some route =>
    simp only [leads] at asks ⊢
    by_cases method : c.method = route.method
    · rw [if_pos method] at asks ⊢
      exact serve_of_ok asks
    · rw [if_neg method] at asks
      cases asks

end

end LeakScan.Web
