import LeakScan.Proofs.Service.Independence
import Mathlib.Data.List.Basic

/-!
# The progress that a scan shows

What a scan is to show is planned: of the items that it goes through, the one number `i` of `n`
shows the progress `low + ⌊width * i / n⌋` (`Progress.plan`). Such values never fall and stay below
`low + width`, so a session takes every announcement as it is made (`shownAfter_eq_map`). A scan of
uploaded files announces its plan. A scan of a repository does so as far as it comes: a file that
cannot be fetched is announced like any other, and only a file that brings a content without having
a text for a path stops the scan (`ofEntriesFrom_follows`).
-/

namespace LeakScan
set_option autoImplicit false

/-! ## Plans -/

namespace Progress

/-- What is to be shown of some items, each with a status and a file, one after another: of `n`
items the one number `i` has the progress `low + ⌊width * i / n⌋`. -/
def plan (low width : Nat) (items : List (String × Json)) : List Progress :=
  items.mapIdx fun i item => ⟨(low + width * i / items.length : Nat), item.1, item.2⟩

variable {low width : Nat} {items : List (String × Json)}

/-- Planned progress never falls. -/
theorem plan_rises : (plan low width items).Pairwise fun p q => p.progress ≤ q.progress := by
  rw [plan, List.pairwise_iff_getElem]
  intro i j _ _ before
  have share : width * i / items.length ≤ width * j / items.length :=
    Nat.div_le_div_right (Nat.mul_le_mul_left _ (Nat.le_of_lt before))
  simp only [List.getElem_mapIdx]
  omega

/-- Planned progress lies between the values that it starts from and leads to. -/
theorem plan_range (wide : 0 < width) :
    ∀ p ∈ plan low width items, low ≤ p.progress ∧ p.progress < low + width := by
  intro p planned
  obtain ⟨i, inside, rfl⟩ := List.mem_mapIdx.mp planned
  have share : width * i / items.length < width := by
    refine Nat.div_lt_of_lt_mul ?_
    rw [Nat.mul_comm]
    exact Nat.mul_lt_mul_of_pos_right inside wide
  generalize width * i / items.length = share at share ⊢
  simp only
  omega

end Progress

/-- What is to be shown of uploaded files. -/
def Upload.plan (files : List Upload) : List Progress :=
  Progress.plan 0 90 (files.map fun f => ("Scanning file: " ++ f.name, .str f.name))

/-- What is to be shown of the files of a repository. -/
def Entry.plan (entries : List Entry) : List Progress :=
  Progress.plan 10 80 (entries.map fun e => ("Scanning: " ++ e.path.plain, e.path))

/-! ## What a session shows of announcements -/

/-- An announcement as it is made. -/
def Announcement.shown (a : Announcement) : Progress := ⟨a.progress, a.status, a.file⟩

namespace Session

variable {T : Type} {s : Session T} {bound : Int}

theorem announce_of_going (going : s.isTerminal = false) (a : Announcement) :
    s.announce a =
      { s with phase := .running (max s.progress (min a.progress 99)) a.status a.file } := by
  rcases phase_of_going going with pending | ⟨_, _, _, running⟩
  · simp only [announce, advance, pending]
  · simp only [announce, advance, running]

/-- Announcements that do not fall and stay below a hundred are shown as they are made. -/
theorem shownAfter_eq_map {as : List Announcement} (going : s.isTerminal = false)
    (rises : (as.map Announcement.shown).Pairwise fun p q => p.progress ≤ q.progress)
    (range : ∀ p ∈ as.map Announcement.shown, s.progress ≤ p.progress ∧ p.progress < 100) :
    s.shownAfter as = as.map Announcement.shown := by
  induction as generalizing s with
  | nil => rfl
  | cons a as ih =>
    rw [List.map_cons] at rises range ⊢
    obtain ⟨rises, later⟩ := List.pairwise_cons.mp rises
    obtain ⟨⟨low, high⟩, others⟩ := List.forall_mem_cons.mp range
    have kept : max s.progress (min a.progress 99) = a.progress := by
      have low : s.progress ≤ a.progress := low
      have high : a.progress < 100 := high
      omega
    have taken := announce_of_going going a
    rw [kept] at taken
    rw [shownAfter, taken]
    refine congrArg (List.cons _) (ih rfl later fun p shown => ⟨rises p shown, ?_⟩)
    exact (others p shown).2

/-- As long as announcements are made, a session goes on below a bound that they keep below. -/
theorem progress_foldl_announce {as : List Announcement} (going : s.isTerminal = false)
    (start : s.progress < bound) (below : ∀ a ∈ as, a.progress < bound) :
    (as.foldl announce s).isTerminal = false ∧ (as.foldl announce s).progress < bound := by
  induction as generalizing s with
  | nil => exact ⟨going, start⟩
  | cons a as ih =>
    obtain ⟨first, others⟩ := List.forall_mem_cons.mp below
    rw [List.foldl_cons, announce_of_going going]
    refine ih rfl ?_ others
    show max s.progress (min a.progress 99) < bound
    omega

theorem progress_of_isTerminal (ended : s.isTerminal = true) : s.progress = 100 := by
  obtain ⟨id, kind, source, phase⟩ := s
  cases phase with
  | pending => cases ended
  | running => cases ended
  | complete => rfl
  | failed => rfl

end Session

/-- The state in which an ending leaves a session. -/
def Ending.state : Ending → ScanState
  | found .. => .complete
  | failed _ => .failed
  | unfinished => .running

theorem Ending.state_preceded (earlier : List Finding) (e : Ending) :
    (e.preceded earlier).state = e.state := by
  cases e <;> rfl

theorem Session.state_follow {T : Type} {s : Session T} (going : s.isTerminal = false) (now : T)
    {c : Course} (ended : c.ending.state.isTerminal = true) :
    (s.follow now c).state = c.ending.state := by
  cases ending : c.ending with
  | found fs files => rw [follow_found going now ending]; rfl
  | failed fault => rw [follow_failed going now ending]; rfl
  | unfinished => rw [ending] at ended; cases ended

/-! ## What a scan announces -/

/-- Whether a scan stops at a file: a content was fetched, and the path is no text. -/
def Fetch.stops (f : Fetch) : Bool :=
  match f.entry.path with
  | .str _ => false
  | _ => f.content?.isSome

theorem Fetch.stops_eq_false {f : Fetch} (contentless : f.content? = none) : f.stops = false := by
  rw [stops, contentless]
  split <;> rfl

/-- The attempts to fetch some files, one after another, from whatever they give for an address.
They are what a scan does as long as no file stops it. -/
def Client.attempts (client : Client) (host : Host) :
    (past : List Request) → List Entry → List Fetch
  | _, [] => []
  | past, e :: es =>
    if e.downloadUrl.isPresent then
      let request := client.fileRequest e.downloadUrl
      ⟨e, some (host past request)⟩ :: client.attempts host (past ++ [request]) es
    else ⟨e, none⟩ :: client.attempts host past es

/-- Every file has one attempt, in the order of the files. -/
theorem Client.map_entry_attempts (client : Client) (host : Host) (past : List Request)
    (entries : List Entry) : (client.attempts host past entries).map Fetch.entry = entries := by
  induction entries generalizing past with
  | nil => rfl
  | cons e entries ih =>
    rw [attempts]
    split <;> simp only [List.map_cons, ih]

theorem Client.length_attempts (client : Client) (host : Host) (past : List Request)
    (entries : List Entry) : (client.attempts host past entries).length = entries.length := by
  rw [← List.length_map Fetch.entry, map_entry_attempts]

/-- An attempt did not come to a failure that nobody expects. -/
def Fetch.Answered (f : Fetch) : Prop := ∀ kind message, f.reply ≠ some (.broken kind message)

theorem Fetch.answered_of_stops {f : Fetch} (stops : f.stops = true) : f.Answered := by
  rintro kind message broken
  have contentless : f.content? = none := by rw [content?, broken]
  rw [stops_eq_false contentless] at stops
  cases stops

namespace Course

/-- Behind the first item, numbers that start at `i` start at `i + 1`. -/
theorem mapIdx_add_cons {α β : Type} (g : Nat → α → β) (i : Nat) (a : α) (as : List α) :
    ((a :: as).mapIdx fun j b => g (i + j) b) =
      g i a :: as.mapIdx fun j b => g (i + 1 + j) b := by
  rw [List.mapIdx_cons]
  simp only [Nat.add_zero, Nat.add_assoc, Nat.add_comm 1]

/-- Every uploaded file is announced. -/
theorem ofUploadsFrom_announced (total i : Nat) {files : List Upload}
    (scannable : ∀ f ∈ files, f.content ≠ .absent) :
    (ofUploadsFrom total i files).announced =
      files.mapIdx fun j f => uploadAnnouncement total (i + j) f.name := by
  induction files generalizing i with
  | nil => rfl
  | cons f files ih =>
    obtain ⟨first, others⟩ := List.forall_mem_cons.mp scannable
    have rest : (ofUploadsFrom total i (f :: files)).announced =
        uploadAnnouncement total i f.name :: (ofUploadsFrom total (i + 1) files).announced := by
      obtain ⟨name, content⟩ := f
      cases content with
      | text s => rfl
      | bytes b =>
        cases decoded : Text.Utf8.decode b <;>
          simp only [ofUploadsFrom, announcing, finding, warning, decoded]
      | absent => exact absurd rfl first
    rw [rest, ih _ others, mapIdx_add_cons fun j (f : Upload) => uploadAnnouncement total j f.name]

variable {host : Host} {client : Client}

/-- A file is announced, and the course goes on after it unless the file stops it. -/
theorem ofEntriesFrom_attempt (total i : Nat) (past : List Request) (e : Entry)
    (entries : List Entry) :
    ∃ reply later, client.attempts host past (e :: entries) =
        ⟨e, reply⟩ :: client.attempts host later entries ∧
      (Fetch.Answered ⟨e, reply⟩ →
        let c := ofEntriesFrom host client total past i (e :: entries)
        let rest := ofEntriesFrom host client total later (i + 1) entries
        (Fetch.stops ⟨e, reply⟩ = false →
          c.announced = entryAnnouncement total i e.path :: rest.announced ∧
            c.ending.state = rest.ending.state) ∧
        (Fetch.stops ⟨e, reply⟩ = true →
          c.announced = [entryAnnouncement total i e.path] ∧ c.ending.state = .failed)) := by
  by_cases present : e.downloadUrl.isPresent = true
  · refine ⟨_, past ++ [client.fileRequest e.downloadUrl], by rw [Client.attempts, if_pos present],
      ?_⟩
    simp only [ofEntriesFrom, present, Bool.not_true, Bool.false_eq_true, if_false]
    generalize host past (client.fileRequest e.downloadUrl) = reply
    intro answered
    cases content : (⟨e, some reply⟩ : Fetch).content? with
    | none =>
      have goesOn := Fetch.stops_eq_false content
      refine ⟨fun _ => ?_, fun stops => absurd (goesOn.symm.trans stops) Bool.false_ne_true⟩
      cases reply with
      | unreachable message => exact ⟨rfl, rfl⟩
      | broken kind message => exact absurd rfl (answered kind message)
      | response status body =>
        by_cases fine : isOk status = true
        · have empty : body = "" := by simpa [Fetch.content?, fine] using content
          simp [Client.contentOf, fine, empty, announcing, requesting]
        · simp [Client.contentOf, fine, announcing, requesting, warning]
    | some body =>
      obtain ⟨status, response, fine, some⟩ := Fetch.content?_eq_some_iff.mp content
      cases response
      cases path : e.path with
      | str path =>
        simp [Client.contentOf, fine, some, path, announcing, requesting, finding, Fetch.stops,
          Ending.state_preceded]
      | _ =>
        simp [Client.contentOf, fine, some, path, announcing, requesting, Fetch.stops, content,
          stopped, Ending.state]
  · have goesOn : Fetch.stops ⟨e, none⟩ = false := Fetch.stops_eq_false rfl
    refine ⟨none, past, by rw [Client.attempts, if_neg present], fun _ => ⟨fun _ => ?_, ?_⟩⟩
    · simp [ofEntriesFrom, present, announcing]
    · exact fun stops => absurd (goesOn.symm.trans stops) Bool.false_ne_true

/-- The files of a repository are announced up to the first that stops the scan, and only that makes
it fail. -/
theorem ofEntriesFrom_follows (total i : Nat) (past : List Request) {entries : List Entry}
    (answered : let attempts := client.attempts host past entries
      ∀ f ∈ attempts.take (attempts.findIdx Fetch.stops + 1), f.Answered) :
    let c := ofEntriesFrom host client total past i entries
    let attempts := client.attempts host past entries
    c.announced = (entries.mapIdx fun j e => entryAnnouncement total (i + j) e.path).take
        (attempts.findIdx Fetch.stops + 1) ∧
      c.ending.state = if attempts.any Fetch.stops then .failed else .complete := by
  induction entries generalizing i past with
  | nil => exact ⟨rfl, rfl⟩
  | cons e entries ih =>
    obtain ⟨reply, later, attempts, course⟩ :=
      @ofEntriesFrom_attempt host client total i past e entries
    simp only [attempts, List.take_succ_cons, List.forall_mem_cons] at answered
    obtain ⟨first, others⟩ := answered
    obtain ⟨goesOn, breaksOff⟩ := course first
    intro c attempts'
    rw [show attempts' = _ from attempts, List.findIdx_cons, List.any_cons,
      mapIdx_add_cons fun j (e : Entry) => entryAnnouncement total j e.path]
    cases stops : Fetch.stops ⟨e, reply⟩ with
    | false =>
      rw [List.findIdx_cons, stops] at others
      obtain ⟨announced, state⟩ := ih (i + 1) later others
      obtain ⟨announced', state'⟩ := goesOn stops
      exact ⟨by rw [announced', announced]; rfl, by rw [state', state]; rfl⟩
    | true =>
      obtain ⟨announced', state'⟩ := breaksOff stops
      exact ⟨by rw [announced']; rfl, by rw [state']; rfl⟩

theorem shown_uploadAnnouncements (files : List Upload) :
    (files.mapIdx fun j f => uploadAnnouncement files.length (0 + j) f.name).map
        Announcement.shown = Upload.plan files := by
  refine List.ext_getElem (by simp [Upload.plan, Progress.plan]) fun j _ _ => ?_
  simp [Upload.plan, Progress.plan, uploadAnnouncement, Announcement.shown, scanningShare,
    Nat.mul_comm]

theorem shown_entryAnnouncements (entries : List Entry) :
    (entries.mapIdx fun j e => entryAnnouncement entries.length (0 + j) e.path).map
        Announcement.shown = Entry.plan entries := by
  refine List.ext_getElem (by simp [Entry.plan, Progress.plan]) fun j _ _ => ?_
  simp [Entry.plan, Progress.plan, entryAnnouncement, Announcement.shown, scanningShare,
    discoveryShare, Nat.mul_comm]

/-- A scan of uploaded files announces what is planned and completes. -/
theorem ofUploads_follows {files : List Upload} (scannable : ∀ f ∈ files, f.content ≠ .absent) :
    (ofUploads files).announced.map Announcement.shown = Upload.plan files ∧
      (ofUploads files).ending.state = .complete := by
  constructor
  · rw [ofUploads, ofUploadsFrom_announced _ _ scannable, shown_uploadAnnouncements]
  · rw [ofUploads, (ofUploadsFrom_eq _ _ scannable).2.2]
    rfl

/-- A scan of a repository announces what is planned for the files that were collected, as far as it
comes. -/
theorem ofRepository_follows {past : List Request} {repo : RepoRef} {cap : Int} {listings : Nat}
    {walk : Walk} {entries : List Entry}
    (walked : client.collect host past repo.owner repo.name cap listings = some walk)
    (collected : walk.outcome = .ok entries) (nonempty : entries ≠ [])
    (answered : let attempts := client.attempts host (past ++ walk.requests) entries
      ∀ f ∈ attempts.take (attempts.findIdx Fetch.stops + 1), f.Answered) :
    let c := ofRepository host client past repo cap listings
    let attempts := client.attempts host (past ++ walk.requests) entries
    c.announced.map Announcement.shown = ⟨10, "Fetching repository contents...", .null⟩ ::
        (Entry.plan entries).take (attempts.findIdx Fetch.stops + 1) ∧
      c.ending.state = if attempts.any Fetch.stops then .failed else .complete := by
  obtain ⟨e, es, rfl⟩ := List.exists_cons_of_ne_nil nonempty
  obtain ⟨announced, state⟩ := ofEntriesFrom_follows (e :: es).length 0 _ answered
  have planned := congrArg (List.map Announcement.shown) announced
  rw [List.map_take, shown_entryAnnouncements] at planned
  intro c attempts
  have announced' : c.announced = discovery ::
      (ofEntriesFrom host client (e :: es).length (past ++ walk.requests) 0
        (e :: es)).announced := by
    simp only [c, ofRepository, walked, collected]
    rfl
  constructor
  · rw [announced', List.map_cons, planned]
    rfl
  · have ending : c.ending = _ := ofRepository_ending walked
    rw [ending, collected]
    exact state

end Course

/-! ## What is shown of a run -/

namespace Service

variable {T : Type} {s : Service T} {index : Nat} {session : Session T} {task : Task}

/-- The job at a place of the queue is a task of the pending session that its identifier stands
for. -/
structure Due (s : Service T) (index : Nat) (session : Session T) (task : Task) : Prop where
  queued : s.queue[index]? = some ⟨session.id, task⟩
  known : s.sessions.get? session.id = some session
  pending : session.phase = .pending

/-- A scan that was accepted is due if its identifier is new. -/
theorem enqueue_due [Time T] {id : String} (fresh : s.sessions.get? id = none) (now : T)
    (task : Task) :
    (s.enqueue now id task).Due s.queue.length (.create id task.kind task.source) task where
  queued := (enqueue_awaits s now id task).queued
  known := @Sessions.get?_append_self T s.sessions (.create id task.kind task.source) fresh
  pending := rfl

/-- A job of a pending session of its own is due. -/
theorem Ready.due (ready : s.Ready) {job : Job} (queued : s.queue[index]? = some job) :
    ∃ session, session.id = job.session ∧ s.Due index session job.task := by
  obtain ⟨session, known, pending⟩ := ready.pending job (List.mem_of_getElem? queued)
  obtain ⟨-, own⟩ := Sessions.mem_of_get? known
  exact ⟨session, own, by rw [own]; exact queued, by rw [own]; exact known, pending⟩

/-- The course of the task that is due. -/
def courseOf (s : Service T) (host : Host) (listings : Nat) (task : Task) : Course :=
  .ofTask host s.client s.requests listings task

theorem run_due (due : s.Due index session task) (host : Host) (now : T) (listings : Nat) :
    (s.run host now listings index).2.shown =
        session.shownAfter (s.courseOf host listings task).announced ∧
      (s.run host now listings index).1.sessions.get? session.id =
        some (session.follow now (s.courseOf host listings task)) := by
  have run : s.run host now listings index =
      { s with queue := s.queue.eraseIdx index }.runJob host now listings ⟨session.id, task⟩ := by
    simp only [Service.run, due.queued]
  rw [run]
  simp only [runJob, due.known]
  refine ⟨rfl, ?_⟩
  rw [Sessions.get?_modify (fun s => Session.id_follow s now _), due.known]
  simp [courseOf]

/-- A run shows what was planned, from `low` on and below ninety, and comes to an end. -/
structure Shows (s : Service T) (host : Host) (now : T) (listings index : Nat)
    (session : Session T) (task : Task) (low : Int) (plan : List Progress) (final : ScanState) :
    Prop where
  shown : (s.run host now listings index).2.shown = plan
  /-- What is shown is what was announced. -/
  unaltered : (s.courseOf host listings task).announced.map Announcement.shown = plan
  rises : plan.Pairwise fun p q => p.progress ≤ q.progress
  range : ∀ p ∈ plan, low ≤ p.progress ∧ p.progress < 90
  /-- However many announcements were made, the session goes on. -/
  goesOn : ∀ n, let current :=
      ((s.courseOf host listings task).announced.take n).foldl Session.announce session
    current.isTerminal = false ∧ current.progress < 90
  ends : ∃ ended, (s.run host now listings index).1.sessions.get? session.id = some ended ∧
    ended.state = final ∧ ended.isTerminal = true ∧ ended.progress = 100

/-- A run whose course announces rising values below ninety shows them all. -/
theorem shows_of_announced (due : s.Due index session task) {host : Host} (now : T)
    {listings : Nat} {low : Int} (nonneg : 0 ≤ low) {plan : List Progress} {final : ScanState}
    (announced : (s.courseOf host listings task).announced.map Announcement.shown = plan)
    (rises : plan.Pairwise fun p q => p.progress ≤ q.progress)
    (range : ∀ p ∈ plan, low ≤ p.progress ∧ p.progress < 90)
    (state : (s.courseOf host listings task).ending.state = final)
    (ends : final.isTerminal = true) :
    s.Shows host now listings index session task low plan final := by
  have going : session.isTerminal = false := by
    rw [Session.isTerminal, Session.state, due.pending]
    rfl
  have start : session.progress = 0 := by rw [Session.progress, due.pending]
  obtain ⟨shown, known⟩ := run_due due host now listings
  have final' := Session.state_follow going now (state.symm ▸ ends)
  have ended : (session.follow now (s.courseOf host listings task)).isTerminal = true := by
    rw [Session.isTerminal, final', state, ends]
  refine ⟨?_, announced, rises, range, ?_, _, known, final'.trans state, ended,
    Session.progress_of_isTerminal ended⟩
  · rw [shown, Session.shownAfter_eq_map going (announced.symm ▸ rises), announced]
    intro p planned
    obtain ⟨above, below⟩ := range p (announced ▸ planned)
    omega
  · intro n
    refine Session.progress_foldl_announce going (by omega) fun a taken => ?_
    have planned : a.shown ∈ plan := by
      rw [← announced]
      exact List.mem_map_of_mem (List.mem_of_mem_take taken)
    exact (range _ planned).2

section

variable {repo : RepoRef} {cap : Int} {host : Host} {listings : Nat} {walk : Walk}
  {entries : List Entry}

/-- What is shown of a scan of a repository with files is what is planned, up to the first file that
stops it. -/
theorem repository_shows (due : s.Due index session (.repository repo cap)) (now : T)
    (walked : s.client.collect host s.requests repo.owner repo.name cap listings = some walk)
    (collected : walk.outcome = .ok entries) (nonempty : entries ≠ [])
    (answered : let attempts := s.client.attempts host (s.requests ++ walk.requests) entries
      ∀ f ∈ attempts.take (attempts.findIdx Fetch.stops + 1), f.Answered) :
    let attempts := s.client.attempts host (s.requests ++ walk.requests) entries
    s.Shows host now listings index session (.repository repo cap) 10
      (⟨10, "Fetching repository contents...", .null⟩ ::
        (Entry.plan entries).take (attempts.findIdx Fetch.stops + 1))
      (if attempts.any Fetch.stops then .failed else .complete) := by
  intro attempts
  obtain ⟨announced, state⟩ := Course.ofRepository_follows walked collected nonempty answered
  have range : ∀ p ∈ (Entry.plan entries).take (attempts.findIdx Fetch.stops + 1),
      10 ≤ p.progress ∧ p.progress < 90 :=
    fun p taken => Progress.plan_range (by decide) p (List.mem_of_mem_take taken)
  refine shows_of_announced due now (by decide) announced ?_ ?_ state (by split <;> rfl)
  · refine List.pairwise_cons.mpr ⟨fun p taken => (range p taken).1, ?_⟩
    exact Progress.plan_rises.sublist (List.take_sublist _ _)
  · exact List.forall_mem_cons.mpr ⟨by decide, range⟩

/-- A scan that no file stops shows all of its files. -/
theorem repository_shows_all (due : s.Due index session (.repository repo cap)) (now : T)
    (walked : s.client.collect host s.requests repo.owner repo.name cap listings = some walk)
    (collected : walk.outcome = .ok entries) (nonempty : entries ≠ [])
    (goesOn : ∀ f ∈ s.client.attempts host (s.requests ++ walk.requests) entries,
      f.Answered ∧ f.stops = false) :
    s.Shows host now listings index session (.repository repo cap) 10
      (⟨10, "Fetching repository contents...", .null⟩ :: Entry.plan entries) .complete := by
  have shows := repository_shows due now walked collected nonempty
    fun f taken => (goesOn f (List.mem_of_mem_take taken)).1
  have none : (s.client.attempts host (s.requests ++ walk.requests) entries).any Fetch.stops =
      false := by
    rw [List.any_eq_false]
    exact fun f attempted stops => absurd ((goesOn f attempted).2.symm.trans stops)
      Bool.false_ne_true
  have last : (s.client.attempts host (s.requests ++ walk.requests) entries).findIdx Fetch.stops =
      (Entry.plan entries).length := by
    rw [List.findIdx_eq_length_of_false fun f attempted => (goesOn f attempted).2,
      Client.length_attempts]
    simp [Entry.plan, Progress.plan]
  have whole := List.take_of_length_le (Nat.le_succ (Entry.plan entries).length)
  simpa only [none, last, whole, Bool.false_eq_true, if_false] using shows

/-- A scan that a file stops shows its files up to that one, and fails. -/
theorem repository_shows_until (due : s.Due index session (.repository repo cap)) (now : T)
    (walked : s.client.collect host s.requests repo.owner repo.name cap listings = some walk)
    (collected : walk.outcome = .ok entries) (nonempty : entries ≠ []) {before after : List Fetch}
    {f : Fetch}
    (split : s.client.attempts host (s.requests ++ walk.requests) entries = before ++ f :: after)
    (goesOn : ∀ g ∈ before, g.Answered ∧ g.stops = false) (stops : f.stops = true) :
    s.Shows host now listings index session (.repository repo cap) 10
      (⟨10, "Fetching repository contents...", .null⟩ ::
        (Entry.plan entries).take (before.length + 1)) .failed := by
  have some : (before ++ f :: after).any Fetch.stops = true := by
    rw [List.any_append, List.any_cons, stops, Bool.true_or, Bool.or_true]
  have first : (before ++ f :: after).findIdx Fetch.stops = before.length := by
    rw [List.findIdx_append,
      List.findIdx_eq_length_of_false fun g earlier => (goesOn g earlier).2]
    simp [List.findIdx_cons, stops]
  have tried : (before ++ f :: after).take (before.length + 1) = before ++ [f] := by
    rw [List.take_append, List.take_of_length_le (Nat.le_succ _), Nat.add_sub_cancel_left]
    rfl
  have shows := repository_shows due now walked collected nonempty
  simp only [split, first, some, tried, if_true] at shows
  refine shows fun g attempted => ?_
  rcases List.mem_append.mp attempted with earlier | last
  · exact (goesOn g earlier).1
  · rw [List.mem_singleton.mp last]
    exact Fetch.answered_of_stops stops

end

/-- **The progress shown follows the plan.** A scan of `n` uploaded files, each a text or bytes,
shows the file number `i` with the progress `⌊90 * i / n⌋`. A scan of a repository of which `n`
files were collected shows ten and then the file number `i` with `10 + ⌊80 * i / n⌋`, whether or not
it can be fetched; it does so for all of them unless one brings a content without a text for a path,
and then up to the first that does, where it fails. -/
theorem progress_follows_plan (s : Service T) (host : Host) (now : T) (listings : Nat) :
    (∀ index job, s.Ready → s.queue[index]? = some job →
      ∃ session, session.id = job.session ∧ s.Due index session job.task) ∧
    (∀ index session files, s.Due index session (.upload files) →
      (∀ f ∈ files, f.content ≠ .absent) →
      s.Shows host now listings index session (.upload files) 0 (Upload.plan files) .complete) ∧
    ∀ index session repo cap walk entries, s.Due index session (.repository repo cap) →
      s.client.collect host s.requests repo.owner repo.name cap listings = some walk →
      walk.outcome = .ok entries → entries ≠ [] →
      let attempts := s.client.attempts host (s.requests ++ walk.requests) entries
      let discovery : Progress := ⟨10, "Fetching repository contents...", .null⟩
      ((∀ f ∈ attempts, f.Answered ∧ f.stops = false) →
        s.Shows host now listings index session (.repository repo cap) 10
          (discovery :: Entry.plan entries) .complete) ∧
      ∀ before f after, attempts = before ++ f :: after →
        (∀ g ∈ before, g.Answered ∧ g.stops = false) → f.stops = true →
        s.Shows host now listings index session (.repository repo cap) 10
          (discovery :: (Entry.plan entries).take (before.length + 1)) .failed := by
  refine ⟨fun index job ready queued => ready.due queued, ?_, ?_⟩
  · intro index session files due scannable
    obtain ⟨announced, state⟩ := Course.ofUploads_follows scannable
    exact shows_of_announced due now (Int.le_refl 0) announced Progress.plan_rises
      (Progress.plan_range (by decide)) state rfl
  · intro index session repo cap walk entries due walked collected nonempty attempts discovery
    refine ⟨repository_shows_all due now walked collected nonempty, ?_⟩
    intro before f after split goesOn stops
    exact repository_shows_until due now walked collected nonempty split goesOn stops

/-- A text, bytes that are none, and an empty text. -/
def mixedBatch : List Upload :=
  [⟨".env", .text "b"⟩, ⟨"x.bin", .bytes ⟨#[0xff]⟩⟩, ⟨"a.py", .text ""⟩]

/-- Three uploaded files, and three files of a repository of which two cannot be had. -/
theorem progress_follows_plan_mixed :
    let host := serving mixedListing.indented mixedReply
    let s := create 50 publicClient (0 : Rat) none []
    (∃ accepted, s.start 0 (.upload mixedBatch) = .ok (accepted, scanId 0 1) ∧
      (accepted.run host 0 0 0).2.shown.map Progress.progress = [0, 30, 60]) ∧
    ∃ accepted, s.start 0 (.repository "o/r" none) = .ok (accepted, scanId 0 1) ∧
      (accepted.run host 0 2 0).2.shown.map Progress.progress = [10, 10, 36, 63] := by
  intro host s
  constructor
  · refine ⟨_, start_eq rfl (nextId_zero 50 publicClient), ?_⟩
    obtain ⟨-, uploads, -⟩ :=
      progress_follows_plan (s.enqueue 0 (scanId 0 1) (.upload mixedBatch)) host 0 0
    have shows := uploads 0 _ mixedBatch (enqueue_due rfl 0 (.upload mixedBatch)) ?_
    · rw [shows.shown]
      rfl
    · simp [mixedBatch]
  · have asked : Task.ofRequest s.limit (.repository "o/r" none) =
        .ok (.repository ⟨"o", "r"⟩ 50) := rfl
    refine ⟨_, start_eq asked (nextId_zero 50 publicClient), ?_⟩
    obtain ⟨-, -, repositories⟩ :=
      progress_follows_plan (s.enqueue 0 (scanId 0 1) (.repository ⟨"o", "r"⟩ 50)) host 0 2
    obtain ⟨all, -⟩ := repositories 0 _ ⟨"o", "r"⟩ 50 _ _
      (enqueue_due rfl 0 (.repository ⟨"o", "r"⟩ 50)) collect_mixedListing rfl nofun
    have attempted (past : List Request) :
        publicClient.attempts host past ((Entry.ofListing mixedListing).drop 1) =
          [⟨.ofFields (itemFields "a.py" "file" (.str "x/a")), some (.unreachable "down")⟩,
            ⟨.ofFields (itemFields "b.py" "file" .null), none⟩,
            ⟨.ofFields (itemFields ".env" "file" (.str "x/env")), some (.response 200 "b")⟩] := rfl
    have shows := all fun f tried => by
      rw [show (s.enqueue 0 (scanId 0 1) _).client = publicClient from rfl, attempted] at tried
      revert f
      simp only [List.forall_mem_cons]
      exact ⟨⟨nofun, rfl⟩, ⟨nofun, rfl⟩, ⟨nofun, rfl⟩, nofun⟩
    rw [shows.shown]
    rfl

/-- Two files that can be had, the first of which names no path. -/
def nullPathListing : Json :=
  .arr [.obj [("name", .str "a.py"), ("path", .null), ("type", .str "file"),
      ("download_url", .str "x/a")],
    .obj (itemFields "b.py" "file" (.str "x/b"))]

theorem listingOf_nullPathListing :
    Client.listingOf (.response 200 nullPathListing.indented) =
      .ok (Entry.ofListing nullPathListing) := by
  have first : Json.Readable (Json.maxNesting - 1) (.obj [("name", .str "a.py"), ("path", .null),
      ("type", .str "file"), ("download_url", .str "x/a")]) := by
    refine @Json.Readable.obj (Json.maxNesting - 2) _ (by simp) (by simp) ?_
    simp only [List.forall_mem_cons]
    exact ⟨.str _, .null, .str _, .str _, nofun⟩
  have readable : Json.Readable Json.maxNesting nullPathListing := by
    refine @Json.Readable.arr (Json.maxNesting - 1) _ ?_
    simp only [List.forall_mem_cons]
    exact ⟨first, readable_itemFields _ _ (.str _), nofun⟩
  exact listingOf_indented readable

theorem collect_nullPathListing (other : String → Reply) :
    publicClient.collect (serving nullPathListing.indented other) [] "o" "r" 50 1 =
      some ⟨[publicClient.listingRequest "o" "r" (.str "")], [],
        .ok (Entry.ofListing nullPathListing)⟩ := by
  have root (past : List Request) : Client.listingOf (serving nullPathListing.indented other past
      (publicClient.listingRequest "o" "r" (.str ""))) = .ok (Entry.ofListing nullPathListing) :=
    listingOf_nullPathListing
  have taken : Walk.takeEntries 50 [] [] (Entry.ofListing nullPathListing) =
      .ok (Entry.ofListing nullPathListing, []) := rfl
  rw [Client.collect, Walk.explore_of_listing (by decide) (root _) taken, Walk.explore]
  rfl

/-- A scan fails at the first of its two files, and the second is never shown. -/
theorem progress_stops_nullPath :
    let host := serving nullPathListing.indented fun _ => .response 200 "b"
    host.Answers ∧
      ∃ accepted, (create 50 publicClient (0 : Rat) none []).start 0 (.repository "o/r" none) =
          .ok (accepted, scanId 0 1) ∧
        ∃ walk entries, accepted.client.collect host accepted.requests "o" "r" 50 1 = some walk ∧
          walk.outcome = .ok entries ∧ entries.length = 2 ∧
          (Entry.plan entries).map Progress.progress = [10, 50] ∧
          (accepted.run host 0 1 0).2.shown.map Progress.progress = [10, 10] ∧
          (accepted.run host 0 1 0).2.shown.map Progress.progress ≠
            10 :: (Entry.plan entries).map Progress.progress ∧
          ∃ ended, (accepted.run host 0 1 0).1.sessions.get? (scanId 0 1) = some ended ∧
            ended.state = .failed := by
  intro host
  have answers : host.Answers := by
    intro past request kind message broken
    simp only [host, serving] at broken
    split at broken
    · split at broken <;> cases broken
    · cases broken
  have asked : Task.ofRequest (create 50 publicClient (0 : Rat) none []).limit
      (.repository "o/r" none) = .ok (.repository ⟨"o", "r"⟩ 50) := rfl
  have attempted (past : List Request) :
      publicClient.attempts host past (Entry.ofListing nullPathListing) =
        [] ++ ⟨⟨.str "a.py", .null, .str "file", .str "x/a"⟩, some (.response 200 "b")⟩ ::
          [⟨.ofFields (itemFields "b.py" "file" (.str "x/b")), some (.response 200 "b")⟩] := rfl
  have fresh : (create 50 publicClient (0 : Rat) none []).sessions.get? (scanId 0 1) = none := rfl
  have due := enqueue_due fresh 0 (.repository ⟨"o", "r"⟩ 50)
  have shows := repository_shows_until due 0 (collect_nullPathListing _) rfl
    (List.cons_ne_nil _ _) (attempted _) (List.forall_mem_nil _) rfl
  obtain ⟨ended, known, state, -⟩ := shows.ends
  have shown := congrArg (List.map Progress.progress) shows.shown
  have planned : (Entry.plan (Entry.ofListing nullPathListing)).map Progress.progress =
      [10, 50] := rfl
  refine ⟨answers, _, start_eq asked (nextId_zero 50 publicClient), _, _,
    collect_nullPathListing _, rfl, rfl, planned, shown, ?_, ended, known, state⟩
  intro same
  have lengths : 2 = 3 := congrArg List.length (shown.symm.trans same)
  cases lengths

end Service
end LeakScan
