import LeakScan.Proofs.Repository.Walk
import LeakScan.Service.Course

/-!
# Fetching the files of a repository

The files that a walk collected are fetched one after another. What a file adds is decided by the
reply to its request alone (`Fetch.findings`): a file that has no address, that cannot be had or
that is empty adds nothing. A course goes on after each of them (`ofEntriesFrom_cons`), so it ends
with what is found in the others (`ofEntriesFrom_ending`).
-/

namespace LeakScan
set_option autoImplicit false

/-- Where the content of a file stands: at an address that is not empty. -/
def Entry.address? (e : Entry) : Option Text.Loose :=
  match e.downloadUrl with
  | .str s => if s = .whole "" then none else some s
  | _ => none

/-- A file of a repository, with the reply to the request for its content if there was one. -/
structure Fetch where
  entry : Entry
  reply : Option Reply

namespace Fetch

/-- The content that was fetched: it comes with a response that is what was asked for, and is not
empty. -/
def content? (f : Fetch) : Option String :=
  match f.reply with
  | some (.response status body) => if isOk status ∧ body ≠ "" then some body else none
  | _ => none

theorem content?_eq_some_iff {f : Fetch} {body : String} :
    f.content? = some body ↔
      ∃ status, f.reply = some (.response status body) ∧ isOk status = true ∧ body ≠ "" := by
  obtain ⟨entry, reply⟩ := f
  match reply with
  | none => simp [content?]
  | some (.unreachable message) => simp [content?]
  | some (.broken kind message) => simp [content?]
  | some (.response status other) =>
    simp only [content?, Option.ite_none_right_eq_some, Option.some.injEq, Reply.response.injEq]
    constructor
    · rintro ⟨fine, rfl⟩
      exact ⟨status, ⟨rfl, rfl⟩, fine⟩
    · rintro ⟨_, ⟨rfl, rfl⟩, fine⟩
      exact ⟨fine, rfl⟩

/-- What a scan finds in a file of a repository: nothing without a content. -/
def findings (f : Fetch) : List Finding :=
  match f.content? with
  | some body => scanContent f.entry.path.plain body
  | none => []

theorem findings_eq_scanContent {f : Fetch} {body : String} (content : f.content? = some body) :
    f.findings = scanContent f.entry.path.plain body := by
  rw [findings, content]

theorem findings_eq_nil {f : Fetch} (contentless : f.content? = none) : f.findings = [] := by
  rw [findings, contentless]

end Fetch

/-- The fetches of some files, one after another; a file without an address is not asked for. -/
def Client.fetches (client : Client) (host : Host) : (past : List Request) → List Entry → List Fetch
  | _, [] => []
  | past, e :: es =>
    match e.address? with
    | none => ⟨e, none⟩ :: client.fetches host past es
    | some url =>
      let request := client.fileRequest (.str url)
      ⟨e, some (host past request)⟩ :: client.fetches host (past ++ [request]) es

/-- What a file says of its address counts as present if and only if it is an address. -/
theorem Entry.address?_cases {e : Entry} (typed : e.Typed) :
    (e.address? = none ∧ e.downloadUrl.isPresent = false) ∨
      ∃ url, e.address? = some url ∧ e.downloadUrl = .str url ∧
        (Json.str url).isPresent = true := by
  rw [address?]
  rcases typed.address with missing | ⟨url, given⟩
  · rw [missing]
    exact Or.inl ⟨rfl, rfl⟩
  · rw [given]
    by_cases empty : url = .whole ""
    · exact Or.inl ⟨if_pos empty, by rw [empty]; rfl⟩
    · exact Or.inr ⟨url, if_neg empty, rfl, bne_iff_ne.mpr empty⟩

namespace Course

variable {host : Host} {client : Client}

/-- One file adds its findings. -/
theorem ofEntriesFrom_cons (answers : host.Answers) {e : Entry} (typed : e.Typed)
    (total i : Nat) (past : List Request) (entries : List Entry) :
    ∃ reply later, client.fetches host past (e :: entries) =
        ⟨e, reply⟩ :: client.fetches host later entries ∧
      (ofEntriesFrom host client total past i (e :: entries)).ending =
        (ofEntriesFrom host client total later (i + 1) entries).ending.preceded
          (Fetch.findings ⟨e, reply⟩) := by
  obtain ⟨path, named⟩ := typed.path
  rcases Entry.address?_cases typed with ⟨none, absent⟩ | ⟨url, some, given, present⟩
  · refine ⟨_, past, by rw [Client.fetches, none], ?_⟩
    simp [ofEntriesFrom, absent, Fetch.findings, Fetch.content?]
  · refine ⟨_, past ++ [client.fileRequest (.str url)], by rw [Client.fetches, some], ?_⟩
    simp only [ofEntriesFrom, given, present, ending_announcing, Bool.not_true,
      Bool.false_eq_true, if_false, ending_requesting]
    -- The rest of the course is the same for every reply; only the findings differ.
    have expected := answers past (client.fileRequest (.str url))
    generalize host past (client.fileRequest (.str url)) = reply at expected ⊢
    cases reply with
    | unreachable message => simp [Client.contentOf, Fetch.findings, Fetch.content?]
    | broken kind message => exact absurd rfl (expected kind message)
    | response status body =>
      by_cases fine : isOk status = true
      · by_cases empty : body = ""
        · simp [Client.contentOf, Fetch.findings, Fetch.content?, fine, empty]
        · simp [Client.contentOf, Fetch.findings, Fetch.content?, fine, empty, named, Json.plain]
      · simp [Client.contentOf, Fetch.findings, Fetch.content?, fine]

/-- A course of collected files ends with the findings in those that could be fetched. -/
theorem ofEntriesFrom_ending (answers : host.Answers) {entries : List Entry}
    (typed : ∀ e ∈ entries, e.Typed) (total i : Nat) (past : List Request) :
    (ofEntriesFrom host client total past i entries).ending =
      .found ((client.fetches host past entries).flatMap Fetch.findings) total := by
  induction entries generalizing i past with
  | nil => rfl
  | cons e entries ih =>
    obtain ⟨first, others⟩ := List.forall_mem_cons.mp typed
    obtain ⟨reply, later, fetched, ending⟩ :=
      ofEntriesFrom_cons answers first total i past entries
    rw [fetched, ending, ih others, List.flatMap_cons]
    rfl

/-- What a scan does after a walk depends on what the walk came to. -/
theorem ofRepository_ending {past : List Request} {repo : RepoRef} {cap : Int} {listings : Nat}
    {walk : Walk}
    (walked : client.collect host past repo.owner repo.name cap listings = some walk) :
    (ofRepository host client past repo cap listings).ending =
      match walk.outcome with
      | .error fault => .failed fault
      | .ok [] => .failed (.repository .nothingToScan)
      | .ok (e :: es) =>
        (ofEntriesFrom host client (es.length + 1) (past ++ walk.requests) 0 (e :: es)).ending := by
  simp only [ofRepository, walked]
  rcases walk.outcome with fault | (_ | ⟨e, es⟩) <;> rfl

end Course

/-- Every file has one fetch, in the order of the files. -/
theorem Client.map_entry_fetches (client : Client) (host : Host) (past : List Request)
    (entries : List Entry) : (client.fetches host past entries).map Fetch.entry = entries := by
  induction entries generalizing past with
  | nil => rfl
  | cons e entries ih =>
    rw [fetches]
    split <;> simp only [List.map_cons, ih]

theorem Client.length_fetches (client : Client) (host : Host) (past : List Request)
    (entries : List Entry) : (client.fetches host past entries).length = entries.length := by
  rw [← List.length_map Fetch.entry, map_entry_fetches]

/-- The reply of a fetch is the host's to the request for the address of its file. -/
theorem Client.exists_reply_of_mem_fetches {client : Client} {host : Host} {past : List Request}
    {entries : List Entry} {f : Fetch} (fetched : f ∈ client.fetches host past entries) :
    ∃ earlier, f.reply =
      f.entry.address?.map fun url => host earlier (client.fileRequest (.str url)) := by
  induction entries generalizing past with
  | nil => cases fetched
  | cons e entries ih =>
    rw [fetches] at fetched
    split at fetched <;> rcases List.mem_cons.mp fetched with rfl | later
    · rename_i addressless
      exact ⟨past, by rw [addressless]; rfl⟩
    · exact ih later
    · rename_i url here
      exact ⟨past, by rw [here]; rfl⟩
    · exact ih later

end LeakScan
