import LeakScan.Proofs.Finding.Scan
import LeakScan.Proofs.Json.Nesting
import LeakScan.Proofs.Repository.Fetch
import LeakScan.Proofs.Service.Upload
import LeakScan.Proofs.Session.Lifetime

/-!
# Scans of repositories

A scan of a repository walks through it and then fetches the files that were collected. If the walk
came to nothing the scan fails and gives the reason; else it ends complete, with what it finds in
the files that could be fetched (`RepositoryEnd`). How a scan ends is left open where its walk meets
a directory below the root whose listing is nested too deep (`Walk.MeetsDepth`). The findings of a
file stand where they stand whatever becomes of the others.
-/

namespace LeakScan
set_option autoImplicit false

/-! ## The end of a scan -/

/-- How the session of a scan of a repository ends, by what its walk came to. -/
inductive RepositoryEnd {T : Type} (client : Client) (host : Host) (past : List Request)
    (walk : Walk) (ended : Session T) : Prop where
  | stopped (fault : RepositoryFault) (outcome : walk.outcome = .error (.repository fault))
    (failed : ended.Failed fault.message)
  | nothing (outcome : walk.outcome = .ok [])
    (failed : ended.Failed "No scannable files found in repository")
  /-- The listing of the root is nested too deep to be read. -/
  | tooDeep (isObject : Bool) (outcome : walk.outcome = .error (.mishap (.tooDeep isObject)))
    (root : ∃ request, walk.requests = [request] ∧
      Client.listingOf (host past request) = .error (.mishap (.tooDeep isObject)))
    (failed : ended.Failed (Mishap.tooDeep isObject).message)
  /-- The findings are those in the files that could be fetched, in the order of the walk. -/
  | found (entries : List Entry) (outcome : walk.outcome = .ok entries) (nonempty : entries ≠ [])
    (found : ended.Found
      ((client.fetches host (past ++ walk.requests) entries).flatMap Fetch.findings)
      entries.length)

namespace Service

variable {T : Type} {s : Service T} {index place : Nat} {session ended : Session T}
  {repo : RepoRef} {cap : Int} {host : Host} {walk : Walk}

/-- The session of a scan of a repository ends in one of these ways, unless a directory below the
root brought the walk to an end. -/
theorem sessionAfter_repository (awaits : s.Awaits index place session (.repository repo cap))
    (answers : host.Answers) (now : T) {listings : Nat}
    (walked : s.client.collect host s.requests repo.owner repo.name cap listings = some walk)
    (listed : ∀ reply, walk.Got host s.requests reply → reply.Typed) :
    ∃ ended, s.sessionAfter host now listings index place = some ended ∧ ended.id = session.id ∧
      (RepositoryEnd s.client host s.requests walk ended ∨
        walk.MeetsDepth host s.requests ∧ (∀ entries, walk.outcome ≠ .ok entries) ∧
          ended.state ≠ .complete) := by
  have going : session.isTerminal = false := by
    simp [Session.isTerminal, Session.state, awaits.pending, ScanState.isTerminal]
  have left := (run_awaiting awaits host now listings).1
  have ending := Course.ofRepository_ending walked
  rw [← Course.ofTask] at ending
  cases Walk.collect_settled walked answers listed with
  | stopped fault outcome =>
    rw [outcome] at ending
    rw [Session.follow_failed going now ending] at left
    exact ⟨_, left, rfl, .inl (.stopped fault outcome (Session.failed_of_phase rfl))⟩
  | tooDeep isObject made last requests listing outcome =>
    rw [outcome] at ending
    rw [Session.follow_failed going now ending] at left
    have said : (Mishap.tooDeep isObject).reason = (Mishap.tooDeep isObject).message := by
      cases isObject <;> rfl
    refine ⟨_, left, rfl, ?_⟩
    -- The root is the first directory that is asked for.
    cases made with
    | nil =>
      rw [List.append_nil] at listing
      exact .inl (.tooDeep isObject outcome ⟨last, requests, listing⟩
        (said ▸ Session.failed_of_phase rfl))
    | cons first made =>
      have meets : walk.MeetsDepth host s.requests :=
        ⟨first :: made, last, List.cons_ne_nil _ _, requests ▸ List.prefix_rfl, isObject, listing⟩
      exact .inr ⟨meets, by simp [outcome], ScanState.noConfusion⟩
  | collected entries outcome typed =>
    cases entries with
    | nil =>
      rw [outcome] at ending
      rw [Session.follow_failed going now ending] at left
      exact ⟨_, left, rfl, .inl (.nothing outcome (Session.failed_of_phase rfl))⟩
    | cons e es =>
      rw [outcome] at ending
      have ending := ending.trans (Course.ofEntriesFrom_ending answers typed _ _ _)
      rw [Session.follow_found going now ending] at left
      exact ⟨_, left, rfl, .inl (.found (e :: es) outcome (List.cons_ne_nil e es)
        (Session.found_of_phase rfl))⟩

/-- A session that a run of the job of a repository left, with any host and in any service, where
the walk collected files and these were their fetches. -/
inductive Scanned (fetches : List Fetch) (ended : Session T) : Prop where
  | run {s : Service T} {index place : Nat} {session : Session T} {repo : RepoRef} {cap : Int}
      (awaits : s.Awaits index place session (.repository repo cap)) {host : Host}
      (answers : host.Answers) (now : T) {listings : Nat} {walk : Walk}
      (walked : s.client.collect host s.requests repo.owner repo.name cap listings = some walk)
      (listed : ∀ reply, walk.Got host s.requests reply → reply.Typed) {entries : List Entry}
      (collected : walk.outcome = .ok entries) (nonempty : entries ≠ [])
      (fetched : s.client.fetches host (s.requests ++ walk.requests) entries = fetches)
      (left : s.sessionAfter host now listings index place = some ended)

theorem Scanned.found {fetches : List Fetch} (scanned : Scanned fetches ended) :
    ended.Found (fetches.flatMap Fetch.findings) fetches.length := by
  obtain @⟨_, _, _, _, _, _, awaits, _, answers, now, _, _, walked, listed, entries, collected,
    nonempty, rfl, left⟩ := scanned
  obtain ⟨ended', left', -, ends | ⟨-, never, -⟩⟩ :=
    sessionAfter_repository awaits answers now walked listed
  swap
  · exact absurd collected (never entries)
  rw [left] at left'
  cases left'
  rw [Client.length_fetches]
  cases ends with
  | found entries outcome _ found =>
    rw [collected] at outcome
    cases outcome
    exact found
  | stopped fault outcome =>
    rw [collected] at outcome
    cases outcome
  | nothing outcome =>
    rw [collected] at outcome
    cases outcome
    exact absurd rfl nonempty
  | tooDeep isObject outcome =>
    rw [collected] at outcome
    cases outcome

/-- **A scan of a repository completes with what it finds in the files that could be fetched**, in
the order of the walk, unless the walk is stopped, collects nothing or gets a listing of the root
that is nested too deep; then it fails and says so. How it ends is left open where the listing of a
directory below the root is nested too deep. A file that cannot be fetched changes nothing of what
is reported of the others. -/
theorem repository_scan_ends [Time T] (host : Host) (answers : host.Answers) :
    (∀ (s : Service T) (reference : Text.Loose) (maxFiles : Option Int) (repo : RepoRef) (cap : Int)
      (now : T) (id : String),
      Task.ofRequest s.limit (.repository reference maxFiles) = .ok (.repository repo cap) →
      s.nextId now = .ok id →
      s.start now (.repository reference maxFiles) =
          .ok (s.enqueue now id (.repository repo cap), id) ∧
        (s.enqueue now id (.repository repo cap)).Awaits s.queue.length s.sessions.length
          (.create id "github" repo.toText) (.repository repo cap)) ∧
    (∀ (s : Service T) (index place : Nat) (session : Session T) (repo : RepoRef) (cap : Int),
      s.Awaits index place session (.repository repo cap) →
      ∀ (now : T) (listings : Nat) (walk : Walk),
        s.client.collect host s.requests repo.owner repo.name cap listings = some walk →
        (∀ reply, walk.Got host s.requests reply → reply.Typed) →
        ¬walk.MeetsDepth host s.requests →
        ∃ ended, s.sessionAfter host now listings index place = some ended ∧
          ended.id = session.id ∧ RepositoryEnd s.client host s.requests walk ended) ∧
    (∀ (f : Fetch) (body : String), f.content? = some body ↔
      ∃ status, f.reply = some (.response status body) ∧ isOk status = true ∧ body ≠ "") ∧
    ∀ (before : List Fetch) (bad other : Fetch) (after : List Fetch) (ended others : Session T),
      bad.content? = none → Scanned (before ++ bad :: after) ended →
      Scanned (before ++ other :: after) others →
      ended.state = .complete ∧
        ended.results.map Result.contents =
          (before.flatMap Fetch.findings).map Finding.contents ++
            (after.flatMap Fetch.findings).map Finding.contents ∧
        others.results.map Result.contents =
          (before.flatMap Fetch.findings).map Finding.contents ++
            other.findings.map Finding.contents ++
            (after.flatMap Fetch.findings).map Finding.contents := by
  refine ⟨?_, ?_, fun _ _ => Fetch.content?_eq_some_iff, ?_⟩
  · intro s reference maxFiles repo cap now id asked named
    exact ⟨start_eq asked named, enqueue_awaits s now id _⟩
  · intro s index place session repo cap awaits now listings walk walked listed shallow
    obtain ⟨ended, left, same, ends⟩ := sessionAfter_repository awaits answers now walked listed
    exact ⟨ended, left, same, ends.resolve_right fun meets => shallow meets.1⟩
  · intro before bad other after ended others contentless scanned scanned'
    refine ⟨scanned.found.complete, ?_, ?_⟩
    · rw [scanned.found.contents]
      simp [Fetch.findings_eq_nil contentless]
    · rw [scanned'.found.contents]
      simp

/-! ## A repository -/

/-- The fields of a listed item. -/
def itemFields (name type : String) (url : Json) : Json.Fields :=
  [("name", .str name), ("path", .str name), ("type", .str type), ("download_url", url)]

/-- A client of the public host. -/
def publicClient : Client := .create Client.defaultBase Client.defaultTimeout

/-- A host that lists the root of a repository, and replies to what else it is asked for. -/
def serving (root : String) (other : String → Reply) : Host := fun _ request =>
  match request.url with
  | .str (.whole url) =>
    if url = "https://api.github.com/repos/o/r/contents/" then .response 200 root else other url
  | _ => .response 404 ""

theorem serving_answers {root : String} {other : String → Reply}
    (listing : (Reply.response 200 root).Typed)
    (others : ∀ url, (∀ kind message, other url ≠ .broken kind message) ∧ (other url).Typed) :
    (serving root other).Answers ∧ ∀ past request, (serving root other past request).Typed := by
  have reply (past : List Request) (request : Request) :
      (∀ kind message, serving root other past request ≠ .broken kind message) ∧
        (serving root other past request).Typed := by
    rw [serving]
    split
    · split
      · exact ⟨nofun, listing⟩
      · exact others _
    · exact ⟨nofun, nofun⟩
  exact ⟨fun past request => (reply past request).1, fun past request => (reply past request).2⟩

theorem readable_itemFields (name type : String) {url : Json} {room : Nat}
    (readable : Json.Readable room url) :
    Json.Readable (room + 1) (.obj (itemFields name type url)) := by
  refine .obj (by simp [itemFields]) (by simp [itemFields]) ?_
  simp only [itemFields, List.forall_mem_cons]
  exact ⟨.str _, .str _, .str _, readable, nofun⟩

theorem typed_itemFields (name type : String) {url : Json}
    (address : url = .null ∨ ∃ s, url = .str s) :
    (Entry.ofFields (itemFields name type url)).Typed :=
  ⟨⟨_, rfl⟩, ⟨_, rfl⟩, address⟩

/-- A listing that is not nested too deep is read as it was written. -/
theorem listingOf_indented {listing : Json} (readable : Json.Readable Json.maxNesting listing) :
    Client.listingOf (.response 200 listing.indented) = .ok (Entry.ofListing listing) := by
  rw [Client.listingOf, Json.ofText_indented readable]
  rfl

theorem nextId_zero (limit : Int) (client : Client) :
    (create limit client (0 : Rat) none []).nextId 0 = .ok (scanId 0 1) := by
  simp [nextId, Time.millis, ExactTime.wholeMillis, create, Except.map]

/-- A directory, a file that stands nowhere, and two that have an address. -/
def mixedListing : Json :=
  .arr [.obj (itemFields "src" "dir" .null), .obj (itemFields "a.py" "file" (.str "x/a")),
    .obj (itemFields "b.py" "file" .null), .obj (itemFields ".env" "file" (.str "x/env"))]

/-- Nothing but the last file can be had. -/
def mixedReply (url : String) : Reply :=
  if url = "x/env" then .response 200 "b" else .unreachable "down"

theorem listingOf_mixedListing :
    Client.listingOf (.response 200 mixedListing.indented) =
      .ok (Entry.ofListing mixedListing) := by
  have readable : Json.Readable Json.maxNesting mixedListing := by
    refine @Json.Readable.arr (Json.maxNesting - 1) _ ?_
    simp only [List.forall_mem_cons]
    exact ⟨readable_itemFields _ _ .null, readable_itemFields _ _ (.str _),
      readable_itemFields _ _ .null, readable_itemFields _ _ (.str _), nofun⟩
  exact listingOf_indented readable

theorem collect_mixedListing :
    let host := serving mixedListing.indented mixedReply
    publicClient.collect host [] "o" "r" 50 2 = some
      ⟨[publicClient.listingRequest "o" "r" (.str ""),
          publicClient.listingRequest "o" "r" (.str "src")],
        [Walk.listingWarning (.str "src") (.listingUnreachable "down")],
        .ok ((Entry.ofListing mixedListing).drop 1)⟩ := by
  intro host
  have root (past : List Request) : Client.listingOf
      (host past (publicClient.listingRequest "o" "r" (.str ""))) =
        .ok (Entry.ofListing mixedListing) := listingOf_mixedListing
  have taken : Walk.takeEntries 50 [] [] (Entry.ofListing mixedListing) =
      .ok ((Entry.ofListing mixedListing).drop 1, [.str "src"]) := rfl
  have source (past : List Request) : Client.listingOf
      (host past (publicClient.listingRequest "o" "r" (.str "src"))) =
        .error (.repository (.listingUnreachable "down")) := rfl
  rw [Client.collect, Walk.explore_of_listing (by decide) (root _) taken, Walk.explore,
    if_neg (by decide)]
  simp only [source]
  rfl

/-- The directory below the root is not nested too deep: it cannot be had at all. -/
theorem not_meetsDepth_mixedListing (warnings : List String)
    (outcome : Except HostFault (List Entry)) :
    ¬Walk.MeetsDepth ⟨[publicClient.listingRequest "o" "r" (.str ""),
        publicClient.listingRequest "o" "r" (.str "src")], warnings, outcome⟩
      (serving mixedListing.indented mixedReply) [] := by
  rintro ⟨made, request, below, ⟨rest, whole⟩, isObject, deep⟩
  obtain _ | ⟨first, _ | ⟨second, made⟩⟩ := made
  · exact below rfl
  · have last : request = publicClient.listingRequest "o" "r" (.str "src") := by
      simpa using (List.cons.inj (List.cons.inj whole).2).1
    rw [last] at deep
    cases deep
  · have lengths := congrArg List.length whole
    simp at lengths

theorem repository_scan_ends_mixed :
    let host := serving mixedListing.indented mixedReply
    host.Answers ∧
      ∃ accepted, (create 50 publicClient (0 : Rat) none []).start 0 (.repository "o/r" none) =
          .ok (accepted, scanId 0 1) ∧
        ∃ walk, accepted.client.collect host accepted.requests "o" "r" 50 2 = some walk ∧
          (∀ reply, walk.Got host accepted.requests reply → reply.Typed) ∧
          ¬walk.MeetsDepth host accepted.requests ∧
          ∃ ended, accepted.sessionAfter host 0 2 0 0 = some ended ∧ ended.state = .complete ∧
            ended.stats.totalFiles = 3 ∧
            ended.results.map Result.contents =
              [(".env", "Sensitive File", ".env", .high, some 1)] := by
  intro host
  have listing : (Reply.response 200 mixedListing.indented).Typed := by
    intro entries lists
    rw [listingOf_mixedListing] at lists
    cases lists
    simp only [Entry.ofListing, mixedListing, List.filterMap_cons, List.filterMap_nil,
      List.forall_mem_cons]
    exact ⟨typed_itemFields _ _ (.inl rfl), typed_itemFields _ _ (.inr ⟨_, rfl⟩),
      typed_itemFields _ _ (.inl rfl), typed_itemFields _ _ (.inr ⟨_, rfl⟩), nofun⟩
  obtain ⟨answers, typed⟩ : host.Answers ∧ ∀ past request, (host past request).Typed := by
    refine serving_answers listing fun url => ?_
    rw [mixedReply]
    split
    · exact ⟨nofun,
        Reply.typed_of_listingOf_eq_error (e := .repository .listingMalformed) rfl⟩
    · exact ⟨nofun, Reply.typed_of_listingOf_eq_error rfl⟩
  obtain ⟨starts, runs, -⟩ := @repository_scan_ends Rat _ host answers
  obtain ⟨started, awaits⟩ :=
    starts (create 50 publicClient 0 none []) "o/r" none ⟨"o", "r"⟩ 50 0 (scanId 0 1) rfl
      (nextId_zero 50 publicClient)
  have shallow := not_meetsDepth_mixedListing
    [Walk.listingWarning (.str "src") (.listingUnreachable "down")]
    (.ok ((Entry.ofListing mixedListing).drop 1))
  obtain ⟨ended, left, -, ends⟩ := runs _ 0 0 _ _ _ awaits 0 2 _ collect_mixedListing
    (fun _ got => got.typed typed) shallow
  refine ⟨answers, _, started, _, collect_mixedListing, fun _ got => got.typed typed, shallow,
    ended, left, ?_⟩
  cases ends with
  | found entries outcome _ found =>
    cases outcome
    refine ⟨found.complete, found.totalFiles, ?_⟩
    have first : (⟨.ofFields (itemFields "a.py" "file" (.str "x/a")),
        some (.unreachable "down")⟩ : Fetch).findings = [] := Fetch.findings_eq_nil rfl
    have second : (⟨.ofFields (itemFields "b.py" "file" .null), none⟩ : Fetch).findings = [] :=
      Fetch.findings_eq_nil rfl
    have third : (⟨.ofFields (itemFields ".env" "file" (.str "x/env")),
        some (.response 200 "b")⟩ : Fetch).findings =
          [⟨".env", "Sensitive File", ".env", 1, .high⟩] := by
      rw [Fetch.findings_eq_scanContent rfl, scanContent_eq]
      decide +kernel
    have fetched (past : List Request) :
        publicClient.fetches host past ((Entry.ofListing mixedListing).drop 1) =
          [⟨.ofFields (itemFields "a.py" "file" (.str "x/a")), some (.unreachable "down")⟩,
            ⟨.ofFields (itemFields "b.py" "file" .null), none⟩,
            ⟨.ofFields (itemFields ".env" "file" (.str "x/env")), some (.response 200 "b")⟩] := rfl
    rw [found.contents]
    have client : (enqueue (create 50 publicClient (0 : Rat) none []) 0 (scanId 0 1)
      (.repository ⟨"o", "r"⟩ 50)).client = publicClient := rfl
    simp only [client, fetched, List.flatMap_cons, List.flatMap_nil, first, second, third]
    rfl
  | nothing outcome => cases outcome
  | stopped fault outcome => cases outcome
  | tooDeep isObject outcome => cases outcome

/-- A file, with `n` lists around an empty one in another field. -/
def deepListing (n : Nat) : Json :=
  .arr [.obj (("links", .nested n) :: itemFields "a.py" "file" (.str "https://x/a.py"))]

theorem ofListing_deepListing (n : Nat) :
    Entry.ofListing (deepListing n) =
      [⟨.str "a.py", .str "a.py", .str "file", .str "https://x/a.py"⟩] := rfl

theorem listingOf_deepListing {n : Nat} (deep : Json.maxNesting ≤ n + 2) :
    Client.listingOf (.response 200 (deepListing n).line) = .error (.mishap (.tooDeep false)) := by
  rw [Client.listingOf, deepListing, Json.ofText_line_field deep]
  rfl

theorem collect_deepListing {n : Nat} (deep : Json.maxNesting ≤ n + 2) (other : String → Reply) :
    publicClient.collect (serving (deepListing n).line other) [] "o" "r" 50 1 =
      some ⟨[publicClient.listingRequest "o" "r" (.str "")], [],
        .error (.mishap (.tooDeep false))⟩ := by
  have root : serving (deepListing n).line other []
      (publicClient.listingRequest "o" "r" (.str "")) = .response 200 (deepListing n).line := rfl
  rw [Client.collect, Walk.explore, if_neg (by decide)]
  simp only [List.nil_append, root, listingOf_deepListing deep]

/-- A scan fails although the host answers, its listing names one file by texts, and the repository
has no fault: the listing is nested too deep. -/
theorem repository_scan_tooDeep :
    let host := serving (deepListing 4000).line fun _ => .response 200 "x"
    host.Answers ∧
      Entry.ofListing (deepListing 4000) =
        [⟨.str "a.py", .str "a.py", .str "file", .str "https://x/a.py"⟩] ∧
      ∃ accepted, (create 50 publicClient (0 : Rat) none []).start 0 (.repository "o/r" none) =
          .ok (accepted, scanId 0 1) ∧
        ∃ walk, accepted.client.collect host accepted.requests "o" "r" 50 1 = some walk ∧
          (∀ reply, walk.Got host accepted.requests reply → reply.Typed) ∧
          (∀ fault, walk.outcome ≠ .error (.repository fault)) ∧
          (∀ entries, walk.outcome ≠ .ok entries) ∧
          ∃ ended, accepted.sessionAfter host 0 1 0 0 = some ended ∧ ended.state = .failed ∧
            ended.status = "Scan failed: maximum recursion depth exceeded while decoding a JSON " ++
              "array from a unicode string" := by
  have deep : Json.maxNesting ≤ 4000 + 2 := by decide
  -- From here on only the depth counts, and nothing should unfold the lists.
  generalize 4000 = n at deep ⊢
  intro host
  obtain ⟨answers, typed⟩ : host.Answers ∧ ∀ past request, (host past request).Typed :=
    serving_answers (Reply.typed_of_listingOf_eq_error (listingOf_deepListing deep)) fun _ =>
      ⟨nofun, Reply.typed_of_listingOf_eq_error (e := .repository .listingMalformed) rfl⟩
  have awaits := enqueue_awaits (create 50 publicClient (0 : Rat) none []) 0 (scanId 0 1)
    (.repository ⟨"o", "r"⟩ 50)
  have walked := collect_deepListing deep fun _ => .response 200 "x"
  obtain ⟨ended, left, -, ends | ⟨meets, -⟩⟩ :=
    sessionAfter_repository awaits answers 0 walked fun _ got => got.typed typed
  swap
  · exact absurd meets (Walk.not_meetsDepth_of_root rfl)
  refine ⟨answers, ofListing_deepListing n, _, start_eq rfl (nextId_zero 50 publicClient), _,
    walked, fun _ got => got.typed typed, nofun, nofun, ended, left, ?_⟩
  cases ends with
  | tooDeep isObject outcome _ failed =>
    cases outcome
    exact ⟨failed.failed, failed.status⟩
  | stopped fault outcome => cases outcome
  | nothing outcome => cases outcome
  | found entries outcome => cases outcome

end Service
end LeakScan
