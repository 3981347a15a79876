import LeakScan.Files.Collect
import LeakScan.Proofs.Repository.Collected
import LeakScan.Proofs.Service.Repository

/-!
# Sensitive files of a repository

A scan of a repository that ends with room left has fetched the listed files with a name worth
fetching (`RepositoryEnd.contents_eq_of_room`). It reports the sensitive names in the path of every
one of them that has a content. A sensitive name alone does not make a file worth fetching, though
it makes it worth uploading, and nothing is reported of a file that is not fetched
(`repository_scan_sensitive`).
-/

namespace LeakScan
set_option autoImplicit false

theorem Finding.file_of_mem_scanContent {f : Finding} {file content : String}
    (found : f ∈ scanContent file content) : f.file = file := by
  rw [scanContent_eq] at found
  rcases List.mem_append.mp found with named | kept
  · obtain ⟨_, _, _, rfl⟩ := mem_inName_iff.mp named
    rfl
  · obtain ⟨_, _, _, onLine⟩ := mem_inContent_iff.mp ((firsts_sublist pair _).subset kept)
    obtain ⟨_, _, _, _, rfl⟩ := mem_onLine_iff.mp onLine
    rfl

/-- Every sensitive name that a path holds is reported, whatever the content. -/
theorem Finding.sensitive_mem_scanContent {name file : String} (sensitive : name ∈ sensitiveNames)
    (held : Text.holds name.toList file.toList = true) (content : String) :
    ⟨file, sensitiveKind, name, 1, .high⟩ ∈ scanContent file content := by
  rw [scanContent_eq]
  exact List.mem_append_left _
    (mem_inName_iff.mpr ⟨name, sensitive, Text.holds_iff_infix.mp held, rfl⟩)

/-- A host has the content of a file: it replies to every request for it with a text that is not
empty. -/
def Entry.Served (e : Entry) (host : Host) (client : Client) : Prop :=
  ∃ url, e.address? = some url ∧ ∀ past, ∃ status body,
    host past (client.fileRequest (.str url)) = .response status body ∧
      isOk status = true ∧ body ≠ ""

namespace Client

variable {client : Client} {host : Host} {past : List Request} {entries : List Entry}

theorem entry_mem_of_mem_fetches {f : Fetch} (fetched : f ∈ client.fetches host past entries) :
    f.entry ∈ entries := by
  rw [← client.map_entry_fetches host past entries]
  exact List.mem_map_of_mem fetched

theorem exists_mem_fetches {e : Entry} (member : e ∈ entries) :
    ∃ f ∈ client.fetches host past entries, f.entry = e := by
  rw [← client.map_entry_fetches host past entries] at member
  exact List.mem_map.mp member

/-- A content that the host has is fetched, whatever was asked for before. -/
theorem content?_ne_none_of_served {f : Fetch} (fetched : f ∈ client.fetches host past entries)
    (served : f.entry.Served host client) : f.content? ≠ none := by
  obtain ⟨url, given, replies⟩ := served
  obtain ⟨earlier, replied⟩ := exists_reply_of_mem_fetches fetched
  obtain ⟨status, body, same, fine, nonempty⟩ := replies earlier
  rw [given, Option.map_some, same] at replied
  rw [Fetch.content?_eq_some_iff.mpr ⟨status, replied, fine, nonempty⟩]
  exact Option.some_ne_none body

/-- What is found in fetched files is found under the path of one of them. -/
theorem exists_entry_of_mem_findings {f : Finding}
    (found : f ∈ (client.fetches host past entries).flatMap Fetch.findings) :
    ∃ e ∈ entries, e.path.plain = f.file := by
  obtain ⟨fetch, fetched, found⟩ := List.mem_flatMap.mp found
  refine ⟨fetch.entry, entry_mem_of_mem_fetches fetched, ?_⟩
  rw [Fetch.findings] at found
  split at found
  · exact (Finding.file_of_mem_scanContent found).symm
  · cases found

theorem sensitive_mem_findings {e : Entry} (member : e ∈ entries)
    (content : ∀ f ∈ client.fetches host past entries, f.entry = e → f.content? ≠ none)
    {name : String} (sensitive : name ∈ sensitiveNames)
    (held : Text.holds name.toList e.path.plain.toList = true) :
    ⟨e.path.plain, Finding.sensitiveKind, name, 1, .high⟩ ∈
      (client.fetches host past entries).flatMap Fetch.findings := by
  obtain ⟨f, fetched, rfl⟩ := exists_mem_fetches member
  obtain ⟨body, gotten⟩ := Option.ne_none_iff_exists'.mp (content f fetched rfl)
  refine List.mem_flatMap.mpr ⟨f, fetched, ?_⟩
  rw [Fetch.findings_eq_scanContent gotten]
  exact Finding.sensitive_mem_scanContent sensitive held body

end Client

/-- The fetches of a scan whose walk ends with room left: those of the listed files with a name
worth fetching. -/
def Walk.fetched (walk : Walk) (client : Client) (host : Host) (past : List Request) : List Fetch :=
  client.fetches host (past ++ walk.requests) ((walk.listed host past).filter Entry.isWorthwhile)

namespace RepositoryEnd

variable {T : Type} {client : Client} {host : Host} {past : List Request} {walk : Walk}
  {ended : Session T} {owner repo : String} {cap : Int} {listings : Nat}

/-- A scan that completes with room left reports what it finds in the listed files with a name
worth fetching. -/
theorem contents_eq_of_room (ends : RepositoryEnd client host past walk ended)
    (walked : client.collect host past owner repo cap listings = some walk)
    (complete : ended.state = .complete) (room : ended.stats.totalFiles < cap) :
    ended.results.map Result.contents =
      ((walk.fetched client host past).flatMap Fetch.findings).map Finding.contents := by
  have failed {reason : String} (failed : ended.Failed reason) : False := by
    rw [failed.failed] at complete
    cases complete
  cases ends with
  | found entries outcome nonempty found =>
    rw [found.totalFiles] at room
    rw [Walk.fetched, ← Walk.collected_eq_filter walked outcome room]
    exact found.contents
  | stopped fault outcome stopped => exact (failed stopped).elim
  | nothing outcome nothing => exact (failed nothing).elim
  | tooDeep isObject outcome listing deep => exact (failed deep).elim

/-- What such a scan reports stands in a listed file with a name worth fetching. -/
theorem exists_entry_of_room (ends : RepositoryEnd client host past walk ended)
    (walked : client.collect host past owner repo cap listings = some walk)
    (complete : ended.state = .complete) (room : ended.stats.totalFiles < cap) {r : Result}
    (reported : r ∈ ended.results) :
    ∃ e ∈ walk.listed host past, e.isWorthwhile = true ∧ e.path.plain = r.file := by
  have said := List.mem_map_of_mem (f := Result.contents) reported
  rw [ends.contents_eq_of_room walked complete room] at said
  obtain ⟨f, found, same⟩ := List.mem_map.mp said
  obtain ⟨e, collected, stands⟩ := Client.exists_entry_of_mem_findings found
  obtain ⟨member, worthwhile⟩ := List.mem_filter.mp collected
  exact ⟨e, member, worthwhile, stands.trans (congrArg Prod.fst same)⟩

end RepositoryEnd

namespace Service

/-- **What a scan of a repository says of sensitive files.** A scan that completes with room left
reports every sensitive name in the path of every listed file that has a name worth fetching and a
content. Of a path whose files all have names not worth fetching it reports nothing at all, whatever
sensitive names the path holds. -/
theorem repository_scan_sensitive {T : Type} (host : Host) (answers : host.Answers)
    (s : Service T) (index place : Nat) (session : Session T) (repo : RepoRef) (cap : Int)
    (awaits : s.Awaits index place session (.repository repo cap)) (now : T) (listings : Nat)
    (walk : Walk)
    (walked : s.client.collect host s.requests repo.owner repo.name cap listings = some walk)
    (typed : ∀ reply, walk.Got host s.requests reply → reply.Typed) :
    ∃ ended, s.sessionAfter host now listings index place = some ended ∧
      (ended.state = .complete → ended.stats.totalFiles < cap →
        (∀ e ∈ walk.listed host s.requests, e.isWorthwhile = true →
          (∀ f ∈ walk.fetched s.client host s.requests, f.entry = e → f.content? ≠ none) →
          ∀ name ∈ sensitiveNames, Text.holds name.toList e.path.plain.toList = true →
            (e.path.plain, "Sensitive File", name, .high, some 1) ∈
              ended.results.map Result.contents) ∧
        ∀ path : String,
          (∀ e ∈ walk.listed host s.requests, e.path.plain = path → e.isWorthwhile = false) →
            ∀ r ∈ ended.results, r.file ≠ path) := by
  obtain ⟨ended, left, -, ends | ⟨-, -, incomplete⟩⟩ :=
    sessionAfter_repository awaits answers now walked typed
  swap
  · exact ⟨ended, left, fun complete => absurd complete incomplete⟩
  refine ⟨ended, left, fun complete room => ?_⟩
  constructor
  · intro e member worthwhile content name sensitive held
    have collected := List.mem_filter.mpr ⟨member, worthwhile⟩
    rw [ends.contents_eq_of_room walked complete room]
    exact List.mem_map_of_mem (Client.sensitive_mem_findings collected content sensitive held)
  · rintro path dropped r reported rfl
    obtain ⟨e, member, worthwhile, same⟩ :=
      ends.exists_entry_of_room walked complete room reported
    rw [dropped e member same] at worthwhile
    cases worthwhile

/-! ## A repository with a key -/

/-- A private key and a file of settings. -/
def keyListing : Json :=
  .arr [.obj (itemFields "id_rsa" "file" (.str "x/key")),
    .obj (itemFields ".env" "file" (.str "x/env"))]

/-- A host that has the content of both. -/
def keyHost : Host := serving keyListing.indented fun _ => .response 200 "b"

/-- A service with a job for the scan of that repository. -/
def keyService : Service Rat :=
  (create 50 publicClient 0 none []).enqueue 0 (scanId 0 1) (.repository ⟨"o", "r"⟩ 50)

/-- The walk of that scan: it collects the settings and not the key. -/
def keyWalk : Walk where
  requests := [publicClient.listingRequest "o" "r" (.str "")]
  warnings := []
  outcome := .ok [.ofFields (itemFields ".env" "file" (.str "x/env"))]

theorem listingOf_keyListing :
    Client.listingOf (.response 200 keyListing.indented) = .ok (Entry.ofListing keyListing) := by
  apply listingOf_indented
  refine @Json.Readable.arr (Json.maxNesting - 1) _ ?_
  simp only [List.forall_mem_cons]
  exact ⟨readable_itemFields _ _ (.str _), readable_itemFields _ _ (.str _),
    List.forall_mem_nil _⟩

theorem listingOf_root (past : List Request) :
    Client.listingOf (keyHost past (publicClient.listingRequest "o" "r" (.str ""))) =
      .ok (Entry.ofListing keyListing) :=
  listingOf_keyListing

theorem collect_keyListing :
    keyService.client.collect keyHost keyService.requests "o" "r" 50 1 = some keyWalk := by
  have taken : Walk.takeEntries 50 [] [] (Entry.ofListing keyListing) =
      .ok ([.ofFields (itemFields ".env" "file" (.str "x/env"))], []) := rfl
  change publicClient.collect keyHost [] "o" "r" 50 1 = some keyWalk
  rw [Client.collect, Walk.explore_of_listing (by decide) (listingOf_root _) taken, Walk.explore]
  rfl

theorem listed_keyWalk :
    keyWalk.listed keyHost keyService.requests = Entry.ofListing keyListing := by
  change Walk.entriesOf keyHost [] [publicClient.listingRequest "o" "r" (.str "")] = _
  rw [Walk.entriesOf_cons_of_ok (listingOf_root _), Walk.entriesOf, List.append_nil]

theorem keyHost_answers : keyHost.Answers ∧ ∀ past request, (keyHost past request).Typed := by
  refine serving_answers ?_ fun _ => ⟨fun _ _ same => (by cases same),
    Reply.typed_of_listingOf_eq_error (e := .repository .listingMalformed) rfl⟩
  intro entries lists
  rw [listingOf_keyListing] at lists
  cases lists
  simp only [Entry.ofListing, keyListing, List.filterMap_cons, List.filterMap_nil,
    List.forall_mem_cons]
  exact ⟨typed_itemFields _ _ (.inr ⟨_, rfl⟩), typed_itemFields _ _ (.inr ⟨_, rfl⟩),
    List.forall_mem_nil _⟩

theorem keyHost_serves {name url : String} (nonempty : url ≠ "")
    (elsewhere : url ≠ "https://api.github.com/repos/o/r/contents/") :
    (Entry.ofFields (itemFields name "file" (.str url))).Served keyHost keyService.client := by
  refine ⟨.whole url, ?_, fun past => ⟨200, "b", if_neg elsewhere, rfl, by decide⟩⟩
  exact if_neg fun same => nonempty (Text.Loose.whole.inj same)

/-- The scan completes with room left. -/
theorem keyService_completes :
    ∃ ended, keyService.sessionAfter keyHost 0 1 0 0 = some ended ∧
      RepositoryEnd keyService.client keyHost keyService.requests keyWalk ended ∧
      ended.state = .complete ∧ ended.stats.totalFiles = 1 := by
  obtain ⟨answers, typed⟩ := keyHost_answers
  have awaits := enqueue_awaits (create 50 publicClient (0 : Rat) none []) 0 (scanId 0 1)
    (.repository ⟨"o", "r"⟩ 50)
  obtain ⟨ended, left, -, ends | ⟨meets, -⟩⟩ :=
    sessionAfter_repository awaits answers 0 collect_keyListing fun _ got => got.typed typed
  swap
  · exact absurd meets (Walk.not_meetsDepth_of_root rfl)
  refine ⟨ended, left, ends, ?_⟩
  cases ends with
  | found entries outcome _ found =>
    cases outcome
    exact ⟨found.complete, found.totalFiles⟩
  | stopped fault outcome => cases outcome
  | nothing outcome => cases outcome
  | tooDeep isObject outcome => cases outcome

/-- The settings are reported, and nothing is of the key. -/
theorem repository_scan_sensitive_env :
    ∃ ended, keyService.sessionAfter keyHost 0 1 0 0 = some ended ∧
      (".env", "Sensitive File", ".env", .high, some 1) ∈ ended.results.map Result.contents ∧
      ∀ r ∈ ended.results, r.file ≠ "id_rsa" := by
  obtain ⟨answers, typed⟩ := keyHost_answers
  have awaits := enqueue_awaits (create 50 publicClient (0 : Rat) none []) 0 (scanId 0 1)
    (.repository ⟨"o", "r"⟩ 50)
  obtain ⟨ended, left, reports⟩ := repository_scan_sensitive keyHost answers keyService 0 0 _ _ 50
    awaits 0 1 keyWalk collect_keyListing fun _ got => got.typed typed
  obtain ⟨ended', left', -, complete, total⟩ := keyService_completes
  rw [left] at left'
  cases left'
  rw [listed_keyWalk] at reports
  obtain ⟨reported, dropped⟩ := reports complete (by rw [total]; decide)
  refine ⟨ended, left, ?_, dropped "id_rsa" ?_⟩
  · exact reported (.ofFields (itemFields ".env" "file" (.str "x/env")))
      (List.mem_cons_of_mem _ List.mem_cons_self) (by decide +kernel)
      (fun f fetched same => Client.content?_ne_none_of_served fetched
        (same ▸ keyHost_serves (by decide) (by decide)))
      ".env" (by decide +kernel) (by decide +kernel)
  · simp only [Entry.ofListing, keyListing, List.filterMap_cons, List.filterMap_nil,
      List.forall_mem_cons]
    exact ⟨fun _ => by decide +kernel, fun same => absurd same (by decide +kernel),
      List.forall_mem_nil _⟩

/-- A scan that completes with room left says nothing of a private key that it was listed and could
have had, and that would go into an upload. -/
theorem repository_scan_misses_key :
    let key := Entry.ofFields (itemFields "id_rsa" "file" (.str "x/key"))
    keyHost.Answers ∧
      (create 50 publicClient (0 : Rat) none []).start 0 (.repository "o/r" none) =
        .ok (keyService, scanId 0 1) ∧
      keyService.client.collect keyHost keyService.requests "o" "r" 50 1 = some keyWalk ∧
      (∀ reply, keyWalk.Got keyHost keyService.requests reply → reply.Typed) ∧
      key ∈ keyWalk.listed keyHost keyService.requests ∧ key.isOf "file" = true ∧
      key.path = .str "id_rsa" ∧ key.Served keyHost keyService.client ∧
      "id_rsa" ∈ sensitiveNames ∧ mayHoldSecret (.ofText "id_rsa") = true ∧
      ∃ ended, keyService.sessionAfter keyHost 0 1 0 0 = some ended ∧ ended.state = .complete ∧
        ended.stats.totalFiles < 50 ∧ ∀ r ∈ ended.results, r.file ≠ "id_rsa" := by
  intro key
  obtain ⟨answers, typed⟩ := keyHost_answers
  obtain ⟨ended, left, ends, complete, total⟩ := keyService_completes
  have room : ended.stats.totalFiles < 50 := by rw [total]; decide
  refine ⟨answers, start_eq rfl (nextId_zero 50 publicClient), collect_keyListing,
    fun _ got => got.typed typed, by rw [listed_keyWalk]; exact List.mem_cons_self, rfl, rfl,
    keyHost_serves (by decide) (by decide), by decide +kernel, by decide +kernel, ended, left,
    complete, room, ?_⟩
  rintro r reported same
  obtain ⟨e, member, worthwhile, stands⟩ :=
    ends.exists_entry_of_room collect_keyListing complete room reported
  rw [listed_keyWalk] at member
  rcases List.mem_cons.mp member with rfl | member
  · revert worthwhile
    decide +kernel
  · rw [List.mem_singleton.mp member] at stands
    rw [← stands] at same
    revert same
    decide +kernel

end Service
end LeakScan
