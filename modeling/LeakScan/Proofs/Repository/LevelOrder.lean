import LeakScan.Proofs.Repository.Level
import LeakScan.Proofs.Service.Repository

/-!
# Walks with directories that cannot be listed

A host may list some directories of a repository and not others. If the root is one of those that
cannot be listed the walk ends with the reason. Any other counts as empty and adds a warning, so the
walk collects what stands in the levels, in order, up to the cap (`walk_in_level_order`).
-/

namespace LeakScan
set_option autoImplicit false

namespace Client

theorem listingOf_of_isOk {status : Int} (fine : isOk status = true) (body : String) :
    listingOf (.response status body) =
      match Json.ofText body with
      | .error (.tooDeep isObject) => .error (.mishap (.tooDeep isObject))
      | .error _ => .error (.repository .listingMalformed)
      | .ok v => .ok (Entry.ofListing v) := by
  have found : status ≠ 404 := by
    rintro rfl
    cases fine
  rw [listingOf, if_neg found, fine]
  rfl

theorem listingOf_of_not_isOk {status : Int} (wrong : isOk status = false) (body : String) :
    ∃ fault, listingOf (.response status body) = .error (.repository fault) := by
  rw [listingOf]
  split
  · exact ⟨.notFound, rfl⟩
  · rw [wrong]
    exact ⟨.listingStatus status, rfl⟩

end Client

namespace Walk

/-- How the directories of a repository are listed: a directory that is not available gives a fault
of the repository. -/
abbrev Listings := Json → Except RepositoryFault (List Entry)

/-- Entries, or a fault of the repository. -/
def Listings.toHost (table : Listings) (path : Json) : Except HostFault (List Entry) :=
  (table path).mapError .repository

/-- Listings with typed entries only. -/
def Listings.Typed (table : Listings) : Prop :=
  ∀ path entries, table path = .ok entries → ∀ e ∈ entries, e.Typed

/-- Listings that differ at most in that some of those that fail are empty instead. -/
def Listings.Eased (table table' : Listings) : Prop :=
  ∀ path, table' path = table path ∨ ∃ fault, table path = .error fault ∧ table' path = .ok []

section

variable {host host' : Host} {client : Client} {owner repo : String} {cap : Int}
  {past past' : List Request} {table table' : Listings} {listings : Nat} {made : List Request}
  {warnings : List String} {files entries : List Entry} {pending : List Json} {path : Json}
  {walk : Walk}

theorem Listings.toHost_of_ok (lists : table path = .ok entries) :
    table.toHost path = .ok entries := by
  unfold Listings.toHost
  rw [lists]
  rfl

theorem Listings.toHost_of_error {fault : RepositoryFault} (fails : table path = .error fault) :
    table.toHost path = .error (.repository fault) := by
  unfold Listings.toHost
  rw [fails]
  rfl

theorem Listings.of_toHost_ok (lists : table.toHost path = .ok entries) :
    table path = .ok entries := by
  cases entry : table path with
  | error fault =>
    rw [toHost_of_error entry] at lists
    cases lists
  | ok _ =>
    rw [toHost_of_ok entry] at lists
    cases lists
    rfl

theorem Listings.of_toHost_error {e : HostFault} (fails : table.toHost path = .error e) :
    ∃ fault, table path = .error fault ∧ e = .repository fault := by
  cases entry : table path with
  | error fault =>
    rw [toHost_of_error entry] at fails
    cases fails
    exact ⟨fault, rfl, rfl⟩
  | ok _ =>
    rw [toHost_of_ok entry] at fails
    cases fails

/-- What a listing with typed entries lines up are texts. -/
theorem isText_of_mem_pending {pending' : List Json} (typed : ∀ e ∈ entries, e.Typed)
    (texts : ∀ path ∈ pending, ∃ s, path = .str s)
    (lined : pending' = pending ++ (entries.filter Entry.isEntered).map Entry.path) :
    ∀ path ∈ pending', ∃ s, path = .str s := by
  intro path member
  rw [lined, List.mem_append, List.mem_map] at member
  rcases member with before | ⟨e, listed, rfl⟩
  · exact texts path before
  · exact (typed e (List.mem_of_mem_filter listed)).path

/-- Where the root can be listed, a walk that ends has collected files. -/
theorem explore_collects (lists : host.Lists client owner repo table.toHost) (typed : table.Typed)
    {root : List Entry} (opens : table (.str (.whole "")) = .ok root)
    (texts : ∀ path ∈ pending, ∃ s, path = .str s)
    (ends : explore host client owner repo cap past listings made warnings files pending =
      some walk) : ∃ entries, walk.outcome = .ok entries := by
  fun_induction explore host client owner repo cap past listings made warnings files pending
  case case1 files | case2 files _ _ _ =>
    cases ends
    exact ⟨files, rfl⟩
  case case3 => cases ends
  case case4 ih => exact ih (List.forall_mem_cons.mp texts).2 ends
  case case5 made warnings files path pending few listings request reply made' fault failed absent
      =>
    -- Only the root has a path that counts as absent.
    obtain ⟨s, rfl⟩ := texts path List.mem_cons_self
    obtain rfl : s = .whole "" := by
      simpa [Json.isPresent] using absent
    obtain ⟨fault', fails, -⟩ := Listings.of_toHost_error ((lists _ _).symm.trans failed)
    rw [opens] at fails
    cases fails
  case case6 made warnings files path pending few listings request reply made' e unknown failed =>
    obtain ⟨fault, -, known⟩ := Listings.of_toHost_error ((lists _ _).symm.trans failed)
    exact absurd known (unknown fault)
  case case7 made warnings files path pending few listings request reply made' listed listing m
      fails =>
    have typed' := typed path listed (Listings.of_toHost_ok ((lists _ _).symm.trans listing))
    obtain ⟨files', pending', taken, -⟩ := takeEntries_of_typed cap typed' files pending
    rw [taken] at fails
    cases fails
  case case8 made warnings files path pending few listings request reply made' listed listing files'
      pending' takes ih =>
    have typed' := typed path listed (Listings.of_toHost_ok ((lists _ _).symm.trans listing))
    by_cases enough : cap ≤ files'.length
    · rw [explore_enough enough] at ends
      cases ends
      exact ⟨files', rfl⟩
    · have lined := takeEntries_pending takes (by omega)
      exact ih (isText_of_mem_pending typed' (List.forall_mem_cons.mp texts).2 lined) ends

/-- A walk asks for the same and collects the same where listings that fail are empty instead. -/
theorem explore_eased (lists : host.Lists client owner repo table.toHost)
    (lists' : host'.Lists client owner repo table'.toHost) (eased : table.Eased table')
    (ends : explore host client owner repo cap past listings made warnings files pending =
      some walk)
    (collected : walk.outcome = .ok entries) (warnings' : List String) :
    ∃ later, explore host' client owner repo cap past' listings made warnings' files pending =
      some ⟨walk.requests, later, walk.outcome⟩ := by
  fun_induction explore host client owner repo cap past listings made warnings files pending
    generalizing warnings'
  case case1 made warnings files =>
    cases ends
    exact ⟨warnings', explore_nil⟩
  case case2 made warnings files path pending enough =>
    cases ends
    exact ⟨warnings', explore_enough enough⟩
  case case3 => cases ends
  case case4 made warnings files path pending few listings request reply made' fault failed present
      ih =>
    obtain ⟨fault', fails, same⟩ := Listings.of_toHost_error ((lists _ _).symm.trans failed)
    rw [explore, if_neg few]
    rcases eased path with kept | ⟨-, -, empty⟩
    · have fails' := (lists' (past' ++ made) path).trans
        (Listings.toHost_of_error (kept.trans fails))
      simp only [fails', if_pos present]
      exact ih ends _
    · have empty' := (lists' (past' ++ made) path).trans (Listings.toHost_of_ok empty)
      simp only [empty', takeEntries]
      exact ih ends warnings'
  case case5 | case6 | case7 =>
    cases ends
    cases collected
  case case8 made warnings files path pending few listings request reply made' listed listing files'
      pending' takes ih =>
    have opens := Listings.of_toHost_ok ((lists _ _).symm.trans listing)
    have kept : table' path = .ok listed := by
      rcases eased path with kept | ⟨fault, fails, -⟩
      · exact kept.trans opens
      · rw [opens] at fails
        cases fails
    rw [explore, if_neg few]
    simp only [(lists' (past' ++ made) path).trans (Listings.toHost_of_ok kept), takes]
    exact ih ends warnings'

/-- A reply gives a fault of the repository if and only if it says that the host cannot be reached,
has a status of an error, or is no JSON that is not too deep. -/
theorem listingOf_eq_fault_iff {r : Reply} :
    (∃ fault, Client.listingOf r = .error (.repository fault)) ↔
      (∃ message, r = .unreachable message) ∨
        ∃ status body, r = .response status body ∧
          (isOk status = false ∨ ∃ e, Json.ofText body = .error e ∧
            ∀ isObject, e ≠ .tooDeep isObject) := by
  cases r with
  | unreachable message => exact ⟨fun _ => Or.inl ⟨message, rfl⟩, fun _ => ⟨_, rfl⟩⟩
  | broken kind message =>
    constructor
    · rintro ⟨fault, failed⟩
      cases failed
    · rintro (⟨_, unreachable⟩ | ⟨_, _, response, -⟩)
      · cases unreachable
      · cases response
  | response status body =>
    constructor
    · rintro ⟨fault, failed⟩
      refine Or.inr ⟨status, body, rfl, ?_⟩
      cases fine : isOk status with
      | false => exact Or.inl rfl
      | true =>
        rw [Client.listingOf_of_isOk fine] at failed
        refine Or.inr ?_
        cases read : Json.ofText body with
        | ok v =>
          rw [read] at failed
          cases failed
        | error e =>
          refine ⟨e, rfl, ?_⟩
          rintro isObject rfl
          rw [read] at failed
          cases failed
    · rintro (⟨_, unreachable⟩ | ⟨_, _, response, unfit⟩)
      · cases unreachable
      · cases response
        cases fine : isOk status with
        | false => exact Client.listingOf_of_not_isOk fine body
        | true =>
          rcases unfit with wrong | ⟨e, read, shallow⟩
          · rw [fine] at wrong
            cases wrong
          · rw [Client.listingOf_of_isOk fine, read]
            cases e with
            | tooDeep isObject => exact absurd rfl (shallow isObject)
            | _ => exact ⟨_, rfl⟩

/-- **A walk goes level by level**: the root is the first level, and the next one are the
directories that a level names. If the root cannot be listed the walk ends with that fault.
Otherwise it collects the first files in the levels that are worth fetching, up to the cap, and
warns of the directories that cannot be listed, which count as empty: were they empty, the walk
would ask for the same and collect the same. A directory cannot be listed if the host cannot be
reached, its status is one of an error, or what it says is no JSON. -/
theorem walk_in_level_order (host : Host) (client : Client) (owner repo : String) (cap : Int)
    (past : List Request) (listings : Nat) (table : Listings)
    (lists : host.Lists client owner repo table.toHost) (typed : table.Typed)
    (atLeastOne : 1 ≤ cap) :
    (∀ fault, table (.str (.whole "")) = .error fault →
      client.collect host past owner repo cap (listings + 1) =
        some ⟨[client.listingRequest owner repo (.str (.whole ""))], [],
          .error (.repository fault)⟩) ∧
    (∀ root walk, table (.str (.whole "")) = .ok root →
      client.collect host past owner repo cap listings = some walk →
      ∃ entries n paths, walk.outcome = .ok entries ∧
        (∀ m, n ≤ m →
          let inLevels := Level.levels (below table.toHost) [.str (.whole "")] m
          entries = (inLevels.flatMap (filesAt table.toHost)).take cap.toNat ∧
            paths <+: inLevels) ∧
        walk.requests = paths.map (client.listingRequest owner repo) ∧
        walk.warnings = paths.filterMap (warningAt? table.toHost) ∧
        ∀ (host' : Host) (past' : List Request) (table' : Listings),
          host'.Lists client owner repo table'.toHost → table.Eased table' →
          ∃ warnings, client.collect host' past' owner repo cap listings =
            some ⟨walk.requests, warnings, walk.outcome⟩) ∧
    ∀ r : Reply, (∃ fault, Client.listingOf r = .error (.repository fault)) ↔
      (∃ message, r = .unreachable message) ∨
        ∃ status body, r = .response status body ∧
          (isOk status = false ∨ ∃ e, Json.ofText body = .error e ∧
            ∀ isObject, e ≠ .tooDeep isObject) := by
  refine ⟨?_, ?_, fun _ => listingOf_eq_fault_iff⟩
  · intro fault fails
    have few : ¬ cap ≤ ([] : List Entry).length := by
      rw [List.length_nil]
      omega
    have failed := (lists (past ++ []) (.str (.whole ""))).trans (Listings.toHost_of_error fails)
    rw [Client.collect, explore, if_neg few]
    simp only [failed]
    rfl
  · intro root walk opens ends
    have texts : ∀ path ∈ [Json.str (.whole "")], ∃ s, path = .str s :=
      fun _ member => ⟨_, List.mem_singleton.mp member⟩
    obtain ⟨entries, collected⟩ := explore_collects lists typed opens texts ends
    have serves := explore_serves lists ends collected (Nat.zero_le _)
    obtain ⟨n, paths, first, requests, warned, taken⟩ := serves.files_eq_take
    refine ⟨entries, n, paths, collected, fun m deep => ⟨taken m deep, first m deep⟩, requests,
      warned, ?_⟩
    intro host' past' table' lists' eased
    exact explore_eased lists lists' eased ends collected []

end

/-! ### A repository -/

/-- The address at which the directories of a repository are listed. -/
def contentsAddress (client : Client) (owner repo : String) : String :=
  client.base ++ "/repos/" ++ owner ++ "/" ++ repo ++ "/contents/"

/-- A host that lists some directories of a repository, and cannot be reached for anything else. -/
def hosting (client : Client) (owner repo : String) (listing? : String → Option Json) : Host :=
  fun _ request =>
    match request.url with
    | .str (.whole url) =>
      match listing? (String.ofList
        (url.toList.drop (contentsAddress client owner repo).toList.length)) with
      | some listing => .response 200 listing.indented
      | none => .unreachable "down"
    | _ => .unreachable "down"

/-- What such a host lists. -/
def hosted (listing? : String → Option Json) : Listings := fun path =>
  match listing? path.plain with
  | some listing => .ok (Entry.ofListing listing)
  | none => .error (.listingUnreachable "down")

theorem hosting_lists (client : Client) (owner repo : String) {listing? : String → Option Json}
    (readable : ∀ path listing, listing? path = some listing →
      Json.Readable Json.maxNesting listing) :
    (hosting client owner repo listing?).Lists client owner repo (hosted listing?).toHost := by
  intro past path
  have rest : String.ofList ((contentsAddress client owner repo ++ path.plain).toList.drop
      (contentsAddress client owner repo).toList.length) = path.plain := by
    rw [String.toList_append, List.drop_left, String.ofList_toList]
  have reply : hosting client owner repo listing? past (client.listingRequest owner repo path) =
      match listing? path.plain with
      | some listing => .response 200 listing.indented
      | none => .unreachable "down" := by
    unfold hosting
    simp only [Client.listingRequest]
    rw [← contentsAddress, rest]
  rw [reply]
  cases found : listing? path.plain with
  | some listing =>
    have lists : hosted listing? path = .ok (Entry.ofListing listing) := by
      unfold hosted
      rw [found]
    rw [Listings.toHost_of_ok lists]
    exact Service.listingOf_indented (readable _ _ found)
  | none =>
    have fails : hosted listing? path = .error (.listingUnreachable "down") := by
      unfold hosted
      rw [found]
    rw [Listings.toHost_of_error fails]
    rfl

/-- The listing of items with a path and a type each. -/
def itemListing (items : List (String × String)) : Json :=
  .arr (items.map fun item => .obj (Service.itemFields item.1 item.2 .null))

theorem readable_itemListing (items : List (String × String)) :
    Json.Readable Json.maxNesting (itemListing items) := by
  refine @Json.Readable.arr (Json.maxNesting - 1) _ ?_
  intro v member
  obtain ⟨item, -, rfl⟩ := List.mem_map.mp member
  exact Service.readable_itemFields item.1 item.2 .null

theorem typed_itemListing (items : List (String × String)) :
    ∀ e ∈ Entry.ofListing (itemListing items), e.Typed := by
  intro e member
  obtain ⟨v, member, entry⟩ := List.mem_filterMap.mp member
  obtain ⟨item, -, rfl⟩ := List.mem_map.mp member
  cases entry
  exact Service.typed_itemFields item.1 item.2 (Or.inl rfl)

/-- Three levels: next to a file the root has a directory that cannot be listed, and one with a file
and a directory of its own. -/
def threeLevels : String → Option Json
  | "" => some (itemListing [("src", "dir"), ("docs", "dir"), ("a.py", "file")])
  | "src" => some (itemListing [("src/lib", "dir"), ("src/b.py", "file")])
  | "src/lib" => some (itemListing [("src/lib/c.py", "file"), ("src/lib/d.py", "file")])
  | _ => none

theorem threeLevels_items {path : String} {listing : Json}
    (lists : threeLevels path = some listing) :
    ∃ items, listing = itemListing items := by
  unfold threeLevels at lists
  split at lists <;> cases lists <;> exact ⟨_, rfl⟩

theorem threeLevels_typed : (hosted threeLevels).Typed := by
  intro path entries lists
  unfold hosted at lists
  split at lists
  · rename_i listing found
    cases lists
    obtain ⟨items, rfl⟩ := threeLevels_items found
    exact typed_itemListing items
  · cases lists

/-- The entry of an item with a path and a type. -/
def item (path type : String) : Entry := .ofFields (Service.itemFields path type .null)

theorem threeLevels_lists :
    (hosting Service.publicClient "o" "r" threeLevels).Lists Service.publicClient "o" "r"
      (hosted threeLevels).toHost := by
  refine hosting_lists Service.publicClient "o" "r" ?_
  intro path listing found
  obtain ⟨items, rfl⟩ := threeLevels_items found
  exact readable_itemListing items

theorem collect_threeLevels :
    ∃ walk, Service.publicClient.collect (hosting Service.publicClient "o" "r" threeLevels) []
      "o" "r" 3 4 = some walk := by
  have listing (past : List Request) (path : String) :=
    threeLevels_lists past (.str (.whole path))
  have root : takeEntries 3 [] [] (Entry.ofListing (itemListing
      [("src", "dir"), ("docs", "dir"), ("a.py", "file")])) =
        .ok ([item "a.py" "file"], [.str (.whole "src"), .str (.whole "docs")]) := rfl
  have source : takeEntries 3 [item "a.py" "file"] [.str (.whole "docs")] (Entry.ofListing
      (itemListing [("src/lib", "dir"), ("src/b.py", "file")])) =
        .ok ([item "a.py" "file", item "src/b.py" "file"],
          [.str (.whole "docs"), .str (.whole "src/lib")]) := rfl
  have library : takeEntries 3 [item "a.py" "file", item "src/b.py" "file"] [] (Entry.ofListing
      (itemListing [("src/lib/c.py", "file"), ("src/lib/d.py", "file")])) =
        .ok ([item "a.py" "file", item "src/b.py" "file", item "src/lib/c.py" "file"], []) := rfl
  rw [Client.collect, explore_of_listing (by decide) (listing _ "") root,
    explore_of_listing (by decide) (listing _ "src") source,
    explore_of_fault (by decide) (listing _ "docs") rfl,
    explore_of_listing (by decide) (listing _ "src/lib") library]
  exact ⟨_, explore_nil⟩

/-- Of four files in three levels a walk collects the first three; one directory cannot be
listed. -/
theorem walk_in_level_order_threeLevels :
    let client := Service.publicClient
    let host := hosting client "o" "r" threeLevels
    let table := hosted threeLevels
    host.Lists client "o" "r" table.toHost ∧ table.Typed ∧
      ∃ root walk entries n, table (.str (.whole "")) = .ok root ∧
        client.collect host [] "o" "r" 3 4 = some walk ∧ walk.outcome = .ok entries ∧
        entries.map Entry.path =
          [.str (.whole "a.py"), .str (.whole "src/b.py"), .str (.whole "src/lib/c.py")] ∧
        ∀ m, n ≤ m →
          let inLevels := Level.levels (below table.toHost) [.str (.whole "")] m
          entries = (inLevels.flatMap (filesAt table.toHost)).take 3 := by
  intro client host table
  obtain ⟨-, inOrder, -⟩ := walk_in_level_order host client "o" "r" 3 [] 4 table threeLevels_lists
    threeLevels_typed (by decide)
  obtain ⟨walk, walked⟩ := collect_threeLevels
  obtain ⟨entries, n, paths, collected, taken, -⟩ := inOrder _ walk rfl walked
  refine ⟨threeLevels_lists, threeLevels_typed, _, walk, entries, n, rfl, walked, collected, ?_,
    fun m deep => (taken m deep).1⟩
  -- The first three levels hold enough.
  obtain ⟨more, levels⟩ := @Level.levels_isPrefix _ (below table.toHost) [.str (.whole "")] 3 _
    (Nat.le_max_right n 3)
  have first := (taken (max n 3) (Nat.le_max_left n 3)).1
  rw [← levels, List.flatMap_append, List.take_append_of_le_length (by decide)] at first
  rw [first]
  rfl

end Walk
end LeakScan
