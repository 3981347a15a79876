import Mathlib.Logic.Relation
import LeakScan.Proofs.Repository.Fetch

/-!
# The moments of a scan of a repository

A scan goes from moment to moment: it looks at the next entry of a listing, asks for the listing of
the next directory, or asks for the content of the next file (`Moment.next`). Whatever the host
replies, a moment keeps within the cap: no more files are collected than it allows, no more contents
are asked for than there are files, and no listing is asked for after a content (`Moment.Within`).
A scan whose walk ends comes to the requests of its course (`reaches_ofRepository`); one whose walk
does not end has its moments too, and comes to any number of listings (`reaches_of_unended`).
-/

namespace LeakScan
set_option autoImplicit false

/-- What a scan has asked for: the listing of a directory or the content of a file. -/
inductive Asked where
  | listing (request : Request)
  | content (request : Request)

namespace Asked

def request : Asked → Request
  | listing request | content request => request

def isContent : Asked → Bool
  | listing _ => false
  | content _ => true

end Asked

/-- What a scan has yet to do: the rest of a listing and the directories after it, the files whose
contents are left, or nothing. -/
inductive Todo where
  | walk (listing : List Entry) (pending : List Json)
  | fetch (left : List Entry)
  | nothing

namespace Todo

/-- Whether there are directories or entries to go through. -/
def isWalk : Todo → Bool
  | walk .. => true
  | _ => false

/-- The number of contents that are left to ask for. -/
def left : Todo → Nat
  | fetch es => es.length
  | _ => 0

end Todo

/-- A moment of a scan: what it has asked for and the files that it has collected so far. -/
structure Moment where
  asked : List Asked
  files : List Entry
  todo : Todo

namespace Moment

/-- The requests made so far. -/
def requests (m : Moment) : List Request := m.asked.map Asked.request

/-- The number of contents asked for so far. -/
def contents (m : Moment) : Nat := m.asked.countP Asked.isContent

/-- The moment at which a scan starts. -/
def start : Moment := ⟨[], [], .walk [] [.str ""]⟩

/-- The moment after one at which the next entry of a listing is looked at. -/
def look (cap : Int) (m : Moment) (e : Entry) (es : List Entry) (pending : List Json) : Moment :=
  if cap ≤ m.files.length then { m with todo := .walk [] pending }
  else match Walk.wanted e with
    | .error _ => { m with todo := .nothing }
    | .ok true => { m with files := m.files ++ [e], todo := .walk es pending }
    | .ok false =>
      match Walk.entered e with
      | .error _ => { m with todo := .nothing }
      | .ok true => { m with todo := .walk es (pending ++ [e.path]) }
      | .ok false => { m with todo := .walk es pending }

/-- What is left to do once a directory was listed, or could not be. -/
def listed (path : Json) (pending : List Json) : Except HostFault (List Entry) → Todo
  | .error (.repository _) => if path.isPresent then .walk [] pending else .nothing
  | .error (.mishap _) => .nothing
  | .ok entries => .walk entries pending

/-- What is left to do once a file was fetched, or could not be. -/
def fetched (e : Entry) (es : List Entry) : Except HostFault String → Todo
  | .error (.repository _) => .fetch es
  | .error (.mishap _) => .nothing
  | .ok body =>
    if body = "" then .fetch es
    else match e.path with
      | .str _ => .fetch es
      | _ => .nothing

/-- The moment after one at which the listing of a directory is asked for. -/
def list (host : Host) (client : Client) (repo : RepoRef) (past : List Request) (m : Moment)
    (path : Json) (pending : List Json) : Moment :=
  let request := client.listingRequest repo.owner repo.name path
  { m with
    asked := m.asked ++ [.listing request]
    todo := listed path pending (Client.listingOf (host (past ++ m.requests) request)) }

/-- The moment after one at which the content of a file is asked for, if it has an address. -/
def fetch (host : Host) (client : Client) (past : List Request) (m : Moment) (e : Entry)
    (es : List Entry) : Moment :=
  if !e.downloadUrl.isPresent then { m with todo := .fetch es }
  else
    let request := client.fileRequest e.downloadUrl
    { m with
      asked := m.asked ++ [.content request]
      todo := fetched e es (Client.contentOf (host (past ++ m.requests) request)) }

/-- The next moment of a scan, unless there is nothing left to do. -/
def next (host : Host) (client : Client) (repo : RepoRef) (cap : Int) (past : List Request)
    (m : Moment) : Option Moment :=
  match m.todo with
  | .walk (e :: es) pending => some (m.look cap e es pending)
  | .walk [] [] => some { m with todo := .fetch m.files }
  | .walk [] (path :: pending) =>
    if cap ≤ m.files.length then some { m with todo := .fetch m.files }
    else some (m.list host client repo past path pending)
  | .fetch (e :: es) => some (m.fetch host client past e es)
  | .fetch [] => some { m with todo := .nothing }
  | .nothing => none

/-- A scan comes from one moment to another. -/
abbrev Reaches (host : Host) (client : Client) (repo : RepoRef) (cap : Int)
    (past : List Request) : Moment → Moment → Prop :=
  Relation.ReflTransGen fun m m' => m.next host client repo cap past = some m'

variable {host : Host} {client : Client} {repo : RepoRef} {cap : Int} {past : List Request}
  {m m' : Moment}

/-! ## Within the cap -/

/-- What a step of a scan can do to what was asked for and collected so far. -/
inductive Turn (cap : Int) (m : Moment) : Moment → Prop where
  | pass (walks : m.todo.isWalk = true) (todo : Todo) (none : todo.left = 0) :
    Turn cap m { m with todo := todo }
  | collect (walks : m.todo.isWalk = true) (few : m.files.length < cap) (e : Entry) (todo : Todo)
    (none : todo.left = 0) : Turn cap m { m with files := m.files ++ [e], todo := todo }
  | list (walks : m.todo.isWalk = true) (request : Request) (todo : Todo)
    (none : todo.left = 0) : Turn cap m ⟨m.asked ++ [.listing request], m.files, todo⟩
  | settle (walks : m.todo.isWalk = true) : Turn cap m { m with todo := .fetch m.files }
  | skip (todo : Todo) (walked : todo.isWalk = false) (fewer : todo.left ≤ m.todo.left) :
    Turn cap m { m with todo := todo }
  | fetch (request : Request) (todo : Todo) (walked : todo.isWalk = false)
    (fewer : todo.left < m.todo.left) :
    Turn cap m ⟨m.asked ++ [.content request], m.files, todo⟩

theorem turn_look {e : Entry} {es : List Entry} {pending : List Json}
    (walks : m.todo.isWalk = true) : Turn cap m (m.look cap e es pending) := by
  rw [look]
  split
  · exact .pass walks _ rfl
  · rename_i few
    split
    · exact .pass walks _ rfl
    · exact .collect walks (by omega) e _ rfl
    · split <;> exact .pass walks _ rfl

theorem left_listed (path : Json) (pending : List Json) (listing : Except HostFault (List Entry)) :
    (listed path pending listing).left = 0 := by
  rcases listing with (_ | _) | _
  · rw [listed]
    split <;> rfl
  · rfl
  · rfl

theorem fetched_walked (e : Entry) (es : List Entry) (content : Except HostFault String) :
    (fetched e es content).isWalk = false ∧ (fetched e es content).left ≤ es.length := by
  rcases content with (_ | _) | _
  · exact ⟨rfl, Nat.le_refl _⟩
  · exact ⟨rfl, Nat.zero_le _⟩
  · rw [fetched]
    split
    · exact ⟨rfl, Nat.le_refl _⟩
    · split
      · exact ⟨rfl, Nat.le_refl _⟩
      · exact ⟨rfl, Nat.zero_le _⟩

theorem turn_list {path : Json} {pending : List Json} (walks : m.todo.isWalk = true) :
    Turn cap m (m.list host client repo past path pending) :=
  .list walks _ _ (left_listed ..)

theorem turn_fetch {e : Entry} {es : List Entry} (fetches : m.todo = .fetch (e :: es)) :
    Turn cap m (m.fetch host client past e es) := by
  have fewer : es.length < m.todo.left := by
    rw [fetches]
    exact Nat.lt_succ_self _
  rw [fetch]
  split
  · exact .skip _ rfl (Nat.le_of_lt fewer)
  · obtain ⟨walked, few⟩ := fetched_walked e es (Client.contentOf
      (host (past ++ m.requests) (client.fileRequest e.downloadUrl)))
    exact .fetch _ _ walked (Nat.lt_of_le_of_lt few fewer)

/-- Every step of a scan is a turn. -/
theorem turn_next (steps : m.next host client repo cap past = some m') : Turn cap m m' := by
  obtain ⟨asked, files, todo⟩ := m
  rw [next] at steps
  split at steps
  · cases steps
    rename_i walks
    cases walks
    exact turn_look rfl
  · cases steps
    rename_i walks
    cases walks
    exact .settle rfl
  · rename_i walks
    cases walks
    split at steps <;> cases steps
    · exact .settle rfl
    · exact turn_list rfl
  · cases steps
    rename_i fetches
    exact turn_fetch fetches
  · cases steps
    exact .skip _ rfl (Nat.zero_le _)
  · cases steps

/-- A moment keeps within a cap. While directories are listed no content has been asked for. -/
structure Within (cap : Int) (m : Moment) : Prop where
  files : m.files.length ≤ cap
  contents : m.contents + m.todo.left ≤ m.files.length
  walking : m.todo.isWalk = true → m.contents = 0
  /-- What is asked for after a content is a content. -/
  ordered : m.asked.Pairwise fun a b => a.isContent = true → b.isContent = true

theorem within_start (positive : 0 ≤ cap) : start.Within cap where
  files := positive
  contents := Nat.le_refl _
  walking _ := rfl
  ordered := .nil

theorem contents_listing (asked : List Asked) (request : Request) :
    (asked ++ [Asked.listing request]).countP Asked.isContent = asked.countP Asked.isContent := by
  simp [Asked.isContent]

theorem contents_content (asked : List Asked) (request : Request) :
    (asked ++ [Asked.content request]).countP Asked.isContent =
      asked.countP Asked.isContent + 1 := by
  simp [Asked.isContent]

/-- Every step of a scan keeps within the cap. -/
theorem Within.turn (within : m.Within cap) (turn : Turn cap m m') : m'.Within cap := by
  obtain ⟨files, contents, walking, ordered⟩ := within
  cases turn with
  | pass walks todo none =>
    refine ⟨files, ?_, fun _ => walking walks, ordered⟩
    simp only [none, Moment.contents] at contents ⊢
    omega
  | collect walks few e todo none =>
    refine ⟨?_, ?_, fun _ => walking walks, ordered⟩
    · simp only [List.length_append, List.length_singleton]
      omega
    · simp only [none, List.length_append, Moment.contents] at contents ⊢
      omega
  | list walks request todo none =>
    have zero := walking walks
    refine ⟨files, ?_, fun _ => (contents_listing _ _).trans zero, ?_⟩
    · simp only [none, Moment.contents, contents_listing] at contents ⊢
      omega
    · -- While directories are listed, no content stands in front.
      refine List.pairwise_append.mpr ⟨ordered, List.pairwise_singleton _ _, ?_⟩
      intro earlier member _ _ content
      exact absurd content (List.countP_eq_zero.mp zero earlier member)
  | settle walks =>
    have zero := walking walks
    refine ⟨files, ?_, fun walk => (nomatch walk), ordered⟩
    simp only [Todo.left, Moment.contents] at zero ⊢
    omega
  | skip todo walked fewer =>
    refine ⟨files, ?_, fun walk => absurd (walked.symm.trans walk) nofun, ordered⟩
    simp only [Moment.contents] at contents ⊢
    omega
  | fetch request todo walked fewer =>
    refine ⟨files, ?_, fun walk => absurd (walked.symm.trans walk) nofun, ?_⟩
    · simp only [Moment.contents, contents_content] at contents ⊢
      omega
    · refine List.pairwise_append.mpr ⟨ordered, List.pairwise_singleton _ _, ?_⟩
      intro _ _ last single _
      rw [List.mem_singleton.mp single]
      rfl

/-- Every moment that a scan comes to keeps within the cap. -/
theorem Within.reaches (within : m.Within cap) (reaches : Reaches host client repo cap past m m') :
    m'.Within cap := by
  induction reaches with
  | refl => exact within
  | tail _ steps ih => exact ih.turn (turn_next steps)

/-! ## To the end of a scan -/

/-- What going through a listing has come to, as a moment of a scan. -/
def Taken (asked : List Asked) : Except Mishap (List Entry × List Json) → Moment → Prop
  | .ok (files, pending), m => m = ⟨asked, files, .walk [] pending⟩
  | .error _, m => m.asked = asked ∧ m.todo = .nothing

variable (host client repo cap past)

/-- A listing is gone through entry by entry. -/
theorem reaches_takeEntries (asked : List Asked) (files es : List Entry) (pending : List Json) :
    ∃ m, Reaches host client repo cap past ⟨asked, files, .walk es pending⟩ m ∧
      Taken asked (Walk.takeEntries cap files pending es) m := by
  fun_induction Walk.takeEntries cap files pending es with
  | case1 files pending => exact ⟨_, .refl, rfl⟩
  | case2 files pending e entries enough =>
    refine ⟨_, .single ?_, rfl⟩
    simp only [next, look, if_pos enough]
  | case3 files pending e entries few m unclear =>
    refine ⟨⟨asked, files, .nothing⟩, .single ?_, rfl, rfl⟩
    simp only [next, look, if_neg few, unclear]
  | case4 files pending e entries few wants ih =>
    obtain ⟨m, reaches, taken⟩ := ih
    refine ⟨m, .head ?_ reaches, taken⟩
    simp only [next, look, if_neg few, wants]
  | case5 files pending e entries few unwanted m unclear =>
    refine ⟨⟨asked, files, .nothing⟩, .single ?_, rfl, rfl⟩
    simp only [next, look, if_neg few, unwanted, unclear]
  | case6 files pending e entries few unwanted enters ih =>
    obtain ⟨m, reaches, taken⟩ := ih
    refine ⟨m, .head ?_ reaches, taken⟩
    simp only [next, look, if_neg few, unwanted, enters]
  | case7 files pending e entries few unwanted skipped ih =>
    obtain ⟨m, reaches, taken⟩ := ih
    refine ⟨m, .head ?_ reaches, taken⟩
    simp only [next, look, if_neg few, unwanted, skipped]

variable {host client repo cap past}

/-- What a walk has come to within some listings, as a moment of its scan. -/
inductive Walked (listings : Nat) : Option Walk → Moment → Prop where
  | collected {walk : Walk} {m : Moment} (requests : m.requests = walk.requests)
    (outcome : walk.outcome = .ok m.files) (todo : m.todo = .fetch m.files) :
    Walked listings (some walk) m
  | stopped {walk : Walk} {m : Moment} (requests : m.requests = walk.requests) (fault : HostFault)
    (outcome : walk.outcome = .error fault) (todo : m.todo = .nothing) :
    Walked listings (some walk) m
  | unended {m : Moment} (requests : m.requests.length = listings)
    (walks : m.todo.isWalk = true) : Walked listings none m

theorem map_request_listing {asked : List Asked} {made : List Request}
    (same : asked.map Asked.request = made) (request : Request) :
    (asked ++ [Asked.listing request]).map Asked.request = made ++ [request] := by
  rw [List.map_append, same]
  rfl

theorem length_add_one {made : List Request} {listings total : Nat} (request : Request)
    (within : made.length + (listings + 1) = total) :
    (made ++ [request]).length + listings = total := by
  rw [List.length_append, List.length_singleton]
  omega

theorem next_list {asked : List Asked} {made : List Request} {files : List Entry} {path : Json}
    {pending : List Json} (same : asked.map Asked.request = made) (few : ¬ cap ≤ files.length) :
    next host client repo cap past ⟨asked, files, .walk [] (path :: pending)⟩ =
      some ⟨asked ++ [.listing (client.listingRequest repo.owner repo.name path)], files,
        listed path pending (Client.listingOf
          (host (past ++ made) (client.listingRequest repo.owner repo.name path)))⟩ := by
  simp only [next, if_neg few, list, requests, same]

/-- A walk is gone through moment by moment. -/
theorem reaches_explore {listings total : Nat} {made : List Request} (warnings : List String)
    (files : List Entry) (pending : List Json) (within : made.length + listings = total)
    {asked : List Asked} (same : asked.map Asked.request = made) :
    ∃ m, Reaches host client repo cap past ⟨asked, files, .walk [] pending⟩ m ∧
      Walked total (Walk.explore host client repo.owner repo.name cap past listings made warnings
        files pending) m := by
  -- The walk counts its requests and the moment holds them: each listing adds one to both.
  fun_induction Walk.explore host client repo.owner repo.name cap past listings made warnings files
    pending generalizing asked
  case case1 made _ files =>
    exact ⟨⟨asked, files, .fetch files⟩, .single rfl, .collected same rfl rfl⟩
  case case2 made _ files _ _ enough =>
    refine ⟨⟨asked, files, .fetch files⟩, .single ?_, .collected same rfl rfl⟩
    simp only [next, if_pos enough]
  case case3 made _ files _ _ _ =>
    exact ⟨_, .refl, .unended ((congrArg _ same).trans within) rfl⟩
  case case4 made _ files path pending few listings request _ _ fault failed present ih =>
    obtain ⟨m, reaches, walked⟩ := ih (length_add_one request within)
      (map_request_listing same request)
    refine ⟨m, .head ((next_list same few).trans ?_) reaches, walked⟩
    rw [show Client.listingOf _ = _ from failed, listed, if_pos present]
  case case5 made _ files path pending few _ request _ _ fault failed absent =>
    refine ⟨_, .single (next_list same few),
      .stopped (map_request_listing same request) _ rfl ?_⟩
    show listed _ _ (Client.listingOf _) = _
    rw [show Client.listingOf _ = _ from failed, listed, if_neg absent]
  case case6 made _ files path pending few _ request _ _ e unknown failed =>
    refine ⟨_, .single (next_list same few),
      .stopped (map_request_listing same request) _ rfl ?_⟩
    show listed _ _ (Client.listingOf _) = _
    rw [show Client.listingOf _ = _ from failed]
    cases e with
    | repository fault => exact absurd rfl (unknown fault)
    | mishap => rfl
  case case7 made _ files path pending few _ request _ _ entries listing m unclear =>
    obtain ⟨m, reaches, taken⟩ := reaches_takeEntries host client repo cap past
      (asked ++ [.listing request]) files entries pending
    rw [unclear] at taken
    obtain ⟨stands, nothing⟩ := taken
    refine ⟨m, .head ((next_list same few).trans ?_) reaches,
      .stopped ((congrArg _ stands).trans (map_request_listing same request)) _ rfl nothing⟩
    rw [show Client.listingOf _ = _ from listing, listed]
  case case8 made _ files path pending few _ request _ _ entries listing _ _ took ih =>
    obtain ⟨m, reaches, taken⟩ := reaches_takeEntries host client repo cap past
      (asked ++ [.listing request]) files entries pending
    rw [took] at taken
    cases taken
    obtain ⟨m', goes, walked⟩ := ih (length_add_one request within)
      (map_request_listing same request)
    refine ⟨m', .head ((next_list same few).trans ?_) (reaches.trans goes), walked⟩
    rw [show Client.listingOf _ = _ from listing, listed]

variable (host client repo cap past)

theorem reaches_collect (listings : Nat) :
    ∃ m, Reaches host client repo cap past start m ∧
      Walked listings (client.collect host past repo.owner repo.name cap listings) m :=
  reaches_explore [] [] [.str ""] (Nat.zero_add listings) rfl

variable {repo cap past}

/-- A file that has an address is asked for. After that the scan goes on, or it stops. -/
theorem fetched_course (total i : Nat) {e : Entry} (present : e.downloadUrl.isPresent = true)
    (es : List Entry) (past : List Request) :
    let request := client.fileRequest e.downloadUrl
    let content := Client.contentOf (host past request)
    let course := Course.ofEntriesFrom host client total past i (e :: es)
    (fetched e es content = .fetch es ∧ course.requests = request ::
      (Course.ofEntriesFrom host client total (past ++ [request]) (i + 1) es).requests) ∨
    (fetched e es content = .nothing ∧ course.requests = [request]) := by
  intro request content course
  simp only [course, Course.ofEntriesFrom, present, Bool.not_true, Bool.false_eq_true, if_false,
    Course.announcing, Course.requesting]
  rw [show Client.contentOf (host past (client.fileRequest e.downloadUrl)) = content from rfl]
  rcases content with (_ | _) | body
  · exact .inl ⟨rfl, rfl⟩
  · exact .inr ⟨rfl, rfl⟩
  · rw [fetched]
    by_cases empty : body = ""
    · simp only [if_pos empty]
      exact .inl ⟨trivial, rfl⟩
    · simp only [if_neg empty]
      cases e.path with
      | str => exact .inl ⟨rfl, rfl⟩
      | _ => exact .inr ⟨rfl, rfl⟩

variable (repo cap past)

/-- The files that were collected are fetched one after another. -/
theorem reaches_ofEntriesFrom (total i : Nat) (asked : List Asked) (files es : List Entry) :
    ∃ m, Reaches host client repo cap past ⟨asked, files, .fetch es⟩ m ∧ m.files = files ∧
      m.todo = .nothing ∧
      m.requests = asked.map Asked.request ++ (Course.ofEntriesFrom host client total
        (past ++ asked.map Asked.request) i es).requests := by
  induction es generalizing i asked with
  | nil => exact ⟨_, .single rfl, rfl, rfl, (List.append_nil _).symm⟩
  | cons e es ih =>
    by_cases present : e.downloadUrl.isPresent = true
    · have steps : next host client repo cap past ⟨asked, files, .fetch (e :: es)⟩ =
          some ⟨asked ++ [.content (client.fileRequest e.downloadUrl)], files,
            fetched e es (Client.contentOf (host (past ++ asked.map Asked.request)
              (client.fileRequest e.downloadUrl)))⟩ := by
        simp only [next, fetch, present, Bool.not_true, Bool.false_eq_true, if_false, requests]
      obtain ⟨goes, made⟩ | ⟨stops, made⟩ := fetched_course host client total i
        present es (past ++ asked.map Asked.request)
      · rw [goes] at steps
        obtain ⟨m, reaches, same, nothing, requests⟩ := ih (i + 1) (asked ++ [.content _])
        refine ⟨m, .head steps reaches, same, nothing, ?_⟩
        rw [requests, made]
        simp [Asked.request]
      · rw [stops] at steps
        refine ⟨_, .single steps, rfl, rfl, ?_⟩
        rw [made, requests, List.map_append]
        rfl
    · obtain ⟨m, reaches, same, nothing, made⟩ := ih (i + 1) asked
      refine ⟨m, .head ?_ reaches, same, nothing, ?_⟩
      · simp only [next, fetch, present, Bool.not_false, if_true]
      · rw [made, Course.ofEntriesFrom]
        simp only [present, Bool.not_false, if_true]
        rfl

variable {host client repo cap past}

/-- **A scan whose walk ends comes, moment by moment, to the requests of its course**, and has then
nothing left to do. The files that it has collected then are those that its walk came to. -/
theorem reaches_ofRepository {listings : Nat} {walk : Walk}
    (walked : client.collect host past repo.owner repo.name cap listings = some walk) :
    ∃ m, Reaches host client repo cap past start m ∧ m.todo = .nothing ∧
      m.requests = (Course.ofRepository host client past repo cap listings).requests ∧
      ∀ entries, walk.outcome = .ok entries → m.files = entries := by
  simp only [Course.ofRepository, walked, Course.announcing, Course.requesting, Course.warning]
  obtain ⟨m, reaches, came⟩ := reaches_collect host client repo cap past listings
  rw [walked] at came
  cases came with
  | stopped requests fault outcome todo =>
    refine ⟨m, reaches, todo, ?_, fun entries ok => ?_⟩
    · rw [requests, outcome]
      exact (List.append_nil _).symm
    · rw [outcome] at ok
      cases ok
  | collected requests outcome todo =>
    obtain ⟨m', goes, same, nothing, made⟩ := reaches_ofEntriesFrom host client repo
      cap past m.files.length 0 m.asked m.files m.files
    have stands : m = ⟨m.asked, m.files, .fetch m.files⟩ := by rw [← todo]
    rw [stands] at reaches
    refine ⟨m', reaches.trans goes, nothing, ?_, fun entries ok => ?_⟩
    · rw [made, ← requests, outcome]
      rcases m.files with _ | ⟨e, es⟩
      · rfl
      · rfl
    · rw [outcome] at ok
      cases ok
      exact same

/-- A scan whose walk does not end within some listings comes to ask for as many. -/
theorem reaches_of_unended {listings : Nat}
    (unended : client.collect host past repo.owner repo.name cap listings = none) :
    ∃ m, Reaches host client repo cap past start m ∧ m.todo.isWalk = true ∧
      m.requests.length = listings := by
  obtain ⟨m, reaches, came⟩ := reaches_collect host client repo cap past listings
  rw [unended] at came
  cases came with
  | unended requests walks => exact ⟨m, reaches, walks, requests⟩

end Moment
end LeakScan
