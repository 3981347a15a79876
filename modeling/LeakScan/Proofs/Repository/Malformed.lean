import LeakScan.Proofs.Repository.Endless
import Mathlib.Data.List.Flatten

/-!
# Malformed listings

A host may answer anything when it is asked for a listing. What is no object in a listing, an entry
of another type, and a directory that cannot be listed cost no more than what stands there: a walk
collects the first files in the levels of what is left. It ends without files at the first
directory that stops it, and there are three that do: one with a listing nested too deep to be
read, one that lists a file or a directory with a name that is no text, and one that cannot be
listed and whose path counts as absent, as that of the root does
(`malformed_listing_costs_subtree`).
-/

namespace LeakScan
set_option autoImplicit false

namespace Level

variable {α : Type} {below below' : α → List α}

/-- Where there is less below each thing, there is less in each level. -/
theorem levelFrom_sublist (fewer : ∀ x, (below x).Sublist (below' x)) (xs : List α) (k : Nat) :
    (levelFrom below xs k).Sublist (levelFrom below' xs k) := by
  induction k with
  | zero => exact List.Sublist.refl xs
  | succ k ih => exact (ih.flatMap below).trans (List.Sublist.flatMap_right _ fun x _ => fewer x)

theorem levels_sublist (fewer : ∀ x, (below x).Sublist (below' x)) (xs : List α) (n : Nat) :
    (levels below xs n).Sublist (levels below' xs n) :=
  List.Sublist.flatMap_right _ fun k _ => levelFrom_sublist fewer xs k

end Level

/-- A listing of a host that answers fails by a fault of the repository or by its depth. -/
theorem Host.Answers.tooDeep {host : Host} (answers : host.Answers) {client : Client}
    {owner repo : String} {path : Json} {m : Mishap}
    (fails : host.listings client owner repo path = .error (.mishap m)) :
    ∃ isObject, m = .tooDeep isObject := by
  rcases Client.listingOf_eq_error (answers _ _) fails with ⟨fault, known⟩ | ⟨isObject, known⟩
  · cases known
  · exact ⟨isObject, HostFault.mishap.inj known⟩

namespace Walk

/-- The files worth fetching in the first `m` levels of a repository. -/
def filesIn (listing : Json → Except HostFault (List Entry)) (m : Nat) : List Entry :=
  (Level.levels (below listing) [.str (.whole "")] m).flatMap (filesAt listing)

/-- Listings of which the spoiled ones are empty. -/
def without (spoiled : Json → Bool) (listing : Json → Except HostFault (List Entry)) (path : Json) :
    Except HostFault (List Entry) :=
  if spoiled path then .ok [] else listing path

variable {host : Host} {client : Client} {owner repo : String} {cap : Int} {past : List Request}
  {listing ideal : Json → Except HostFault (List Entry)} {spoiled : Json → Bool} {listings : Nat}
  {made : List Request} {warnings : List String} {files entries : List Entry}
  {pending : List Json} {path : Json} {walk : Walk} {fault : HostFault}

/-! ## What a spoiled listing costs -/

/-- Where each directory lists less, there are fewer files in the levels. -/
theorem filesIn_sublist (fewer : ∀ path, (listedAt ideal path).Sublist (listedAt listing path))
    (m : Nat) : (filesIn ideal m).Sublist (filesIn listing m) := by
  have deeper := Level.levels_sublist
    (fun path => ((fewer path).filter Entry.isEntered).map Entry.path) [Json.str (.whole "")] m
  refine (deeper.flatMap (filesAt ideal)).trans (List.Sublist.flatMap_right _ fun path _ => ?_)
  exact (fewer path).filter Entry.isWorthwhile

theorem listedAt_without_of_spoiled (bad : spoiled path = true) :
    listedAt (without spoiled ideal) path = [] := by
  rw [listedAt, without, if_pos bad]
  rfl

theorem listedAt_without_of_whole (fine : spoiled path = false) :
    listedAt (without spoiled ideal) path = listedAt ideal path := by
  rw [listedAt, without, fine]
  rfl

/-- What is not listed by a spoiled directory, and does not stand below one, stays in the levels. -/
theorem filesIn_without_sublist (same : ∀ path, spoiled path = false → listing path = ideal path)
    (m : Nat) : (filesIn (without spoiled ideal) m).Sublist (filesIn listing m) := by
  refine filesIn_sublist (fun path => ?_) m
  cases bad : spoiled path with
  | true =>
    rw [listedAt_without_of_spoiled bad]
    exact List.nil_sublist _
  | false =>
    rw [listedAt_without_of_whole bad, listedAt, listedAt, same path bad]

/-- Spoiled directories that cannot be listed leave nothing else in the levels. -/
theorem filesIn_eq_without (same : ∀ path, spoiled path = false → listing path = ideal path)
    (fail : ∀ path, spoiled path = true → ∃ fault, listing path = .error fault) (m : Nat) :
    filesIn listing m = filesIn (without spoiled ideal) m := by
  refine (filesIn_sublist (fun path => ?_) m).antisymm (filesIn_without_sublist same m)
  cases bad : spoiled path with
  | true =>
    obtain ⟨fault, fails⟩ := fail path bad
    rw [listedAt, fails]
    exact List.nil_sublist _
  | false =>
    rw [listedAt_without_of_whole bad, listedAt, listedAt, same path bad]

/-! ## What stops a walk -/

/-- No directory that comes up stops a walk that ends with room left. -/
theorem not_stops_of_explore (lists : host.Lists client owner repo listing)
    (ends : explore host client owner repo cap past listings made warnings files pending =
      some walk)
    (collected : walk.outcome = .ok entries) (room : entries.length < cap) (n : Nat) :
    ∀ path ∈ Level.served (below listing) n pending, ¬ Stops listing path := by
  fun_induction explore host client owner repo cap past listings made warnings files pending
    generalizing n
  case case1 =>
    rw [Level.served_nil]
    exact List.forall_mem_nil _
  case case2 =>
    cases ends
    cases collected
    omega
  case case3 => cases ends
  case case4 made warnings files path pending few listings request reply made' fault failed present
      ih =>
    have fails : listing path = .error (.repository fault) := (lists _ path).symm.trans failed
    cases n with
    | zero => exact List.forall_mem_nil _
    | succ n =>
      have later := ih ends n
      rw [Level.served, below_of_error fails, List.append_nil]
      exact List.forall_mem_cons.mpr ⟨not_stops_of_fault fails present, later⟩
  case case5 | case6 | case7 =>
    cases ends
    cases collected
  case case8 made warnings files path pending few listings request reply made' listed opened files'
      pending' takes ih =>
    have opens : listing path = .ok listed := (lists _ path).symm.trans opened
    have room' : files'.length < cap := by
      by_contra full
      rw [explore_enough (by omega)] at ends
      cases ends
      cases collected
      omega
    cases n with
    | zero => exact List.forall_mem_nil _
    | succ n =>
      have later := ih ends n
      rw [takeEntries_pending takes room', ← below_of_ok opens] at later
      rw [Level.served]
      exact List.forall_mem_cons.mpr ⟨not_stops_of_takeEntries opens takes room', later⟩

/-- Nothing in the levels stops a walk from the root that ends with room left. -/
theorem not_stops_of_collect (lists : host.Lists client owner repo listing)
    (ends : client.collect host past owner repo cap listings = some walk)
    (collected : walk.outcome = .ok entries) (room : entries.length < cap) (m : Nat) :
    ∀ path ∈ Level.levels (below listing) [.str (.whole "")] m, ¬ Stops listing path := by
  intro path member
  let far := max m (Level.levels (below listing) [.str (.whole "")] m).length
  have first : Level.levels (below listing) [.str (.whole "")] m <+:
      Level.served (below listing) far [.str (.whole "")] :=
    Level.levels_prefix_served (Nat.le_max_left _ _) (Nat.le_max_right _ _)
  exact not_stops_of_explore lists ends collected room far path (first.subset member)

/-- Of the directories whose paths are texts only the root ends a walk by a fault of the
repository. -/
theorem Halts.eq_root {s : Text.Loose} {f : RepositoryFault}
    (halts : Halts listing (.str s) (.repository f)) : Json.str s = .str (.whole "") := by
  cases halts with
  | absent _ _ absent =>
    have empty : s = .whole "" := by simpa [Json.isPresent] using absent
    rw [empty]

/-- A directory that is served first and ends a walk is the only one that is listed. -/
theorem eq_nil_of_served {before : List Json} {n : Nat}
    (served : Level.served (below listing) (n + 1) [path] = before ++ [path])
    (passed : ∀ q ∈ before, ¬ Stops listing q) (stops : Stops listing path) : before = [] := by
  cases before with
  | nil => rfl
  | cons q before =>
    obtain ⟨rfl, -⟩ := List.cons.inj served
    exact absurd stops (passed _ List.mem_cons_self)

/-- A walk with room left ends where going through a listing fails. -/
theorem explore_of_mishap {m : Mishap} (few : files.length < cap)
    (lists : Client.listingOf (host (past ++ made) (client.listingRequest owner repo path)) =
      .ok entries)
    (fails : takeEntries cap files pending entries = .error m) :
    explore host client owner repo cap past (listings + 1) made warnings files (path :: pending) =
      some ⟨made ++ [client.listingRequest owner repo path], warnings, .error (.mishap m)⟩ := by
  rw [explore, if_neg (by omega)]
  simp only [lists, fails]

/-- **A malformed listing costs a subtree, or stops the walk.** A walk that ends with files has the
first of those in the levels, and with room left nothing there stops it. A walk that ends otherwise
does so at the last directory that it asks for: the listing is nested too deep, or names a file or a
directory by what is no text, or cannot be had and its path counts as absent. If that path is a text
the directory is the root, and the walk asks for nothing else. Whatever some spoiled directories
should list, all that is not listed by them and does not stand below them stays in the levels, and
nothing else does if they cannot be listed. -/
theorem malformed_listing_costs_subtree (host : Host) (steady : host.Steady)
    (answers : host.Answers) (client : Client) (owner repo : String) (cap : Int)
    (past : List Request) (listings : Nat) (walk : Walk)
    (ends : client.collect host past owner repo cap listings = some walk) :
    let listing := host.listings client owner repo
    let root := Json.str (.whole "")
    let inLevels := Level.levels (below listing) [root]
    (∀ files, walk.outcome = .ok files → ∃ n, ∀ m, n ≤ m →
      files = (filesIn listing m).take cap.toNat ∧
      (files.length < cap → ∀ path ∈ inLevels m, ¬ Stops listing path)) ∧
    (∀ fault, walk.outcome = .error fault → ∃ before path n,
      walk.requests = (before ++ [path]).map (client.listingRequest owner repo) ∧
      (∀ m, n ≤ m → before ++ [path] <+: inLevels m) ∧
      (∀ q ∈ before, ¬ Stops listing q) ∧ Halts listing path fault ∧
      (path = root → before = []) ∧
      (∀ m, listing path = .error (.mishap m) → ∃ isObject, m = .tooDeep isObject) ∧
      ∀ f s, fault = .repository f → path = .str s → path = root) ∧
    ∀ (ideal : Json → Except HostFault (List Entry)) (spoiled : Json → Bool),
      (∀ path, spoiled path = false → listing path = ideal path) →
      (∀ m, (filesIn (without spoiled ideal) m).Sublist (filesIn listing m)) ∧
      ((∀ path, spoiled path = true → ∃ fault, listing path = .error fault) →
        ∀ m, filesIn listing m = filesIn (without spoiled ideal) m) := by
  intro listing root inLevels
  have lists := steady.lists client owner repo
  refine ⟨?_, ?_, fun ideal spoiled same => ⟨filesIn_without_sublist same,
    filesIn_eq_without same⟩⟩
  · intro files collected
    obtain ⟨n, -, -, -, -, taken⟩ :=
      (explore_serves lists ends collected (Nat.zero_le _)).files_eq_take
    exact ⟨n, fun m deep => ⟨taken m deep, fun room =>
      not_stops_of_collect lists ends collected room m⟩⟩
  · intro fault stopped
    obtain ⟨before, path, served, requests, passed, halts⟩ := explore_halts lists ends stopped
    have first (m : Nat) (deep : before.length + 1 ≤ m) : before ++ [path] <+: inLevels m := by
      rw [← served, Level.served_eq_take [root] deep]
      exact List.take_prefix _ _
    refine ⟨before, path, before.length + 1, requests, first, passed, halts, ?_,
      fun m fails => answers.tooDeep fails, ?_⟩
    · rintro rfl
      exact eq_nil_of_served served passed halts.stops
    · rintro f s rfl rfl
      exact halts.eq_root

/-! ### A spoiled directory -/

theorem hosting_answers (client : Client) (owner repo : String) (listing? : String → Option Json) :
    (hosting client owner repo listing?).Answers := by
  intro past request kind message
  unfold hosting
  split
  · split <;> nofun
  · nofun

/-- The three levels as they would be if the directory that cannot be listed had a file in it. -/
def threeLevelsWhole (path : String) : Option Json :=
  if path = "docs" then some (itemListing [("docs/e.py", "file")]) else threeLevels path

theorem collect_threeLevels_whole :
    ∃ requests warnings, Service.publicClient.collect
      (hosting Service.publicClient "o" "r" threeLevels) [] "o" "r" 50 4 =
        some ⟨requests, warnings, .ok [item "a.py" "file", item "src/b.py" "file",
          item "src/lib/c.py" "file", item "src/lib/d.py" "file"]⟩ := by
  have replies (past : List Request) (path : String) := threeLevels_lists past (.str (.whole path))
  have root : takeEntries 50 [] [] (Entry.ofListing (itemListing
      [("src", "dir"), ("docs", "dir"), ("a.py", "file")])) =
        .ok ([item "a.py" "file"], [.str (.whole "src"), .str (.whole "docs")]) := rfl
  have source : takeEntries 50 [item "a.py" "file"] [.str (.whole "docs")] (Entry.ofListing
      (itemListing [("src/lib", "dir"), ("src/b.py", "file")])) =
        .ok ([item "a.py" "file", item "src/b.py" "file"],
          [.str (.whole "docs"), .str (.whole "src/lib")]) := rfl
  have library : takeEntries 50 [item "a.py" "file", item "src/b.py" "file"] [] (Entry.ofListing
      (itemListing [("src/lib/c.py", "file"), ("src/lib/d.py", "file")])) =
        .ok ([item "a.py" "file", item "src/b.py" "file", item "src/lib/c.py" "file",
          item "src/lib/d.py" "file"], []) := rfl
  rw [Client.collect, explore_of_listing (by decide) (replies _ "") root,
    explore_of_listing (by decide) (replies _ "src") source,
    explore_of_fault (by decide) (replies _ "docs") rfl,
    explore_of_listing (by decide) (replies _ "src/lib") library, explore_nil]
  exact ⟨_, _, rfl⟩

/-- With a directory that cannot be listed a walk through three levels collects the four files that
do not stand there. -/
theorem malformed_listing_costs_subtree_docs :
    let client := Service.publicClient
    let host := hosting client "o" "r" threeLevels
    let listing := host.listings client "o" "r"
    let spoiled (path : Json) : Bool := path.plain = "docs"
    host.Steady ∧ host.Answers ∧
      (∀ path, spoiled path = false → listing path = (hosted threeLevelsWhole).toHost path) ∧
      (∀ path, spoiled path = true → ∃ fault, listing path = .error fault) ∧
      ∃ walk files n, client.collect host [] "o" "r" 50 4 = some walk ∧ walk.outcome = .ok files ∧
        files.map Entry.path = [.str (.whole "a.py"), .str (.whole "src/b.py"),
          .str (.whole "src/lib/c.py"), .str (.whole "src/lib/d.py")] ∧
        files = (filesIn (without spoiled (hosted threeLevelsWhole).toHost) n).take 50 := by
  intro client host listing spoiled
  have steady := hosting_steady client "o" "r" threeLevels
  have answers := hosting_answers client "o" "r" threeLevels
  have listed : listing = (hosted threeLevels).toHost := funext (threeLevels_lists [])
  have same (path : Json) (fine : spoiled path = false) :
      listing path = (hosted threeLevelsWhole).toHost path := by
    have other : path.plain ≠ "docs" := of_decide_eq_false fine
    rw [listed, Listings.toHost, Listings.toHost, hosted, hosted, threeLevelsWhole, if_neg other]
  have fail (path : Json) (bad : spoiled path = true) : ∃ fault, listing path = .error fault := by
    have here : path.plain = "docs" := of_decide_eq_true bad
    rw [listed, Listings.toHost, hosted, here]
    exact ⟨_, rfl⟩
  obtain ⟨requests, warnings, walked⟩ := collect_threeLevels_whole
  obtain ⟨collects, -, costs⟩ :=
    malformed_listing_costs_subtree host steady answers client "o" "r" 50 [] 4 _ walked
  obtain ⟨n, first⟩ := collects _ rfl
  obtain ⟨-, costless⟩ := costs _ spoiled same
  refine ⟨steady, answers, same, fail, _, _, n, walked, rfl, rfl, ?_⟩
  rw [← costless fail n]
  exact (first n (Nat.le_refl n)).1

/-- Next to a file the root has a directory that lists a file with a name that is no text. -/
def nameless : String → Option Json
  | "" => some (itemListing [("a.py", "file"), ("src", "dir")])
  | "src" => some (.arr [.obj [("name", .null), ("type", .str "file")]])
  | _ => none

theorem nameless_lists :
    (hosting Service.publicClient "o" "r" nameless).Lists Service.publicClient "o" "r"
      (hosted nameless).toHost := by
  refine hosting_lists Service.publicClient "o" "r" ?_
  intro path listing found
  unfold nameless at found
  split at found
  · cases found
    exact readable_itemListing _
  · cases found
    have item : Json.Readable (Json.maxNesting - 1)
        (.obj [("name", .null), ("type", .str "file")]) := by
      refine @Json.Readable.obj (Json.maxNesting - 2) _ (by decide) (by simp) ?_
      exact List.forall_mem_cons.mpr ⟨.null, List.forall_mem_cons.mpr ⟨.str _, nofun⟩⟩
    exact @Json.Readable.arr (Json.maxNesting - 1) _ (List.forall_mem_cons.mpr ⟨item, nofun⟩)
  · cases found

/-- A walk fails, and not by a fault of the repository, if a directory below the root lists a file
with a name that is no text. -/
theorem walk_fails_nameless :
    let host := hosting Service.publicClient "o" "r" nameless
    host.Steady ∧ host.Answers ∧ ∃ walk,
      Service.publicClient.collect host [] "o" "r" 50 2 = some walk ∧
        walk.outcome = .error (.mishap (.notText .null "lower")) := by
  intro host
  have replies (past : List Request) (path : String) := nameless_lists past (.str (.whole path))
  have root : takeEntries 50 [] [] (Entry.ofListing (itemListing
      [("a.py", "file"), ("src", "dir")])) =
        .ok ([item "a.py" "file"], [.str (.whole "src")]) := rfl
  have source : takeEntries 50 [item "a.py" "file"] [] (Entry.ofListing
      (.arr [.obj [("name", .null), ("type", .str "file")]])) =
        .error (.notText .null "lower") := rfl
  refine ⟨hosting_steady _ _ _ _, hosting_answers _ _ _ _, ?_⟩
  rw [Client.collect, explore_of_listing (by decide) (replies _ "") root,
    explore_of_mishap (by decide) (replies _ "src") source]
  exact ⟨_, rfl, rfl⟩

end Walk
end LeakScan
