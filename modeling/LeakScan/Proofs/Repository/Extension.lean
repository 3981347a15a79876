import LeakScan.Proofs.Repository.LevelOrder

/-!
# Walks with a higher cap

Two walks through one repository, of which one may collect more files than the other, ask for the
same listings and collect the same files until the one with the lower cap has enough
(`takeEntries_of_le`). It may come to that in the middle of a listing; then it ends, and what the
other goes on to collect, ask for and warn of stands behind that (`collect_take_of_le`). The host
may reply to a request in view of those before it: both have made the same until then.
-/

namespace LeakScan
set_option autoImplicit false

namespace Walk

/-- What a walk that collects `files` comes to when it may collect `cap` of them only: the first
files, by the first requests and with the first warnings. -/
structure CutsShort (cap : Int) (files : List Entry) (longer shorter : Walk) : Prop where
  outcome : shorter.outcome = .ok (files.take cap.toNat)
  requests : shorter.requests <+: longer.requests
  warnings : shorter.warnings <+: longer.warnings

/-! ## Nothing is taken back -/

/-- Going through a listing keeps the files that were collected before. -/
theorem files_prefix_of_takeEntries {cap : Int} {files files' entries : List Entry}
    {pending pending' : List Json}
    (taken : takeEntries cap files pending entries = .ok (files', pending')) :
    files <+: files' := by
  fun_induction takeEntries cap files pending entries with
  | case1 | case2 =>
    cases taken
    exact List.prefix_rfl
  | case3 | case5 => cases taken
  | case4 files pending e entries few wants ih =>
    exact (List.prefix_append files [e]).trans (ih taken)
  | case6 files pending e entries few unwanted enters ih
  | case7 files pending e entries few unwanted skipped ih => exact ih taken

variable {host : Host} {client : Client} {owner repo : String} {cap cap' : Int}
  {past : List Request} {listings : Nat} {made : List Request} {warnings : List String}
  {files files' entries collected : List Entry} {pending pending' : List Json} {walk : Walk}

/-- A walk keeps the files that it has collected. -/
theorem files_prefix_of_explore
    (ends : explore host client owner repo cap past listings made warnings files pending =
      some walk)
    (outcome : walk.outcome = .ok collected) : files <+: collected := by
  fun_induction explore host client owner repo cap past listings made warnings files pending
  case case1 | case2 =>
    cases ends
    cases outcome
    exact List.prefix_rfl
  case case3 => cases ends
  case case4 ih => exact ih ends
  case case5 | case6 | case7 =>
    cases ends
    cases outcome
  case case8 takes ih => exact (files_prefix_of_takeEntries takes).trans (ih ends)

/-- A walk takes no warning back. -/
theorem warnings_prefix_of_explore
    (ends : explore host client owner repo cap past listings made warnings files pending =
      some walk) : warnings <+: walk.warnings := by
  fun_induction explore host client owner repo cap past listings made warnings files pending
  case case1 | case2 | case5 | case6 | case7 =>
    cases ends
    exact List.prefix_rfl
  case case3 => cases ends
  case case4 ih => exact (List.prefix_append _ _).trans (ih ends)
  case case8 ih => exact ih ends

/-! ## In step until there is enough -/

theorem takeEntries_enough (enough : cap ≤ files.length) :
    takeEntries cap files pending entries = .ok (files, pending) := by
  cases entries with
  | nil => rfl
  | cons e entries => rw [takeEntries, if_pos enough]

/-- Where a listing can be gone through with the higher cap it can be with the lower one. If there
is room left then, nothing is different. -/
theorem takeEntries_of_le (le : cap ≤ cap')
    (taken : takeEntries cap' files pending entries = .ok (files', pending')) :
    ∃ first lined, takeEntries cap files pending entries = .ok (first, lined) ∧
      (first.length < cap → first = files' ∧ lined = pending') := by
  fun_induction takeEntries cap' files pending entries with
  | case1 =>
    cases taken
    exact ⟨_, _, rfl, fun _ => ⟨rfl, rfl⟩⟩
  | case2 files pending e entries enough =>
    cases taken
    exact ⟨_, _, takeEntries_enough (le.trans enough), fun _ => ⟨rfl, rfl⟩⟩
  | case3 | case5 => cases taken
  | case4 files pending e entries few wants ih =>
    by_cases enough : cap ≤ files.length
    · exact ⟨_, _, takeEntries_enough enough, fun room => absurd enough room.not_ge⟩
    · rw [takeEntries, if_neg enough, wants]
      exact ih taken
  | case6 files pending e entries few unwanted answer ih
  | case7 files pending e entries few unwanted answer ih =>
    by_cases enough : cap ≤ files.length
    · exact ⟨_, _, takeEntries_enough enough, fun room => absurd enough room.not_ge⟩
    · rw [takeEntries, if_neg enough, unwanted]
      simp only [answer]
      exact ih taken

/-- What is collected with the lower cap stands first in what is collected with the higher one. -/
theorem eq_take_of_takeEntries {first : List Entry} {lined : List Json} (le : cap ≤ cap')
    (fits : files.length ≤ cap.toNat)
    (taken : takeEntries cap' files pending entries = .ok (files', pending'))
    (taken' : takeEntries cap files pending entries = .ok (first, lined)) :
    first = files'.take cap.toNat := by
  have fewer : cap.toNat ≤ cap'.toNat := Int.toNat_le_toNat le
  rw [takeEntries_eq_take taken' fits, takeEntries_eq_take taken (fits.trans fewer),
    List.take_take, Nat.min_eq_left fewer]

/-- Where a walk has as many files as the lower cap allows, it is cut short to these. -/
theorem cutsShort_of_full (full : cap.toNat ≤ files.length)
    (ends : explore host client owner repo cap' past listings made warnings files pending =
      some walk)
    (outcome : walk.outcome = .ok collected) :
    CutsShort cap collected walk ⟨made, warnings, .ok (files.take cap.toNat)⟩ where
  outcome := by
    obtain ⟨more, rfl⟩ := files_prefix_of_explore ends outcome
    rw [List.take_append_of_le_length full]
  requests := made_prefix_requests ends
  warnings := warnings_prefix_of_explore ends

/-- A walk that has nothing left to do with the lower cap is one with the higher cap cut short. -/
theorem explore_of_idle (idle : pending = [] ∨ cap ≤ files.length)
    (fits : files.length ≤ cap.toNat)
    (ends : explore host client owner repo cap' past listings made warnings files pending =
      some walk)
    (outcome : walk.outcome = .ok collected) :
    ∃ shorter, explore host client owner repo cap past listings made warnings files pending =
        some shorter ∧ CutsShort cap collected walk shorter := by
  have all : files.take cap.toNat = files := List.take_of_length_le fits
  rcases idle with rfl | enough
  · rw [explore_nil] at ends
    cases ends
    cases outcome
    exact ⟨_, explore_nil, congrArg _ all.symm, List.prefix_rfl, List.prefix_rfl⟩
  · have full : cap.toNat ≤ files.length := by omega
    have cut := cutsShort_of_full full ends outcome
    rw [all] at cut
    exact ⟨_, explore_enough enough, cut⟩

/-- A walk that collects files with the higher cap is cut short by the lower one. -/
theorem explore_of_le (le : cap ≤ cap') (fits : files.length ≤ cap.toNat)
    (ends : explore host client owner repo cap' past listings made warnings files pending =
      some walk)
    (outcome : walk.outcome = .ok collected) :
    ∃ shorter, explore host client owner repo cap past listings made warnings files pending =
        some shorter ∧ CutsShort cap collected walk shorter := by
  induction listings generalizing made warnings files pending with
  | zero =>
    by_cases idle : pending = [] ∨ cap ≤ files.length
    · exact explore_of_idle idle fits ends outcome
    obtain ⟨some, few⟩ := not_or.mp idle
    obtain ⟨path, pending, rfl⟩ := List.exists_cons_of_ne_nil some
    rw [explore, if_neg fun more => few (le.trans more)] at ends
    cases ends
  | succ listings ih =>
    by_cases idle : pending = [] ∨ cap ≤ files.length
    · exact explore_of_idle idle fits ends outcome
    obtain ⟨some, few⟩ := not_or.mp idle
    obtain ⟨path, pending, rfl⟩ := List.exists_cons_of_ne_nil some
    -- Both ask for the listing of the same directory, after the same requests.
    rw [explore, if_neg fun more => few (le.trans more)] at ends
    rw [explore, if_neg few]
    simp only at ends ⊢
    split at ends
    · split at ends
      · rename_i present
        rw [if_pos present]
        exact ih fits ends
      · cases ends
        cases outcome
    · cases ends
      cases outcome
    · split at ends
      · cases ends
        cases outcome
      · rename_i files' pending' taken
        obtain ⟨first, lined, taken', same⟩ := takeEntries_of_le le taken
        rw [taken']
        by_cases room : first.length < cap
        · obtain ⟨rfl, rfl⟩ := same room
          exact ih (by omega) ends
        · have cut := eq_take_of_takeEntries le fits taken taken'
          have full : cap.toNat ≤ files'.length := by
            have short := congrArg List.length cut
            rw [List.length_take] at short
            omega
          exact ⟨_, explore_enough (by omega), cut ▸ cutsShort_of_full full ends outcome⟩

/-! ## From the root -/

/-- **A higher cap only extends the walk.** Where a walk collects files with some cap, one with a
lower cap ends too, and within as many listings: with the first of these files, as many as it may
collect, after the first of the requests. More listings make no difference to that. -/
theorem collect_take_of_le (host : Host) (client : Client) (owner repo : String)
    (past : List Request) {cap cap' : Int} (le : cap ≤ cap')
    {listings : Nat} {walk : Walk}
    (ends : client.collect host past owner repo cap' listings = some walk)
    {collected : List Entry} (outcome : walk.outcome = .ok collected) :
    ∃ shorter : Walk,
      (∀ more, listings ≤ more →
        client.collect host past owner repo cap more = some shorter) ∧
      (∀ other fewer, client.collect host past owner repo cap fewer = some other →
        other = shorter) ∧
      shorter.outcome = .ok (collected.take cap.toNat) ∧
      shorter.requests <+: walk.requests ∧ shorter.warnings <+: walk.warnings := by
  obtain ⟨shorter, comes, cut⟩ := explore_of_le le (Nat.zero_le _) ends outcome
  refine ⟨shorter, fun more enough => explore_mono enough comes, ?_, cut.outcome, cut.requests,
    cut.warnings⟩
  intro other fewer comes'
  have both := explore_mono (Nat.le_max_left listings fewer) comes
  rw [explore_mono (Nat.le_max_right listings fewer) comes'] at both
  exact Option.some.inj both

/-- A host that lists one thing after another, whatever it is asked for. -/
def listingInTurn (listings : List Json) : Host := fun past _ =>
  match listings[past.length]? with
  | some listing => .response 200 listing.indented
  | none => .unreachable "down"

/-- Two directories and a file, two files, and one. -/
def turns : List Json :=
  [itemListing [("src", "dir"), ("docs", "dir"), ("a.py", "file")],
    itemListing [("src/b.py", "file"), ("src/c.py", "file")],
    itemListing [("docs/d.py", "file")]]

theorem collect_turns :
    ∃ requests, Service.publicClient.collect (listingInTurn turns) [] "o" "r" 50 3 =
      some ⟨requests, [], .ok [item "a.py" "file", item "src/b.py" "file", item "src/c.py" "file",
        item "docs/d.py" "file"]⟩ := by
  have lists (past : List Request) (path : Json) (items : List (String × String))
      (turn : turns[past.length]? = some (itemListing items)) :
      Client.listingOf (listingInTurn turns past
        (Service.publicClient.listingRequest "o" "r" path)) =
          .ok (Entry.ofListing (itemListing items)) := by
    rw [listingInTurn, turn]
    exact Service.listingOf_indented (readable_itemListing items)
  have root : takeEntries 50 [] [] (Entry.ofListing (itemListing
      [("src", "dir"), ("docs", "dir"), ("a.py", "file")])) =
        .ok ([item "a.py" "file"], [.str (.whole "src"), .str (.whole "docs")]) := rfl
  have source : takeEntries 50 [item "a.py" "file"] [.str (.whole "docs")] (Entry.ofListing
      (itemListing [("src/b.py", "file"), ("src/c.py", "file")])) =
        .ok ([item "a.py" "file", item "src/b.py" "file", item "src/c.py" "file"],
          [.str (.whole "docs")]) := rfl
  have documents : takeEntries 50 [item "a.py" "file", item "src/b.py" "file",
      item "src/c.py" "file"] [] (Entry.ofListing (itemListing [("docs/d.py", "file")])) =
        .ok ([item "a.py" "file", item "src/b.py" "file", item "src/c.py" "file",
          item "docs/d.py" "file"], []) := rfl
  rw [Client.collect, explore_of_listing (by decide) (lists _ _ _ rfl) root,
    explore_of_listing (by decide) (lists _ _ _ rfl) source,
    explore_of_listing (by decide) (lists _ _ _ rfl) documents, explore_nil]
  exact ⟨_, rfl⟩

/-- Of the files that such a host lists, the walk for two takes the first two; it ends in the middle
of the second listing, where the walk for fifty goes on. -/
theorem collect_take_of_le_midway :
    let client := Service.publicClient
    let host := listingInTurn turns
    (2 : Int) ≤ 50 ∧ ∃ walk collected,
      client.collect host [] "o" "r" 50 3 = some walk ∧ walk.outcome = .ok collected ∧
      collected.length = 4 ∧
      ∃ shorter : Walk, client.collect host [] "o" "r" 2 3 = some shorter ∧
        shorter.outcome = .ok [item "a.py" "file", item "src/b.py" "file"] ∧
        shorter.requests <+: walk.requests := by
  intro client host
  have le : (2 : Int) ≤ 50 := by decide
  obtain ⟨requests, walked⟩ := collect_turns
  obtain ⟨shorter, comes, -, outcome, asked, -⟩ :=
    collect_take_of_le host client "o" "r" [] le walked rfl
  exact ⟨le, _, _, walked, rfl, rfl, shorter, comes 3 (Nat.le_refl 3), outcome, asked⟩

end Walk
end LeakScan
