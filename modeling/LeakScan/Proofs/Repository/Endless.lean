import LeakScan.Proofs.Repository.LevelOrder
import Mathlib.Data.Fintype.Card
import Mathlib.Data.Set.Finite.Basic

/-!
# Walks that do not end

A listing may name any path as that of a directory: one that was listed before, an ancestor or, by
naming none, the root. A walk keeps no record of the directories that it listed. On a host whose
replies depend on the address alone it ends if there is an end to the directories below the root,
or if it comes upon enough files or something that stops it; otherwise it asks for ever
(`walk_ends_iff`).
-/

namespace LeakScan
set_option autoImplicit false

/-! ## The depth of levels -/

namespace Level

variable {α : Type} {below : α → List α} {x y : α} {xs : List α} {k m n : Nat}

/-- What is below a thing. There is an end to what is below `x` if `x` is accessible. -/
def Under (below : α → List α) (y x : α) : Prop := y ∈ below x

theorem levelFrom_eq_nil_of_le (empty : levelFrom below xs k = []) (le : k ≤ m) :
    levelFrom below xs m = [] := by
  induction le with
  | refl => exact empty
  | step _ ih => rw [levelFrom, ih, List.flatMap_nil]

theorem levelFrom_eq_nil_of_mem (empty : levelFrom below xs k = []) (member : y ∈ xs) :
    levelFrom below [y] k = [] := by
  obtain ⟨before, after, rfl⟩ := List.append_of_mem member
  rw [← List.singleton_append, levelFrom_append, levelFrom_append] at empty
  exact (List.append_eq_nil_iff.mp (List.append_eq_nil_iff.mp empty).2).1

/-- Some things have a last level if each of them has. -/
theorem exists_levelFrom_eq_nil (each : ∀ y ∈ xs, ∃ k, levelFrom below [y] k = []) :
    ∃ k, levelFrom below xs k = [] := by
  induction xs with
  | nil => exact ⟨0, rfl⟩
  | cons y ys ih =>
    obtain ⟨first, later⟩ := List.forall_mem_cons.mp each
    obtain ⟨k, emptyFirst⟩ := first
    obtain ⟨m, emptyLater⟩ := ih later
    refine ⟨max k m, ?_⟩
    rw [← List.singleton_append, levelFrom_append,
      levelFrom_eq_nil_of_le emptyFirst (Nat.le_max_left k m),
      levelFrom_eq_nil_of_le emptyLater (Nat.le_max_right k m), List.append_nil]

/-- There is an end to what is below a thing if and only if it has a last level. -/
theorem acc_iff_exists_levelFrom : Acc (Under below) x ↔ ∃ k, levelFrom below [x] k = [] := by
  have unfolded (x : α) (k : Nat) : levelFrom below [x] (k + 1) = levelFrom below (below x) k := by
    rw [← levelFrom_flatMap, List.flatMap_singleton]
  constructor
  · intro acc
    induction acc with
    | intro x _ ih =>
      obtain ⟨k, empty⟩ := exists_levelFrom_eq_nil ih
      exact ⟨k + 1, (unfolded x k).trans empty⟩
  · rintro ⟨k, empty⟩
    induction k generalizing x with
    | zero => cases empty
    | succ k ih =>
      refine ⟨x, fun y under => ?_⟩
      rw [unfolded] at empty
      exact ih (levelFrom_eq_nil_of_mem empty under)

/-- There is an end to what stands in the levels below a thing, if there is one below the thing. -/
theorem acc_of_mem_levelFrom (acc : Acc (Under below) x) (member : y ∈ levelFrom below [x] k) :
    Acc (Under below) y := by
  induction k generalizing y with
  | zero =>
    obtain rfl := List.mem_singleton.mp member
    exact acc
  | succ k ih =>
    obtain ⟨z, above, under⟩ := List.mem_flatMap.mp member
    exact (ih above).inv under

/-- There is no end to what leads back to itself. -/
theorem not_acc_of_leadsBack (back : Relation.TransGen (Under below) x x) :
    ¬ Acc (Under below) x := by
  intro acc
  have acc' : Acc (Relation.TransGen (Under below)) x := acc_transGen_iff.mpr acc
  induction acc' with
  | intro x _ ih => exact ih x back back acc

theorem acc_of_bare (bare : below x = []) : Acc (Under below) x := by
  refine ⟨x, fun y under => ?_⟩
  rw [Under, bare] at under
  cases under

/-- Where nothing leads back to itself and only some known things have others below them, there is
an end to what is below. -/
theorem acc_of_straight (known : List α) (bare : ∀ y, y ∉ known → below y = [])
    (straight : ∀ k, ∀ y ∈ levelFrom below [x] k, ¬ Relation.TransGen (Under below) y y) :
    Acc (Under below) x := by
  let Met := {y // y ∈ known ∧ ∃ k, y ∈ levelFrom below [x] k}
  let leads (z y : Met) : Prop := Relation.TransGen (Under below) z.1 y.1
  have finite : Finite Met := ((List.finite_toSet known).subset fun _ met => met.1).to_subtype
  have transitive : IsTrans Met leads := ⟨fun _ _ _ => .trans⟩
  have irreflexive : Std.Irrefl leads := by
    refine ⟨fun y back => ?_⟩
    obtain ⟨k, level⟩ := y.2.2
    exact straight k y.1 level back
  have wellFounded : WellFounded leads := Finite.wellFounded_of_trans_of_irrefl leads
  have each (y : Met) : Acc (Under below) y.1 := by
    induction y using wellFounded.induction with
    | _ y ih =>
      refine ⟨y.1, fun z under => ?_⟩
      by_cases isKnown : z ∈ known
      · obtain ⟨k, level⟩ := y.2.2
        have level' : z ∈ levelFrom below [x] (k + 1) := List.mem_flatMap.mpr ⟨y.1, level, under⟩
        exact ih ⟨z, isKnown, k + 1, level'⟩ (.single under)
      · exact acc_of_bare (bare z isKnown)
  by_cases isKnown : x ∈ known
  · exact each ⟨x, isKnown, 0, List.mem_cons_self⟩
  · exact acc_of_bare (bare x isKnown)

theorem mem_levels_of_mem_served (member : y ∈ served below n xs) : y ∈ levels below xs n := by
  rw [served_eq_take xs (Nat.le_refl n)] at member
  exact List.mem_of_mem_take member

/-- A queue that serves for long enough comes through the levels. -/
theorem levels_prefix_served (deep : n ≤ m) (long : (levels below xs n).length ≤ m) :
    levels below xs n <+: served below m xs := by
  rw [served_eq_take xs (Nat.le_refl m)]
  exact List.prefix_take_iff.mpr ⟨levels_isPrefix xs deep, long⟩

theorem levels_succ_eq_append (xs : List α) (n : Nat) :
    levels below xs (n + 1) = levels below xs n ++ levelFrom below xs n := by
  rw [levels, List.range_succ, List.flatMap_append, List.flatMap_singleton, ← levels]

/-- Below the last level there is nothing. -/
theorem levels_eq_of_empty (empty : levelFrom below xs k = []) (le : k ≤ m) :
    levels below xs m = levels below xs k := by
  induction le with
  | refl => rfl
  | step le ih =>
    rw [levels_succ_eq_append, ih, levelFrom_eq_nil_of_le empty le, List.append_nil]

/-- A queue that has nothing more to serve has come to the last level. -/
theorem exists_levelFrom_of_served
    (empty : ∀ later, n ≤ later → served below later xs = served below n xs) :
    ∃ k, levelFrom below xs k = [] := by
  refine ⟨n, ?_⟩
  have same : levels below xs (n + 1) = levels below xs n :=
    (levels_eq_served empty (Nat.le_succ n)).trans (levels_eq_served empty (Nat.le_refl n)).symm
  rw [levels_succ_eq_append] at same
  exact List.append_right_eq_self.mp same

end Level

/-! ## Walks -/

namespace Walk

/-- A directory at which a walk ends: its listing is none for a reason other than a fault of the
repository, the fault is that of the root, or the listing has an entry with a name that is no
text. -/
inductive Stops (listing : Json → Except HostFault (List Entry)) (path : Json) : Prop where
  | mishap (m : Mishap) (fails : listing path = .error (.mishap m))
  | root (fault : RepositoryFault) (fails : listing path = .error (.repository fault))
    (absent : path.isPresent = false)
  | entry (entries : List Entry) (e : Entry) (m : Mishap) (opens : listing path = .ok entries)
    (member : e ∈ entries) (fails : wanted e = .error m ∨ entered e = .error m)

/-- What a walk ends with at a directory that stops it. -/
inductive Halts (listing : Json → Except HostFault (List Entry)) (path : Json) :
    HostFault → Prop where
  | mishap (m : Mishap) (fails : listing path = .error (.mishap m)) :
    Halts listing path (.mishap m)
  | absent (fault : RepositoryFault) (fails : listing path = .error (.repository fault))
    (absent : path.isPresent = false) : Halts listing path (.repository fault)
  | file (entries : List Entry) (e : Entry) (opens : listing path = .ok entries)
    (member : e ∈ entries) (isFile : e.isOf "file" = true) (nameless : ∀ s, e.name ≠ .str s) :
    Halts listing path (.mishap (.notText e.name "lower"))
  | directory (entries : List Entry) (e : Entry) (opens : listing path = .ok entries)
    (member : e ∈ entries) (isDirectory : e.isOf "dir" = true) (nameless : ∀ s, e.name ≠ .str s) :
    Halts listing path
      (.mishap (if e.name.isKey then .notText e.name "startswith" else .notAKey e.name))

/-- What a walk meets when it goes on after some directories: they hold too few files and none
of them stops it. -/
structure Passes (cap : Int) (listing : Json → Except HostFault (List Entry)) (files : List Entry)
    (paths : List Json) : Prop where
  few : (files ++ paths.flatMap (filesAt listing)).length < cap
  passed : ∀ path ∈ paths, ¬ Stops listing path

variable {host : Host} {client : Client} {owner repo : String} {cap : Int} {past : List Request}
  {listing : Json → Except HostFault (List Entry)} {listings : Nat} {made : List Request}
  {warnings : List String} {files files' entries : List Entry} {pending pending' : List Json}
  {path : Json} {walk : Walk}

theorem length_filesAt_le (listing : Json → Except HostFault (List Entry)) {paths more : List Json}
    (first : paths <+: more) :
    (paths.flatMap (filesAt listing)).length ≤ (more.flatMap (filesAt listing)).length := by
  obtain ⟨rest, rfl⟩ := first
  rw [List.flatMap_append, List.length_append]
  exact Nat.le_add_right _ _

theorem Passes.of_isPrefix {paths : List Json} (passes : Passes cap listing files pending)
    (first : paths <+: pending) : Passes cap listing files paths where
  few := by
    have some := length_filesAt_le listing first
    have few := passes.few
    rw [List.length_append] at few ⊢
    omega
  passed := fun path member => passes.passed path (first.subset member)

theorem Passes.cons (passes : Passes cap listing (files ++ filesAt listing path) pending)
    (passed : ¬ Stops listing path) : Passes cap listing files (path :: pending) where
  few := by
    rw [List.flatMap_cons, ← List.append_assoc]
    exact passes.few
  passed := List.forall_mem_cons.mpr ⟨passed, passes.passed⟩

/-- Going through a listing fails because of one of its entries. -/
theorem exists_of_takeEntries_eq_error {m : Mishap}
    (fails : takeEntries cap files pending entries = .error m) :
    ∃ e ∈ entries, wanted e = .error m ∨ entered e = .error m := by
  fun_induction takeEntries cap files pending entries with
  | case1 | case2 => cases fails
  | case3 files pending e entries few m' wrong =>
    cases fails
    exact ⟨e, List.mem_cons_self, Or.inl wrong⟩
  | case5 files pending e entries few unwanted m' wrong =>
    cases fails
    exact ⟨e, List.mem_cons_self, Or.inr wrong⟩
  | case4 files pending e entries few wants ih | case6 files pending e entries few _ _ ih
  | case7 files pending e entries few _ _ ih =>
    obtain ⟨e', member, wrong⟩ := ih fails
    exact ⟨e', List.mem_cons_of_mem e member, wrong⟩

/-- Where there is room left after a listing, no entry of it fails. -/
theorem not_error_of_takeEntries {e : Entry} {m : Mishap}
    (taken : takeEntries cap files pending entries = .ok (files', pending'))
    (room : files'.length < cap) (member : e ∈ entries) :
    ¬ (wanted e = .error m ∨ entered e = .error m) := by
  fun_induction takeEntries cap files pending entries with
  | case1 => cases member
  | case2 files pending first entries enough =>
    cases taken
    omega
  | case3 | case5 => cases taken
  | case4 files pending first entries few wants ih =>
    rcases List.mem_cons.mp member with rfl | later
    · rintro (wrong | wrong)
      · rw [wants] at wrong
        cases wrong
      · rw [entered_of_wanted wants] at wrong
        cases wrong
    · exact ih taken later
  | case6 files pending first entries few unwanted enters ih
  | case7 files pending first entries few unwanted enters ih =>
    rcases List.mem_cons.mp member with rfl | later
    · rintro (wrong | wrong)
      · rw [unwanted] at wrong
        cases wrong
      · rw [enters] at wrong
        cases wrong
    · exact ih taken later

/-- A directory that is passed over does not stop a walk. -/
theorem not_stops_of_fault {fault : RepositoryFault}
    (fails : listing path = .error (.repository fault)) (present : path.isPresent = true) :
    ¬ Stops listing path := by
  rintro (⟨m, fails'⟩ | ⟨_, -, absent⟩ | ⟨_, _, _, opens, -, -⟩)
  · rw [fails] at fails'
    cases fails'
  · rw [present] at absent
    cases absent
  · rw [fails] at opens
    cases opens

/-- A directory after whose listing there is room left does not stop a walk. -/
theorem not_stops_of_takeEntries (opens : listing path = .ok entries)
    (taken : takeEntries cap files pending entries = .ok (files', pending'))
    (room : files'.length < cap) : ¬ Stops listing path := by
  rintro (⟨m, fails⟩ | ⟨_, fails, -⟩ | ⟨entries', e, m, opens', member, fails⟩)
  · rw [opens] at fails
    cases fails
  · rw [opens] at fails
    cases fails
  · rw [opens] at opens'
    cases opens'
    exact not_error_of_takeEntries taken room member fails

theorem wanted_eq_error_iff {e : Entry} {m : Mishap} :
    wanted e = .error m ↔
      e.isOf "file" = true ∧ (∀ s, e.name ≠ .str s) ∧ m = .notText e.name "lower" := by
  unfold wanted
  cases e.isOf "file" with
  | false => simp
  | true => cases e.name <;> simp [eq_comm]

theorem entered_eq_error_iff {e : Entry} {m : Mishap} :
    entered e = .error m ↔ e.isOf "dir" = true ∧ (∀ s, e.name ≠ .str s) ∧
      m = if e.name.isKey then .notText e.name "startswith" else .notAKey e.name := by
  unfold entered
  cases e.isOf "dir" with
  | false => simp
  | true => cases e.name <;> simp [Json.isKey, eq_comm]

/-- A directory that a walk ends at stops it. -/
theorem Halts.stops {fault : HostFault} (halts : Halts listing path fault) :
    Stops listing path := by
  cases halts with
  | mishap m fails => exact .mishap m fails
  | absent fault fails absent => exact .root fault fails absent
  | file entries e opens member isFile nameless =>
    exact .entry entries e _ opens member
      (Or.inl (wanted_eq_error_iff.mpr ⟨isFile, nameless, rfl⟩))
  | directory entries e opens member isDirectory nameless =>
    exact .entry entries e _ opens member
      (Or.inr (entered_eq_error_iff.mpr ⟨isDirectory, nameless, rfl⟩))

/-- A walk ends at a directory if going through its listing fails. -/
theorem halts_of_takeEntries {m : Mishap} (opens : listing path = .ok entries)
    (fails : takeEntries cap files pending entries = .error m) :
    Halts listing path (.mishap m) := by
  obtain ⟨e, member, wrong | wrong⟩ := exists_of_takeEntries_eq_error fails
  · obtain ⟨isFile, nameless, rfl⟩ := wanted_eq_error_iff.mp wrong
    exact .file entries e opens member isFile nameless
  · obtain ⟨isDirectory, nameless, rfl⟩ := entered_eq_error_iff.mp wrong
    exact .directory entries e opens member isDirectory nameless

/-- A walk that is not at its end after some listings has gone through as many directories, and has
one more to go through. -/
theorem explore_passes (lists : host.Lists client owner repo listing)
    (goesOn : explore host client owner repo cap past listings made warnings files pending = none) :
    (Level.served (below listing) (listings + 1) pending).length = listings + 1 ∧
      Passes cap listing files (Level.served (below listing) listings pending) := by
  fun_induction explore host client owner repo cap past listings made warnings files pending
  case case1 | case2 | case5 | case6 | case7 => cases goesOn
  case case3 made warnings files path pending few =>
    refine ⟨rfl, ?_, ?_⟩
    · rw [Level.served, List.flatMap_nil, List.append_nil]
      omega
    · intro _ inServed
      cases inServed
  case case4 made warnings files path pending few listings request reply made' fault failed present
      ih =>
    have fails : listing path = .error (.repository fault) := (lists _ path).symm.trans failed
    obtain ⟨length, passes⟩ := ih goesOn
    rw [Level.served, Level.served, below_of_error fails, List.append_nil, List.length_cons, length]
    refine ⟨rfl, Passes.cons ?_ ?_⟩
    · rw [filesAt_of_error fails, List.append_nil]
      exact passes
    · exact not_stops_of_fault fails present
  case case8 made warnings files path pending few listings request reply made' listed opened files'
      pending' takes ih =>
    have opens : listing path = .ok listed := (lists _ path).symm.trans opened
    have room : files'.length < cap := by
      by_contra full
      rw [explore_enough (by omega)] at goesOn
      cases goesOn
    obtain ⟨length, passes⟩ := ih goesOn
    rw [takeEntries_pending takes room, ← below_of_ok opens] at length passes
    rw [Level.served, Level.served, List.length_cons, length]
    refine ⟨rfl, Passes.cons ?_ ?_⟩
    · rw [filesAt_of_ok opens, ← takeEntries_eq_filter takes room]
      exact passes
    · exact not_stops_of_takeEntries opens takes room

/-- A walk with its queue `pending` ends at the last directory that it lists. None of those before
stops it. -/
inductive Halted (client : Client) (owner repo : String)
    (listing : Json → Except HostFault (List Entry)) (made : List Request) (pending : List Json)
    (walk : Walk) (fault : HostFault) : Prop where
  | intro (before : List Json) (path : Json)
    (served : Level.served (below listing) (before.length + 1) pending = before ++ [path])
    (requests : walk.requests = made ++ (before ++ [path]).map (client.listingRequest owner repo))
    (passed : ∀ q ∈ before, ¬ Stops listing q)
    (halts : Halts listing path fault)

theorem Halted.cons {fault : HostFault}
    (halted : Halted client owner repo listing
      (made ++ [client.listingRequest owner repo path]) (pending ++ below listing path) walk fault)
    (passed : ¬ Stops listing path) :
    Halted client owner repo listing made (path :: pending) walk fault := by
  obtain ⟨before, last, served, requests, passed', halts⟩ := halted
  refine ⟨path :: before, last, ?_, ?_, List.forall_mem_cons.mpr ⟨passed, passed'⟩, halts⟩
  · rw [List.length_cons, Level.served, served, List.cons_append]
  · rw [requests, List.append_assoc, List.singleton_append, List.cons_append, List.map_cons]

/-- What ends a walk without files is a directory that its queue serves. -/
theorem explore_halts (lists : host.Lists client owner repo listing)
    (ends : explore host client owner repo cap past listings made warnings files pending =
      some walk)
    {fault : HostFault} (stopped : walk.outcome = .error fault) :
    Halted client owner repo listing made pending walk fault := by
  have here {path : Json} {pending : List Json} {made : List Request} {warnings : List String}
      (halts : Halts listing path fault) : Halted client owner repo listing made (path :: pending)
        ⟨made ++ [client.listingRequest owner repo path], warnings, .error fault⟩ fault :=
    ⟨[], path, rfl, rfl, nofun, halts⟩
  fun_induction explore host client owner repo cap past listings made warnings files pending
  case case1 | case2 =>
    cases ends
    cases stopped
  case case3 => cases ends
  case case4 made warnings files path pending few listings request reply made' fault' failed present
      ih =>
    have fails : listing path = .error (.repository fault') := (lists _ path).symm.trans failed
    refine Halted.cons ?_ (not_stops_of_fault fails present)
    rw [below_of_error fails, List.append_nil]
    exact ih ends
  case case5 made warnings files path pending few listings request reply made' fault' failed absent
      =>
    have fails : listing path = .error (.repository fault') := (lists _ path).symm.trans failed
    cases ends
    cases stopped
    exact here (.absent fault' fails (by simpa using absent))
  case case6 made warnings files path pending few listings request reply made' fault' unknown failed
      =>
    have fails : listing path = .error fault' := (lists _ path).symm.trans failed
    cases ends
    cases stopped
    cases fault with
    | repository fault => exact absurd rfl (unknown fault)
    | mishap m => exact here (.mishap m fails)
  case case7 made warnings files path pending few listings request reply made' listed opened m
      fails =>
    have opens : listing path = .ok listed := (lists _ path).symm.trans opened
    cases ends
    cases stopped
    exact here (halts_of_takeEntries opens fails)
  case case8 made warnings files path pending few listings request reply made' listed opened files'
      pending' takes ih =>
    have opens : listing path = .ok listed := (lists _ path).symm.trans opened
    have room : files'.length < cap := by
      by_contra full
      rw [explore_enough (by omega)] at ends
      cases ends
      cases stopped
    refine Halted.cons ?_ (not_stops_of_takeEntries opens takes room)
    rw [below_of_ok opens, ← takeEntries_pending takes room]
    exact ih ends

/-- What makes a walk from the root end: an end to the directories, enough files, or a directory
that stops it. -/
inductive Bounded (cap : Int) (listing : Json → Except HostFault (List Entry)) : Prop where
  | depth (acc : Acc (Level.Under (below listing)) (.str (.whole "")))
  | files (n : Nat) (enough :
      cap ≤ ((Level.levels (below listing) [.str (.whole "")] n).flatMap (filesAt listing)).length)
  | stop (n : Nat) (path : Json)
    (inLevels : path ∈ Level.levels (below listing) [.str (.whole "")] n)
    (stops : Stops listing path)

/-- A walk that ends is bounded. -/
theorem bounded_of_collect (lists : host.Lists client owner repo listing)
    (ends : client.collect host past owner repo cap listings = some walk) :
    Bounded cap listing := by
  cases came : walk.outcome with
  | error e =>
    obtain ⟨before, path, served, -, -, halts⟩ := explore_halts lists ends came
    have member : path ∈ Level.served (below listing) (before.length + 1) [.str (.whole "")] := by
      rw [served]
      exact List.mem_append_right before List.mem_cons_self
    exact .stop _ path (Level.mem_levels_of_mem_served member) halts.stops
  | ok entries =>
    obtain ⟨n, paths, served, -, -, taken, rest⟩ := explore_serves lists ends came (Nat.zero_le _)
    by_cases room : entries.length < cap
    · refine .depth (Level.acc_iff_exists_levelFrom.mpr ?_)
      have empty (later : Nat) (le : n ≤ later) :
          Level.served (below listing) later [.str (.whole "")] =
            Level.served (below listing) n [.str (.whole "")] := by
        rw [rest room later le, served]
      exact Level.exists_levelFrom_of_served empty
    · refine .files n ?_
      have first : paths <+: Level.levels (below listing) [.str (.whole "")] n := by
        rw [← served, Level.served_eq_take _ (Nat.le_refl n)]
        exact List.take_prefix _ _
      have some : entries.length ≤ (paths.flatMap (filesAt listing)).length := by
        rw [taken, List.nil_append, List.length_take]
        exact Nat.min_le_right _ _
      have all := length_filesAt_le listing first
      omega

/-- A walk ends within as many listings as there are directories, if there is an end to them. -/
theorem collect_of_empty (lists : host.Lists client owner repo listing) {k : Nat}
    (empty : Level.levelFrom (below listing) [.str (.whole "")] k = []) (past : List Request) :
    ∃ walk, client.collect host past owner repo cap
      (Level.levels (below listing) [.str (.whole "")] k).length = some walk := by
  rw [← Option.isSome_iff_exists, ← Option.ne_none_iff_isSome]
  intro goesOn
  obtain ⟨length, -⟩ := explore_passes lists goesOn
  generalize directories : (Level.levels (below listing) [.str (.whole "")] k).length = n at length
  have deep : n + 1 ≤ max (n + 1) k := Nat.le_max_left _ _
  rw [Level.served_eq_take _ deep, Level.levels_eq_of_empty empty (Nat.le_max_right _ _),
    List.length_take, directories] at length
  omega

/-- A bounded walk ends. -/
theorem collect_of_bounded (lists : host.Lists client owner repo listing)
    (bounded : Bounded cap listing) (past : List Request) :
    ∃ listings walk, client.collect host past owner repo cap listings = some walk := by
  by_contra endless
  -- Then it goes through the levels, as deep as one likes.
  have passes (n : Nat) :
      Passes cap listing [] (Level.levels (below listing) [.str (.whole "")] n) := by
    let far := max n (Level.levels (below listing) [.str (.whole "")] n).length
    have goesOn : client.collect host past owner repo cap far = none :=
      Option.eq_none_iff_forall_ne_some.mpr fun walk ends => endless ⟨far, walk, ends⟩
    have first : Level.levels (below listing) [.str (.whole "")] n <+:
        Level.served (below listing) far [.str (.whole "")] :=
      Level.levels_prefix_served (Nat.le_max_left _ _) (Nat.le_max_right _ _)
    exact (explore_passes lists goesOn).2.of_isPrefix first
  cases bounded with
  | depth acc =>
    obtain ⟨k, empty⟩ := Level.acc_iff_exists_levelFrom.mp acc
    obtain ⟨walk, ends⟩ := collect_of_empty lists empty past
    exact endless ⟨_, walk, ends⟩
  | files n enough =>
    have few := (passes n).few
    rw [List.nil_append] at few
    omega
  | stop n path inLevels stops => exact (passes n).passed path inLevels stops

end Walk

/-! ## Hosts that do not remember -/

/-- How a host lists the directories of a repository when it is asked first. -/
def Host.listings (host : Host) (client : Client) (owner repo : String) (path : Json) :
    Except HostFault (List Entry) :=
  Client.listingOf (host [] (client.listingRequest owner repo path))

/-- A steady host lists a directory at all times as it does at first. -/
theorem Host.Steady.lists {host : Host} (steady : host.Steady) (client : Client)
    (owner repo : String) : host.Lists client owner repo (host.listings client owner repo) := by
  intro past path
  unfold Host.listings
  rw [steady past []]

namespace Walk

/-- **A walk ends if and only if it is bounded**, on a host whose replies depend on the request
alone: there is an end to the directories below the root, or enough files or a directory that stops
the walk stand in the first levels. Where there is an end, the walk asks at most once for each
directory that the levels hold. There is no end to directories of which one leads back to itself;
where only some known directories have others in them, there is an end unless one does. -/
theorem walk_ends_iff (host : Host) (steady : host.Steady) (client : Client) (owner repo : String)
    (cap : Int) (past : List Request) :
    let leads := below (host.listings client owner repo)
    let root := Json.str (.whole "")
    ((∃ listings walk, client.collect host past owner repo cap listings = some walk) ↔
      Bounded cap (host.listings client owner repo)) ∧
    (∀ k, Level.levelFrom leads [root] k = [] →
      ∃ walk, client.collect host past owner repo cap (Level.levels leads [root] k).length =
        some walk) ∧
    (∀ k, ∀ path ∈ Level.levelFrom leads [root] k,
      Relation.TransGen (Level.Under leads) path path → ¬ Acc (Level.Under leads) root) ∧
    ∀ known : List Json, (∀ path, path ∉ known → leads path = []) →
      (∀ k, ∀ path ∈ Level.levelFrom leads [root] k,
        ¬ Relation.TransGen (Level.Under leads) path path) →
      Acc (Level.Under leads) root := by
  intro leads root
  have lists := steady.lists client owner repo
  refine ⟨⟨?_, ?_⟩, ?_, ?_, ?_⟩
  · rintro ⟨listings, walk, ends⟩
    exact bounded_of_collect lists ends
  · intro bounded
    exact collect_of_bounded lists bounded past
  · intro k empty
    exact collect_of_empty lists empty past
  · intro k path level back acc
    exact Level.not_acc_of_leadsBack back (Level.acc_of_mem_levelFrom acc level)
  · intro known bare straight
    exact Level.acc_of_straight known bare straight

theorem hosting_steady (client : Client) (owner repo : String) (listing? : String → Option Json) :
    (hosting client owner repo listing?).Steady := by
  intro past past' request
  rfl

/-- A walk through three levels ends within a listing for each of the four directories. -/
theorem walk_ends_iff_threeLevels :
    let host := hosting Service.publicClient "o" "r" threeLevels
    host.Steady ∧ ∃ walk, Service.publicClient.collect host [] "o" "r" 50 4 = some walk := by
  intro host
  have steady := hosting_steady Service.publicClient "o" "r" threeLevels
  have listings : host.listings Service.publicClient "o" "r" = (hosted threeLevels).toHost :=
    funext (threeLevels_lists [])
  obtain ⟨-, within, -⟩ := walk_ends_iff host steady Service.publicClient "o" "r" 50 []
  rw [listings] at within
  exact ⟨steady, within 3 rfl⟩

/-- The root lists a directory and does not say at which path it stands. -/
def pathless : String → Option Json
  | "" => some (.arr [.obj [("name", .str "src"), ("type", .str "dir")]])
  | _ => none

theorem pathless_lists :
    (hosting Service.publicClient "o" "r" pathless).Lists Service.publicClient "o" "r"
      (hosted pathless).toHost := by
  refine hosting_lists Service.publicClient "o" "r" ?_
  intro path listing found
  unfold pathless at found
  split at found
  · cases found
    have item : Json.Readable (Json.maxNesting - 1)
        (.obj [("name", .str "src"), ("type", .str "dir")]) := by
      refine @Json.Readable.obj (Json.maxNesting - 2) _ (by decide) (by simp) ?_
      exact List.forall_mem_cons.mpr ⟨.str _, List.forall_mem_cons.mpr ⟨.str _, nofun⟩⟩
    exact @Json.Readable.arr (Json.maxNesting - 1) _ (List.forall_mem_cons.mpr ⟨item, nofun⟩)
  · cases found

/-- A walk asks for the root of a repository for ever if that lists a directory without a path. -/
theorem walk_endless_pathless :
    let host := hosting Service.publicClient "o" "r" pathless
    host.Steady ∧ ∀ listings, Service.publicClient.collect host [] "o" "r" 50 listings = none := by
  intro host
  refine ⟨hosting_steady Service.publicClient "o" "r" pathless, fun listings => ?_⟩
  have again : takeEntries 50 [] [] (Entry.ofListing
      (.arr [.obj [("name", .str "src"), ("type", .str "dir")]])) =
        .ok ([], [.str (.whole "")]) := rfl
  have stays (made : List Request) : explore host Service.publicClient "o" "r" 50 [] listings made
      [] [] [.str (.whole "")] = none := by
    induction listings generalizing made with
    | zero => rfl
    | succ listings ih =>
      rw [explore_of_listing (by decide) (pathless_lists _ (.str (.whole ""))) again]
      exact ih _
  exact stays []

end Walk
end LeakScan
