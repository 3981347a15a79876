import LeakScan.Proofs.Repository.Collected
import LeakScan.Proofs.Repository.Steady
import Mathlib.Data.List.Basic

/-!
# A walk goes level by level

The root of a repository is level 0, and the directories that the listings of a level name are the
next level, in order. A walk keeps one queue of directories, to whose end it adds what a listing
names, and stops in the middle of a listing when it has enough files. A queue that is served in this
way serves one level after another (`served_eq_take`), so what a walk collects stands first in the
levels (`Serves.files_eq_take`). A directory that cannot be listed adds a warning and counts as
empty.
-/

namespace LeakScan
set_option autoImplicit false

/-! ## Queues and levels -/

namespace Level

variable {α : Type} (below : α → List α)

/-- What is `k` levels below some things, in order. -/
def levelFrom (xs : List α) : (k : Nat) → List α
  | 0 => xs
  | k + 1 => (levelFrom xs k).flatMap below

/-- What is in the first `n` levels below some things, level by level. -/
def levels (xs : List α) (n : Nat) : List α := (List.range n).flatMap (levelFrom below xs)

/-- The first `n` things that a queue serves. What is below a thing is lined up when the thing is
served. -/
def served : (n : Nat) → List α → List α
  | 0, _ => []
  | _ + 1, [] => []
  | n + 1, x :: xs => x :: served n (xs ++ below x)

variable {below}

theorem levelFrom_flatMap (xs : List α) (k : Nat) :
    levelFrom below (xs.flatMap below) k = levelFrom below xs (k + 1) := by
  induction k with
  | zero => rfl
  | succ k ih => rw [levelFrom, ih, ← levelFrom]

theorem levelFrom_nil (k : Nat) : levelFrom below [] k = [] := by
  induction k with
  | zero => rfl
  | succ k ih => rw [levelFrom, ih, List.flatMap_nil]

theorem levelFrom_append (xs ys : List α) (k : Nat) :
    levelFrom below (xs ++ ys) k = levelFrom below xs k ++ levelFrom below ys k := by
  induction k with
  | zero => rfl
  | succ k ih => rw [levelFrom, ih, List.flatMap_append, ← levelFrom, ← levelFrom]

theorem levels_succ (xs : List α) (n : Nat) :
    levels below xs (n + 1) = xs ++ levels below (xs.flatMap below) n := by
  rw [levels, List.range_succ_eq_map, List.flatMap_cons, List.flatMap_map, levels]
  congr 1
  apply List.flatMap_congr
  intro k _
  exact (levelFrom_flatMap xs k).symm

theorem levels_nil (n : Nat) : levels below [] n = [] := by
  rw [levels, List.flatMap_eq_nil_iff]
  intro k _
  exact levelFrom_nil k

theorem levels_isPrefix (xs : List α) {n m : Nat} (le : n ≤ m) :
    levels below xs n <+: levels below xs m := by
  obtain ⟨more, rfl⟩ := Nat.exists_eq_add_of_le le
  rw [levels, levels, List.range_add, List.flatMap_append]
  exact List.prefix_append _ _

theorem served_nil (n : Nat) : served below n [] = [] := by
  cases n <;> rfl

/-- A queue first serves what stands in it, and then goes on with what that has lined up. -/
theorem served_append (xs ys : List α) (n : Nat) :
    served below (xs.length + n) (xs ++ ys) = xs ++ served below n (ys ++ xs.flatMap below) := by
  induction xs generalizing ys with
  | nil => simp
  | cons x xs ih =>
    have longer : (x :: xs).length + n = (xs.length + n) + 1 := by
      rw [List.length_cons]
      omega
    rw [longer, List.cons_append, served, List.append_assoc, ih, List.flatMap_cons,
      List.append_assoc, List.cons_append]

theorem served_of_le {xs : List α} {n : Nat} (le : n ≤ xs.length) :
    served below n xs = xs.take n := by
  have cut := @served_append α below (xs.take n) (xs.drop n) 0
  rw [List.take_append_drop, List.length_take, Nat.min_eq_left le, Nat.add_zero, served,
    List.append_nil] at cut
  exact cut

/-- **A queue serves level by level.** -/
theorem served_eq_take (xs : List α) {n m : Nat} (le : n ≤ m) :
    served below n xs = (levels below xs m).take n := by
  induction n using Nat.strongRecOn generalizing xs m with
  | _ n ih =>
    cases m with
    | zero =>
      obtain rfl : n = 0 := Nat.le_zero.mp le
      rfl
    | succ m =>
      rw [levels_succ]
      by_cases few : n ≤ xs.length
      · rw [served_of_le few, List.take_append_of_le_length few]
      · cases xs with
        | nil =>
          rw [served_nil, List.flatMap_nil, levels_nil]
          simp
        | cons x xs =>
          -- The queue serves the level at hand and has the next one in it then.
          obtain ⟨rest, rfl⟩ := Nat.exists_eq_add_of_le (Nat.le_of_not_le few)
          have fewer : rest < (x :: xs).length + rest := by
            rw [List.length_cons]
            omega
          have deep : rest ≤ m := by omega
          have step := @served_append α below (x :: xs) [] rest
          rw [List.append_nil, List.nil_append] at step
          rw [step, ih rest fewer _ deep, List.take_length_add_append]

/-- What a queue serves before it is empty is all that the levels hold. -/
theorem levels_eq_served {xs : List α} {n m : Nat}
    (empty : ∀ later, n ≤ later → served below later xs = served below n xs) (le : n ≤ m) :
    levels below xs m = served below n xs := by
  let far := max m (levels below xs m).length
  have bound : (levels below xs m).length ≤ far := Nat.le_max_right _ _
  have deep : m ≤ far := Nat.le_max_left _ _
  have all : served below n xs = (levels below xs far).take far := by
    rw [← empty far (Nat.le_trans le deep)]
    exact served_eq_take xs (Nat.le_refl far)
  have first : served below n xs = (levels below xs m).take n := served_eq_take xs le
  have within : levels below xs m <+: served below n xs := by
    rw [all]
    exact List.prefix_take_iff.mpr ⟨levels_isPrefix xs deep, bound⟩
  have around : served below n xs <+: levels below xs m := by
    rw [first]
    exact List.take_prefix _ _
  exact within.eq_of_length (Nat.le_antisymm within.length_le around.length_le)

end Level

/-! ## Walks -/

/-- Whether an entry is a directory that is not left out of a walk. -/
def Entry.isEntered (e : Entry) : Bool :=
  e.isOf "dir" && match e.name with
    | .str name => !FileName.isSkipped name.repaired
    | _ => false

/-- A host lists the directories of a repository in one way, whatever it was asked before. -/
def Host.Lists (host : Host) (client : Client) (owner repo : String)
    (listing : Json → Except HostFault (List Entry)) : Prop :=
  ∀ past path, Client.listingOf (host past (client.listingRequest owner repo path)) = listing path

namespace Walk

/-- The entries at a path: a listing that fails counts as empty. -/
def listedAt (listing : Json → Except HostFault (List Entry)) (path : Json) : List Entry :=
  (listing path).toOption.getD []

/-- The directories that a walk enters from the one at a path. -/
def below (listing : Json → Except HostFault (List Entry)) (path : Json) : List Json :=
  ((listedAt listing path).filter Entry.isEntered).map Entry.path

/-- The files at a path that are worth fetching. -/
def filesAt (listing : Json → Except HostFault (List Entry)) (path : Json) : List Entry :=
  (listedAt listing path).filter Entry.isWorthwhile

/-- The warning about a path, if its listing fails. -/
def warningAt? (listing : Json → Except HostFault (List Entry)) (path : Json) : Option String :=
  match listing path with
  | .error (.repository fault) => some (listingWarning path fault)
  | _ => none

theorem isEntered_of_entered {e : Entry} {answer : Bool} (enters : entered e = .ok answer) :
    e.isEntered = answer := by
  unfold entered at enters
  unfold Entry.isEntered
  cases isDirectory : e.isOf "dir" with
  | false =>
    rw [isDirectory] at enters
    cases enters
    rfl
  | true =>
    rw [isDirectory] at enters
    cases named : e.name with
    | str name =>
      rw [named] at enters
      cases enters
      rfl
    | _ =>
      rw [named] at enters
      cases enters

/-- No entry is both a file and a directory. -/
theorem entered_of_wanted {e : Entry} (wants : wanted e = .ok true) : entered e = .ok false := by
  unfold wanted at wants
  have isFile : e.isOf "file" = true := by
    by_contra other
    rw [if_neg other] at wants
    cases wants
  have isNoDirectory : e.isOf "dir" = false := by
    unfold Entry.isOf at isFile ⊢
    cases typed : e.type with
    | str s =>
      rw [typed] at isFile
      obtain rfl : s = .whole "file" := of_decide_eq_true isFile
      rfl
    | _ => rfl
  unfold entered
  rw [isNoDirectory]
  rfl

theorem isEntered_of_wanted {e : Entry} (wants : wanted e = .ok true) : e.isEntered = false :=
  isEntered_of_entered (entered_of_wanted wants)

/-- Going through a listing collects its files that are worth fetching, up to the cap. -/
theorem takeEntries_eq_take {cap : Int} {files files' entries : List Entry}
    {pending pending' : List Json}
    (taken : takeEntries cap files pending entries = .ok (files', pending'))
    (fits : files.length ≤ cap.toNat) :
    files' = (files ++ entries.filter Entry.isWorthwhile).take cap.toNat := by
  fun_induction takeEntries cap files pending entries with
  | case1 files pending =>
    cases taken
    rw [List.filter_nil, List.append_nil, List.take_of_length_le fits]
  | case2 files pending e entries enough =>
    cases taken
    have full : cap.toNat ≤ files'.length := by omega
    rw [List.take_append_of_le_length full, List.take_of_length_le fits]
  | case3 files pending e entries few m fails => cases taken
  | case4 files pending e entries few wants ih =>
    have fits' : (files ++ [e]).length ≤ cap.toNat := by
      rw [List.length_append, List.length_singleton]
      omega
    rw [ih taken fits', List.filter_cons_of_pos (isWorthwhile_of_wanted wants), List.append_assoc,
      List.singleton_append]
  | case5 files pending e entries few unwanted m fails => cases taken
  | case6 files pending e entries few unwanted enters ih =>
    rw [ih taken fits, List.filter_cons_of_neg (by simp [isWorthwhile_of_wanted unwanted])]
  | case7 files pending e entries few unwanted skipped ih =>
    rw [ih taken fits, List.filter_cons_of_neg (by simp [isWorthwhile_of_wanted unwanted])]

/-- Going through a listing with room to its end lines up its directories. -/
theorem takeEntries_pending {cap : Int} {files files' entries : List Entry}
    {pending pending' : List Json}
    (taken : takeEntries cap files pending entries = .ok (files', pending'))
    (room : files'.length < cap) :
    pending' = pending ++ (entries.filter Entry.isEntered).map Entry.path := by
  fun_induction takeEntries cap files pending entries with
  | case1 files pending =>
    cases taken
    rw [List.filter_nil, List.map_nil, List.append_nil]
  | case2 files pending e entries enough =>
    cases taken
    omega
  | case3 files pending e entries few m fails => cases taken
  | case4 files pending e entries few wants ih =>
    rw [ih taken, List.filter_cons_of_neg (by simp [isEntered_of_wanted wants])]
  | case5 files pending e entries few unwanted m fails => cases taken
  | case6 files pending e entries few unwanted enters ih =>
    rw [ih taken, List.filter_cons_of_pos (isEntered_of_entered enters), List.map_cons,
      List.append_assoc, List.singleton_append]
  | case7 files pending e entries few unwanted skipped ih =>
    rw [ih taken, List.filter_cons_of_neg (by simp [isEntered_of_entered skipped])]

section

variable {host : Host} {client : Client} {owner repo : String} {cap : Int} {past : List Request}
  {listing : Json → Except HostFault (List Entry)} {listings : Nat} {made : List Request}
  {warnings : List String} {files entries : List Entry} {pending : List Json} {path : Json}
  {walk : Walk}

theorem below_of_error {e : HostFault} (fails : listing path = .error e) :
    below listing path = [] := by
  unfold below listedAt
  rw [fails]
  rfl

theorem filesAt_of_error {e : HostFault} (fails : listing path = .error e) :
    filesAt listing path = [] := by
  unfold filesAt listedAt
  rw [fails]
  rfl

theorem below_of_ok (lists : listing path = .ok entries) :
    below listing path = (entries.filter Entry.isEntered).map Entry.path := by
  unfold below listedAt
  rw [lists]
  rfl

theorem filesAt_of_ok (lists : listing path = .ok entries) :
    filesAt listing path = entries.filter Entry.isWorthwhile := by
  unfold filesAt listedAt
  rw [lists]
  rfl

theorem warningAt?_of_ok (lists : listing path = .ok entries) : warningAt? listing path = none := by
  unfold warningAt?
  rw [lists]

/-- A walk with its queue `pending` has listed the first directories that the queue serves, warned
of those that could not be listed and collected what stands in the others. Unless it has enough,
nothing is left in the queue. -/
inductive Serves (client : Client) (owner repo : String) (cap : Int)
    (listing : Json → Except HostFault (List Entry)) (made : List Request) (warnings : List String)
    (files : List Entry) (pending : List Json) (walk : Walk) (entries : List Entry) : Prop where
  | intro (n : Nat) (paths : List Json)
    (served : Level.served (below listing) n pending = paths)
    (requests : walk.requests = made ++ paths.map (client.listingRequest owner repo))
    (warned : walk.warnings = warnings ++ paths.filterMap (warningAt? listing))
    (taken : entries = (files ++ paths.flatMap (filesAt listing)).take cap.toNat)
    (rest : entries.length < cap → ∀ later, n ≤ later →
      Level.served (below listing) later pending = paths)

/-- To list a directory and then to serve what is lined up is to serve the queue. -/
theorem Serves.cons
    (serves : Serves client owner repo cap listing
      (made ++ [client.listingRequest owner repo path])
      (warnings ++ (warningAt? listing path).toList) (files ++ filesAt listing path)
      (pending ++ below listing path) walk entries) :
    Serves client owner repo cap listing made warnings files (path :: pending) walk entries := by
  obtain ⟨n, paths, served, requests, warned, taken, rest⟩ := serves
  refine ⟨n + 1, path :: paths, ?_, ?_, ?_, ?_, ?_⟩
  · rw [Level.served, served]
  · rw [requests, List.append_assoc, List.map_cons, List.singleton_append]
  · rw [warned, List.append_assoc]
    cases warns : warningAt? listing path with
    | none => rw [List.filterMap_cons_none warns, Option.toList_none, List.nil_append]
    | some warning =>
      rw [List.filterMap_cons_some warns, Option.toList_some, List.singleton_append]
  · rw [taken, List.append_assoc, List.flatMap_cons]
  · intro room later le
    obtain ⟨later, rfl⟩ := Nat.exists_eq_add_of_le' (Nat.le_trans (Nat.le_add_left 1 n) le)
    rw [Level.served, rest room later (Nat.le_of_succ_le_succ le)]

/-- A walk that has enough serves nothing more. -/
theorem serves_enough (enough : cap ≤ files.length) (fits : files.length ≤ cap.toNat) :
    Serves client owner repo cap listing made warnings files pending ⟨made, warnings, .ok files⟩
      files := by
  refine ⟨0, [], rfl, by simp, by simp, ?_, fun room => ?_⟩
  · rw [List.flatMap_nil, List.append_nil, List.take_of_length_le fits]
  · omega

/-- A walk with room left warns of a directory that cannot be listed, and goes on. -/
theorem explore_of_fault {fault : RepositoryFault} (few : files.length < cap)
    (fails : Client.listingOf (host (past ++ made) (client.listingRequest owner repo path)) =
      .error (.repository fault))
    (present : path.isPresent = true) :
    explore host client owner repo cap past (listings + 1) made warnings files (path :: pending) =
      explore host client owner repo cap past listings
        (made ++ [client.listingRequest owner repo path])
        (warnings ++ [listingWarning path fault]) files pending := by
  rw [explore, if_neg (by omega)]
  simp only [fails, if_pos present]

/-- A walk that collects files has served its queue. -/
theorem explore_serves (lists : host.Lists client owner repo listing)
    (ends : explore host client owner repo cap past listings made warnings files pending =
      some walk)
    (collected : walk.outcome = .ok entries) (fits : files.length ≤ cap.toNat) :
    Serves client owner repo cap listing made warnings files pending walk entries := by
  fun_induction explore host client owner repo cap past listings made warnings files pending
  case case1 made warnings files =>
    cases ends
    cases collected
    refine ⟨0, [], rfl, by simp, by simp, ?_, fun _ later _ => Level.served_nil later⟩
    rw [List.flatMap_nil, List.append_nil, List.take_of_length_le fits]
  case case2 made warnings files path pending enough =>
    cases ends
    cases collected
    exact serves_enough enough fits
  case case3 => cases ends
  case case4 made warnings files path pending few listings request reply made' fault failed present
      ih =>
    have fails : listing path = .error (.repository fault) := (lists _ path).symm.trans failed
    have warns : warningAt? listing path = some (listingWarning path fault) := by
      unfold warningAt?
      rw [fails]
    apply Serves.cons
    rw [warns, below_of_error fails, filesAt_of_error fails, List.append_nil, List.append_nil]
    exact ih ends fits
  case case5 | case6 | case7 =>
    cases ends
    cases collected
  case case8 made warnings files path pending few listings request reply made' listed opened files'
      pending' takes ih =>
    have opens : listing path = .ok listed := (lists _ path).symm.trans opened
    have taken := takeEntries_eq_take takes fits
    have fits' : files'.length ≤ cap.toNat := by
      rw [taken, List.length_take]
      exact Nat.min_le_left _ _
    by_cases enough : cap ≤ files'.length
    · -- What the listing has lined up does not count any more.
      rw [explore_enough enough] at ends
      cases ends
      cases collected
      refine ⟨1, [path], rfl, rfl, ?_, ?_, fun room => ?_⟩
      · rw [List.filterMap_cons_none (warningAt?_of_ok opens), List.filterMap_nil, List.append_nil]
      · rw [List.flatMap_cons, List.flatMap_nil, List.append_nil, filesAt_of_ok opens]
        exact taken
      · omega
    · have room : files'.length < cap := by omega
      apply Serves.cons
      rw [warningAt?_of_ok opens, Option.toList_none, List.append_nil, below_of_ok opens,
        filesAt_of_ok opens, ← takeEntries_eq_filter takes room, ← takeEntries_pending takes room]
      exact ih ends fits'

/-- What a walk has collected stands first in the levels. -/
theorem Serves.files_eq_take
    (serves : Serves client owner repo cap listing made warnings files pending walk entries) :
    ∃ n paths, (∀ m, n ≤ m → paths <+: Level.levels (below listing) pending m) ∧
      walk.requests = made ++ paths.map (client.listingRequest owner repo) ∧
      walk.warnings = warnings ++ paths.filterMap (warningAt? listing) ∧
      ∀ m, n ≤ m → entries = (files ++
        (Level.levels (below listing) pending m).flatMap (filesAt listing)).take cap.toNat := by
  obtain ⟨n, paths, served, requests, warned, taken, rest⟩ := serves
  have first (m : Nat) (deep : n ≤ m) : paths <+: Level.levels (below listing) pending m := by
    rw [← served, Level.served_eq_take pending deep]
    exact List.take_prefix _ _
  refine ⟨n, paths, first, requests, warned, ?_⟩
  intro m deep
  by_cases room : entries.length < cap
  · have all : Level.levels (below listing) pending m = paths := by
      rw [← served]
      refine Level.levels_eq_served ?_ deep
      intro later le
      rw [rest room later le, served]
    rw [all]
    exact taken
  · -- There is enough in what was served, and what comes after it does not count.
    obtain ⟨more, levels⟩ := first m deep
    have full : cap.toNat ≤ (files ++ paths.flatMap (filesAt listing)).length := by
      have length := congrArg List.length taken
      rw [List.length_take] at length
      omega
    rw [← levels, List.flatMap_append, ← List.append_assoc, List.take_append_of_le_length full]
    exact taken

end

end Walk
end LeakScan
