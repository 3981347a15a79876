import LeakScan.Proofs.Repository.Walk

/-!
# What a walk collects

A walk that ends with room left has gone through every listing it got to its end. So it has
collected what was listed, in that order, but for what is no file or has a name that is not worth
fetching (`collected_eq_filter`); nothing else that a listing says of a file makes a difference.
-/

namespace LeakScan
set_option autoImplicit false

/-- Whether an entry is a file with a name that is worth fetching. -/
def Entry.isWorthwhile (e : Entry) : Bool :=
  e.isOf "file" && match e.name with
    | .str name => FileName.isText name.repaired
    | _ => false

namespace Walk

/-- The entries that a host lists in its replies to some requests, where it got others before. -/
def entriesOf (host : Host) : (past : List Request) → List Request → List Entry
  | _, [] => []
  | past, request :: requests =>
    (Client.listingOf (host past request)).toOption.getD [] ++
      entriesOf host (past ++ [request]) requests

/-- The entries that a walk was listed, directory by directory. -/
def listed (walk : Walk) (host : Host) (past : List Request) : List Entry :=
  entriesOf host past walk.requests

theorem entriesOf_cons_of_ok {host : Host} {past requests : List Request} {request : Request}
    {entries : List Entry} (lists : Client.listingOf (host past request) = .ok entries) :
    entriesOf host past (request :: requests) =
      entries ++ entriesOf host (past ++ [request]) requests := by
  rw [entriesOf, lists]
  rfl

theorem entriesOf_cons_of_error {host : Host} {past requests : List Request} {request : Request}
    {e : HostFault} (fails : Client.listingOf (host past request) = .error e) :
    entriesOf host past (request :: requests) = entriesOf host (past ++ [request]) requests := by
  rw [entriesOf, fails]
  rfl

theorem isWorthwhile_of_wanted {e : Entry} {answer : Bool} (wants : wanted e = .ok answer) :
    e.isWorthwhile = answer := by
  rw [wanted] at wants
  rw [Entry.isWorthwhile]
  cases isFile : e.isOf "file" with
  | false =>
    rw [isFile] at wants
    cases wants
    rfl
  | true =>
    rw [isFile] at wants
    cases named : e.name <;> rw [named] at wants <;> cases wants
    rfl

/-- A listing after which there is room left was gone through to its end. -/
theorem takeEntries_eq_filter {cap : Int} {files files' entries : List Entry}
    {pending pending' : List Json}
    (taken : takeEntries cap files pending entries = .ok (files', pending'))
    (room : files'.length < cap) : files' = files ++ entries.filter Entry.isWorthwhile := by
  fun_induction takeEntries cap files pending entries with
  | case1 files pending =>
    cases taken
    rw [List.filter_nil, List.append_nil]
  | case2 files pending e entries enough =>
    cases taken
    omega
  | case3 files pending e entries few m fails => cases taken
  | case4 files pending e entries few wants ih =>
    rw [ih taken, List.filter_cons_of_pos (isWorthwhile_of_wanted wants), List.append_assoc,
      List.singleton_append]
  | case5 files pending e entries few unwanted m fails => cases taken
  | case6 files pending e entries few unwanted enters ih =>
    rw [ih taken, List.filter_cons_of_neg (by simp [isWorthwhile_of_wanted unwanted])]
  | case7 files pending e entries few unwanted skipped ih =>
    rw [ih taken, List.filter_cons_of_neg (by simp [isWorthwhile_of_wanted unwanted])]

variable {host : Host} {client : Client} {owner repo : String} {cap : Int} {past : List Request}
  {listings : Nat} {made : List Request} {warnings : List String} {files entries : List Entry}
  {pending : List Json} {walk : Walk}

theorem explore_eq_filter
    (ends : explore host client owner repo cap past listings made warnings files pending =
      some walk)
    (collected : walk.outcome = .ok entries) (room : entries.length < cap) :
    ∃ later, walk.requests = made ++ later ∧
      entries = files ++ (entriesOf host (past ++ made) later).filter Entry.isWorthwhile := by
  fun_induction explore host client owner repo cap past listings made warnings files pending
  case case1 made _ files =>
    cases ends
    cases collected
    exact ⟨[], by simp, by simp [entriesOf]⟩
  case case2 =>
    cases ends
    cases collected
    omega
  case case3 => cases ends
  case case4 made _ _ _ _ _ _ _ _ _ failed _ ih =>
    obtain ⟨later, requests, rest⟩ := ih ends
    refine ⟨_ :: later, by rw [requests, List.append_assoc, List.singleton_append], ?_⟩
    rw [entriesOf_cons_of_error failed, List.append_assoc, rest]
  case case5 | case6 | case7 =>
    cases ends
    cases collected
  case case8 made _ files _ pending _ _ _ _ _ _ listing files' pending' takes ih =>
    obtain ⟨later, requests, rest⟩ := ih ends
    have room' : files'.length < cap := by
      rw [rest, List.length_append] at room
      omega
    refine ⟨_ :: later, by rw [requests, List.append_assoc, List.singleton_append], ?_⟩
    rw [entriesOf_cons_of_ok listing, List.filter_append, ← List.append_assoc,
      ← takeEntries_eq_filter takes room', List.append_assoc, rest]

/-- A walk that ends with room left has collected exactly the files listed that have a name worth
fetching. -/
theorem collected_eq_filter
    (ends : client.collect host past owner repo cap listings = some walk)
    (collected : walk.outcome = .ok entries) (room : entries.length < cap) :
    entries = (walk.listed host past).filter Entry.isWorthwhile := by
  obtain ⟨later, requests, same⟩ := explore_eq_filter ends collected room
  rw [listed, requests, same, List.append_nil]
  rfl

end Walk
end LeakScan
