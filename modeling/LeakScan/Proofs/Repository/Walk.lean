import LeakScan.Repository.Walk

/-!
# What a walk comes to

A walk asks for one listing after another. Where the host answers whatever it is asked and the
listings that the walk got have texts for names and paths, a walk that ends has collected files, was
stopped by a fault of the repository, or met a listing that is nested too deep to be read
(`Walk.Settled`): going through typed entries never fails (`takeEntries_of_typed`).
-/

namespace LeakScan
set_option autoImplicit false

/-- An entry whose name and path are texts and whose address is a text or missing. -/
structure Entry.Typed (e : Entry) : Prop where
  name : ∃ s, e.name = .str s
  path : ∃ s, e.path = .str s
  address : e.downloadUrl = .null ∨ ∃ s, e.downloadUrl = .str s

/-- A reply that lists typed entries only, if it lists any. -/
def Reply.Typed (r : Reply) : Prop :=
  ∀ entries, Client.listingOf r = .ok entries → ∀ e ∈ entries, e.Typed

theorem Reply.typed_of_listingOf_eq_error {r : Reply} {e : HostFault}
    (failed : Client.listingOf r = .error e) : r.Typed := by
  intro entries lists
  rw [failed] at lists
  cases lists

/-- A host that replies to every request with a response, or cannot be reached. -/
def Host.Answers (host : Host) : Prop :=
  ∀ past request kind message, host past request ≠ .broken kind message

/-- A listing fails by a fault of the repository or by its depth, if not by something that nobody
expects. -/
theorem Client.listingOf_eq_error {r : Reply} (expected : ∀ kind message, r ≠ .broken kind message)
    {e : HostFault} (failed : Client.listingOf r = .error e) :
    (∃ fault, e = .repository fault) ∨ ∃ isObject, e = .mishap (.tooDeep isObject) := by
  cases r with
  | unreachable message =>
    cases failed
    exact Or.inl ⟨_, rfl⟩
  | broken kind message => exact absurd rfl (expected kind message)
  | response status body =>
    rw [Client.listingOf] at failed
    split at failed
    · cases failed
      exact Or.inl ⟨_, rfl⟩
    · split at failed
      · cases failed
        exact Or.inl ⟨_, rfl⟩
      · split at failed <;> cases failed
        · exact Or.inr ⟨_, rfl⟩
        · exact Or.inl ⟨_, rfl⟩

namespace Walk

/-- The replies that a walk got from a host that had got other requests before. -/
def Got (walk : Walk) (host : Host) (past : List Request) (reply : Reply) : Prop :=
  ∃ made request, made ++ [request] <+: walk.requests ∧ reply = host (past ++ made) request

theorem Got.typed {walk : Walk} {host : Host} {past : List Request} {reply : Reply}
    (got : walk.Got host past reply) (typed : ∀ past request, (host past request).Typed) :
    reply.Typed := by
  obtain ⟨made, request, -, rfl⟩ := got
  exact typed _ request

/-- What a walk came to: a fault of the repository, some files, or a listing nested too deep. -/
inductive Settled (walk : Walk) (host : Host) (past : List Request) : Prop where
  | stopped (fault : RepositoryFault) (outcome : walk.outcome = .error (.repository fault))
  | collected (entries : List Entry) (outcome : walk.outcome = .ok entries)
    (typed : ∀ e ∈ entries, e.Typed)
  | tooDeep (isObject : Bool) (made : List Request) (last : Request)
    (requests : walk.requests = made ++ [last])
    (listing : Client.listingOf (host (past ++ made) last) = .error (.mishap (.tooDeep isObject)))
    (outcome : walk.outcome = .error (.mishap (.tooDeep isObject)))

/-- The listing of a directory below the root that a walk got is nested too deep to be read. -/
def MeetsDepth (walk : Walk) (host : Host) (past : List Request) : Prop :=
  ∃ made request, made ≠ [] ∧ made ++ [request] <+: walk.requests ∧
    ∃ isObject,
      Client.listingOf (host (past ++ made) request) = .error (.mishap (.tooDeep isObject))

/-- A walk that asked for nothing but the root met no other directory. -/
theorem not_meetsDepth_of_root {walk : Walk} {host : Host} {past : List Request} {root : Request}
    (alone : walk.requests = [root]) : ¬walk.MeetsDepth host past := by
  rintro ⟨made, request, below, asked, -⟩
  have lengths := asked.length_le
  rw [alone, List.length_append, List.length_singleton, List.length_singleton] at lengths
  exact below (List.length_eq_zero_iff.mp (by omega))

theorem wanted_of_typed {e : Entry} (typed : e.Typed) : ∃ answer, wanted e = .ok answer := by
  obtain ⟨name, named⟩ := typed.name
  rw [wanted, named]
  split
  · exact ⟨_, rfl⟩
  · exact ⟨_, rfl⟩

theorem entered_of_typed {e : Entry} (typed : e.Typed) : ∃ answer, entered e = .ok answer := by
  obtain ⟨name, named⟩ := typed.name
  rw [entered, named]
  split
  · exact ⟨_, rfl⟩
  · exact ⟨_, rfl⟩

/-- Typed entries are gone through, and some of them are collected. -/
theorem takeEntries_of_typed (cap : Int) {entries : List Entry}
    (typed : ∀ e ∈ entries, e.Typed) (files : List Entry) (pending : List Json) :
    ∃ files' pending', takeEntries cap files pending entries = .ok (files', pending') ∧
      ∀ e ∈ files', e ∈ files ∨ e ∈ entries := by
  fun_induction takeEntries cap files pending entries with
  | case1 files pending => exact ⟨files, pending, rfl, fun _ member => Or.inl member⟩
  | case2 files pending e entries enough =>
    exact ⟨files, pending, rfl, fun _ member => Or.inl member⟩
  | case3 files pending e entries few m fails =>
    obtain ⟨answer, wants⟩ := wanted_of_typed (typed e List.mem_cons_self)
    rw [wants] at fails
    cases fails
  | case4 files pending e entries few wants ih =>
    obtain ⟨files', pending', taken, from'⟩ := ih (List.forall_mem_cons.mp typed).2
    refine ⟨files', pending', taken, fun e' member => ?_⟩
    rcases from' e' member with before | later
    · rcases List.mem_append.mp before with before | single
      · exact Or.inl before
      · exact Or.inr (List.mem_singleton.mp single ▸ List.mem_cons_self)
    · exact Or.inr (List.mem_cons_of_mem e later)
  | case5 files pending e entries few unwanted m fails =>
    obtain ⟨answer, enters⟩ := entered_of_typed (typed e List.mem_cons_self)
    rw [enters] at fails
    cases fails
  | case6 files pending e entries few unwanted enters ih =>
    obtain ⟨files', pending', taken, from'⟩ := ih (List.forall_mem_cons.mp typed).2
    exact ⟨files', pending', taken,
      fun e' member => (from' e' member).imp_right (List.mem_cons_of_mem e)⟩
  | case7 files pending e entries few unwanted skipped ih =>
    obtain ⟨files', pending', taken, from'⟩ := ih (List.forall_mem_cons.mp typed).2
    exact ⟨files', pending', taken,
      fun e' member => (from' e' member).imp_right (List.mem_cons_of_mem e)⟩

variable {host : Host} {client : Client} {owner repo : String} {cap : Int} {past : List Request}
  {listings : Nat} {made : List Request} {warnings : List String} {files : List Entry}
  {pending : List Json} {walk : Walk}

/-- A walk with room left goes on with what the next directory lists. -/
theorem explore_of_listing {entries files' : List Entry} {path : Json} {pending' : List Json}
    (few : files.length < cap)
    (lists : Client.listingOf (host (past ++ made) (client.listingRequest owner repo path)) =
      .ok entries)
    (taken : takeEntries cap files pending entries = .ok (files', pending')) :
    explore host client owner repo cap past (listings + 1) made warnings files (path :: pending) =
      explore host client owner repo cap past listings
        (made ++ [client.listingRequest owner repo path]) warnings files' pending' := by
  rw [explore, if_neg (by omega)]
  simp only [lists, taken]

/-- A walk takes no request back. -/
theorem made_prefix_requests
    (ends : explore host client owner repo cap past listings made warnings files pending =
      some walk) : made <+: walk.requests := by
  fun_induction explore host client owner repo cap past listings made warnings files pending
  case case1 | case2 =>
    cases ends
    exact List.prefix_rfl
  case case3 => cases ends
  case case4 ih | case8 ih => exact (List.prefix_append _ _).trans (ih ends)
  case case5 | case6 | case7 =>
    cases ends
    exact List.prefix_append _ _

/-- Where the host answers and the listings that it gets are typed, a walk that ends settles. -/
theorem explore_settled
    (ends : explore host client owner repo cap past listings made warnings files pending =
      some walk)
    (answers : host.Answers) (listed : ∀ reply, walk.Got host past reply → reply.Typed)
    (typed : ∀ e ∈ files, e.Typed) : walk.Settled host past := by
  fun_induction explore host client owner repo cap past listings made warnings files pending
  case case1 files | case2 files _ _ _ =>
    cases ends
    exact .collected files rfl typed
  case case3 => cases ends
  case case4 ih => exact ih ends typed
  case case5 fault _ _ =>
    cases ends
    exact .stopped fault rfl
  case case6 made warnings _ _ _ _ _ request reply _ e unknown failed =>
    cases ends
    rcases Client.listingOf_eq_error (answers _ _) failed with ⟨fault, rfl⟩ | ⟨isObject, rfl⟩
    · exact absurd rfl (unknown fault)
    · exact .tooDeep isObject made request rfl failed rfl
  case case7 made warnings files _ pending _ _ request reply _ entries lists m fails =>
    cases ends
    have got : Got ⟨made ++ [request], warnings, .error (.mishap m)⟩ host past reply :=
      ⟨made, request, List.prefix_rfl, rfl⟩
    obtain ⟨files', pending', taken, -⟩ :=
      takeEntries_of_typed cap (listed reply got entries lists) files pending
    rw [taken] at fails
    cases fails
  case case8 made _ files _ pending _ _ request reply _ entries lists _ _ takes ih =>
    -- The walk goes on, and what it asks for later comes after this request.
    have got : walk.Got host past reply :=
      ⟨made, request, made_prefix_requests ends, rfl⟩
    obtain ⟨files', pending', taken, kept⟩ :=
      takeEntries_of_typed cap (listed reply got entries lists) files pending
    rw [taken] at takes
    cases takes
    exact ih ends fun e member => (kept e member).elim (typed e) (listed reply got entries lists e)

/-- A walk from the root settles. -/
theorem collect_settled
    (ends : client.collect host past owner repo cap listings = some walk)
    (answers : host.Answers) (listed : ∀ reply, walk.Got host past reply → reply.Typed) :
    walk.Settled host past :=
  explore_settled ends answers listed nofun

end Walk
end LeakScan
