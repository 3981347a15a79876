import LeakScan.Proofs.Session.Lifetime

/-!
# Looking sessions up

Sessions are created, registered, looked up and changed, and time goes on; expired sessions are
dropped from the registry at a registration or a look-up and at no other time. Whoever looks up does
not see that: what was registered is found exactly while it is live (`Timed.lookup_iff_live`).
Between two look-ups the registry holds every registered session that has not expired, and perhaps
some that have (`Timed.Inv`); since what has expired stays so, it makes no difference when those are
dropped.
-/

namespace LeakScan
set_option autoImplicit false

variable {T : Type}

namespace Sessions

variable {sessions : Sessions T} {id : String} {s : Session T}

theorem mem_of_get? (found : sessions.get? id = some s) : s ∈ sessions ∧ s.id = id :=
  ⟨List.mem_of_find?_eq_some found, by simpa using List.find?_some found⟩

theorem id_mem_of_get? (found : sessions.get? id = some s) : id ∈ sessions.map Session.id := by
  obtain ⟨member, same⟩ := mem_of_get? found
  exact same ▸ List.mem_map_of_mem member

/-- Where identifiers are distinct, a session is found by its own. -/
theorem get?_id_of_mem (distinct : (sessions.map Session.id).Nodup) (member : s ∈ sessions) :
    sessions.get? s.id = some s := by
  induction sessions with
  | nil => cases member
  | cons first sessions ih =>
    obtain ⟨new, distinct⟩ := List.nodup_cons.mp distinct
    rcases List.mem_cons.mp member with rfl | member
    · simp [get?]
    · have other : first.id ≠ s.id := fun same =>
        new (same ▸ List.mem_map_of_mem member)
      rw [get?, List.find?_cons_of_neg (by simpa using other)]
      exact ih distinct member

theorem id_notMem_of_get?_eq_none (unknown : sessions.get? id = none) :
    id ∉ sessions.map Session.id := by
  intro member
  obtain ⟨s, here, rfl⟩ := List.mem_map.mp member
  exact absurd (List.find?_eq_none.mp unknown s here) (by simp)

theorem get?_append (found : sessions.get? id = some s) (others : Sessions T) :
    get? (sessions ++ others) id = some s := by
  rw [get?] at found
  rw [get?, List.find?_append, found, Option.some_or]

/-- A new session is found where no other has its identifier. -/
theorem get?_append_self (fresh : sessions.get? s.id = none) :
    get? (sessions ++ [s]) s.id = some s := by
  rw [get?] at fresh
  simp [get?, List.find?_append, fresh]

theorem get?_append_of_ne (ne : s.id ≠ id) : get? (sessions ++ [s]) id = sessions.get? id := by
  simp [get?, List.find?_append, ne]

theorem get?_modify {f : Session T → Session T} (keeps : ∀ s, (f s).id = s.id) (other : String) :
    (sessions.modify other f).get? id =
      (sessions.get? id).map fun s => if s.id = other then f s else s := by
  have same : (fun s : Session T => decide ((if s.id = other then f s else s).id = id)) =
      fun s => decide (s.id = id) := by
    funext s
    split <;> simp [keeps]
  rw [get?, modify, List.find?_map, get?]
  exact congrArg (fun p => (sessions.find? p).map _) same

theorem modify_of_get?_eq_none (unknown : sessions.get? id = none) (f : Session T → Session T) :
    sessions.modify id f = sessions := by
  have other : ∀ s ∈ sessions, (if s.id = id then f s else s) = s := by
    intro s member
    refine if_neg ?_
    rintro rfl
    exact id_notMem_of_get?_eq_none unknown (List.mem_map_of_mem member)
  exact (List.map_congr_left other).trans (List.map_id sessions)

theorem map_id_modify {f : Session T → Session T} (keeps : ∀ s, (f s).id = s.id)
    (other : String) : (sessions.modify other f).map Session.id = sessions.map Session.id := by
  rw [modify, List.map_map]
  apply List.map_congr_left
  intro s _
  simp only [Function.comp_apply]
  split <;> simp [keeps]

end Sessions

namespace Registry

section

variable [Time T] {r : Registry T} {sessions : Sessions T} {now : T} {id : String} {s : Session T}

theorem mem_purge_iff :
    id ∈ (r.purge sessions now).members ↔
      id ∈ r.members ∧ ∀ s, sessions.get? id = some s → s.expired r.ttl now = false := by
  rw [purge, List.mem_filter, and_congr_right_iff]
  intro _
  cases sessions.get? id <;> simp

/-- Where the same sessions have expired, the same members are dropped. -/
theorem purge_congr {others : Sessions T}
    (same : ∀ id, (sessions.get? id).any (·.expired r.ttl now) =
      (others.get? id).any (·.expired r.ttl now)) :
    r.purge sessions now = r.purge others now := by
  simp only [purge, Registry.mk.injEq, true_and]
  apply List.filter_congr
  intro id _
  have same := same id
  cases here : sessions.get? id <;> cases there : others.get? id <;> simp_all

/-- A new session drops no member. -/
theorem purge_append (unfinished : s.finishedAt = none) :
    r.purge (sessions ++ [s]) now = r.purge sessions now := by
  apply purge_congr
  intro id
  have fresh : s.expired r.ttl now = false := by rw [Session.expired, unfinished]
  rw [Sessions.get?, List.find?_append, Sessions.get?]
  cases sessions.find? (·.id = id) with
  | some s' => rfl
  | none =>
    rw [Option.none_or, List.find?_singleton]
    split <;> simp [fresh]

theorem nodup_purge (distinct : r.members.Nodup) : (r.purge sessions now).members.Nodup :=
  distinct.filter _

theorem mem_add_iff {other : String} :
    other ∈ (r.add sessions now id).members ↔
      other ∈ (r.purge sessions now).members ∨ other = id := by
  rw [add]
  split
  · rename_i here
    rw [List.contains_iff_mem] at here
    exact ⟨Or.inl, fun either => either.elim (fun member => member) fun same => same ▸ here⟩
  · simp

theorem nodup_add (distinct : r.members.Nodup) : (r.add sessions now id).members.Nodup := by
  rw [add]
  split
  · exact nodup_purge distinct
  · rename_i new
    rw [List.contains_iff_mem] at new
    rw [List.nodup_append]
    refine ⟨nodup_purge distinct, by simp, ?_⟩
    rintro other member _ single rfl
    exact new (List.mem_singleton.mp single ▸ member)

theorem ttl_add : (r.add sessions now id).ttl = r.ttl := by
  rw [add]
  split <;> rfl

/-- Registering a session does not change which others are there. -/
theorem mem_purge_add_iff {other : String} (ne : other ≠ id) :
    other ∈ ((r.add sessions now id).purge sessions now).members ↔
      other ∈ (r.purge sessions now).members := by
  rw [mem_purge_iff, mem_add_iff, ttl_add, or_iff_left ne, mem_purge_iff]
  exact ⟨fun both => both.1, fun both => ⟨both, both.2⟩⟩

/-- A look-up drops what has expired. -/
theorem get_fst : (r.get sessions now id).1 = r.purge sessions now := by
  rw [get]
  split
  · split <;> rfl
  · rfl

theorem get_eq_ok_iff :
    (r.get sessions now id).2 = .ok s ↔
      id ∈ (r.purge sessions now).members ∧ sessions.get? id = some s := by
  rw [get]
  split
  · rename_i here
    rw [List.contains_iff_mem] at here
    cases sessions.get? id <;> simp [here]
  · rename_i gone
    rw [List.contains_iff_mem] at gone
    simp [gone]

/-- A look-up depends on whether the identifier is held and on its session. -/
theorem get_congr {r' : Registry T} {others : Sessions T}
    (member : id ∈ (r.purge sessions now).members ↔ id ∈ (r'.purge others now).members)
    (same : sessions.get? id = others.get? id) :
    (r.get sessions now id).2 = (r'.get others now id).2 := by
  simp only [get, List.contains_iff_mem, member, same]
  split
  · cases others.get? id <;> rfl
  · rfl

/-- A look-up that finds nothing names the identifier. -/
theorem get_eq_error_iff :
    (r.get sessions now id).2 = .error ⟨id⟩ ↔ ∀ s, (r.get sessions now id).2 ≠ .ok s := by
  rw [get]
  split
  · cases sessions.get? id <;> simp
  · simp

end

/-- Something that happens: a session is created, registered, looked up or changed by an event of
its own, or the clock moves. -/
inductive Event (T : Type) where
  | create (id kind source : String)
  | add (id : String)
  | get (id : String)
  | happen (id : String) (e : Session.Event T)
  | clock (now : T)

/-- A registry, the sessions that were created, and the time that the clock shows. -/
structure Timed (T : Type) where
  registry : Registry T
  sessions : Sessions T
  now : T

namespace Timed

/-- Nothing was created yet. -/
def start (ttl now : T) : Timed T := ⟨.empty ttl, [], now⟩

variable [Time T]

/-- What an event does. -/
def step (w : Timed T) : Event T → Timed T
  | .create id kind source => { w with sessions := w.sessions ++ [.create id kind source] }
  | .add id => { w with registry := w.registry.add w.sessions w.now id }
  | .get id => { w with registry := (w.registry.get w.sessions w.now id).1 }
  | .happen id e => { w with sessions := w.sessions.modify id fun s => s.after w.now e }
  | .clock now => { w with now := now }

/-- What some events do, one after another. -/
def run (w : Timed T) (events : List (Event T)) : Timed T := events.foldl step w

/-- What a look-up answers. -/
def lookup (w : Timed T) (id : String) : Except NotFound (Session T) :=
  (w.registry.get w.sessions w.now id).2

/-- The number of sessions held right after a look-up. -/
def held (w : Timed T) (id : String) : Nat := (w.registry.get w.sessions w.now id).1.size

end Timed

/-- The identifiers registered in the course of some events. -/
def added (events : List (Event T)) : List String :=
  events.filterMap fun
    | .add id => some id
    | _ => none

theorem added_append (events later : List (Event T)) :
    added (events ++ later) = added events ++ added later := List.filterMap_append

/-- An event that can happen: a new session has an identifier of its own, what is registered is a
session that was created, and the clock does not go back. -/
def Event.Fits [ExactTime T] (w : Timed T) : Event T → Prop
  | .create id _ _ => w.sessions.get? id = none
  | .add id => ∃ s, w.sessions.get? id = some s
  | .clock now => w.now ≤ now
  | _ => True

/-- Events that can happen one after another. -/
def Orderly [ExactTime T] : Timed T → List (Event T) → Prop
  | _, [] => True
  | w, e :: events => e.Fits w ∧ Orderly (w.step e) events

namespace Timed

variable [ExactTime T] {w : Timed T} {e : Event T} {id : String} {s : Session T}

/-- A session that was created stays; all that befalls it are events of its own. -/
theorem get?_step (found : w.sessions.get? id = some s) (e : Event T) :
    ∃ s', (w.step e).sessions.get? id = some s' ∧ (s' = s ∨ ∃ e', s' = s.after w.now e') := by
  cases e with
  | create other kind source => exact ⟨s, Sessions.get?_append found _, Or.inl rfl⟩
  | add other => exact ⟨s, found, Or.inl rfl⟩
  | get other => exact ⟨s, found, Or.inl rfl⟩
  | clock now => exact ⟨s, found, Or.inl rfl⟩
  | happen other e =>
    refine ⟨if s.id = other then s.after w.now e else s, ?_, ?_⟩
    · rw [step, Sessions.get?_modify (fun s => Session.id_after s w.now e), found]
      rfl
    · split
      · exact Or.inr ⟨e, rfl⟩
      · exact Or.inl rfl

/-- A session has expired, whether it is still held or not. -/
def Gone (w : Timed T) (ttl : T) (id : String) : Prop :=
  ∃ s, w.sessions.get? id = some s ∧ s.expired ttl w.now = true

theorem now_le_step (fits : e.Fits w) : w.now ≤ (w.step e).now := by
  cases e with
  | clock now => exact fits
  | _ => exact le_refl _

/-- What is gone stays gone. -/
theorem Gone.step {ttl : T} (gone : w.Gone ttl id) (fits : e.Fits w) :
    (w.step e).Gone ttl id := by
  obtain ⟨s, found, expired⟩ := gone
  obtain ⟨s', found', same | ⟨e', changed⟩⟩ := get?_step found e
  · exact ⟨s', found', same ▸ Session.expired_mono (now_le_step fits) expired⟩
  · exact ⟨s', found', Session.expired_mono (now_le_step fits)
      (changed ▸ Session.expired_after expired e')⟩

/-- What holds of a registry at any time, where `seen` were registered so far. -/
structure Inv (w : Timed T) (ttl : T) (seen : List String) : Prop where
  lifetime : w.registry.ttl = ttl
  distinct : (w.sessions.map Session.id).Nodup
  nodup : w.registry.members.Nodup
  known : ∀ id ∈ seen, ∃ s, w.sessions.get? id = some s
  registered : ∀ id ∈ w.registry.members, id ∈ seen
  /-- Nothing is dropped that has not expired. -/
  kept : ∀ id ∈ seen, id ∈ w.registry.members ∨ w.Gone ttl id

variable {ttl : T} {seen : List String}

theorem inv_start (ttl now : T) : (start ttl now).Inv ttl [] where
  lifetime := rfl
  distinct := List.nodup_nil
  nodup := List.nodup_nil
  known := nofun
  registered := nofun
  kept := nofun

/-- A purge drops nothing that has not expired. -/
theorem Inv.kept_purge (inv : w.Inv ttl seen) (id : String) (member : id ∈ seen) :
    id ∈ (w.registry.purge w.sessions w.now).members ∨ w.Gone ttl id := by
  rcases inv.kept id member with here | gone
  · obtain ⟨s, found⟩ := inv.known id member
    cases expired : s.expired ttl w.now with
    | true => exact Or.inr ⟨s, found, expired⟩
    | false =>
      refine Or.inl (mem_purge_iff.mpr ⟨here, fun s' found' => ?_⟩)
      rw [found] at found'
      cases found'
      rw [inv.lifetime, expired]
  · exact Or.inr gone

/-- What does not touch the registry keeps the invariant if it keeps identifiers distinct. -/
theorem Inv.of_untouched (inv : w.Inv ttl seen) (fits : e.Fits w)
    (untouched : (w.step e).registry = w.registry)
    (distinct : ((w.step e).sessions.map Session.id).Nodup) : (w.step e).Inv ttl seen where
  lifetime := untouched ▸ inv.lifetime
  distinct := distinct
  nodup := untouched ▸ inv.nodup
  known id member := by
    obtain ⟨s, found⟩ := inv.known id member
    obtain ⟨s', found', -⟩ := get?_step found e
    exact ⟨s', found'⟩
  registered := untouched ▸ inv.registered
  kept id member := by
    rw [untouched]
    exact (inv.kept id member).imp_right fun gone => gone.step fits

/-- Every event that can happen keeps the invariant. -/
theorem inv_step (inv : w.Inv ttl seen) (fits : e.Fits w) :
    (w.step e).Inv ttl (seen ++ added [e]) := by
  cases e with
  | create id kind source =>
    rw [show added [Event.create id kind source] = ([] : List String) from rfl, List.append_nil]
    refine inv.of_untouched fits rfl ?_
    rw [step, List.map_append, List.nodup_append]
    refine ⟨inv.distinct, by simp, ?_⟩
    rintro other member _ single rfl
    rw [List.map_singleton, List.mem_singleton] at single
    rw [single] at member
    exact Sessions.id_notMem_of_get?_eq_none fits member
  | add id =>
    refine ⟨ttl_add.trans inv.lifetime, inv.distinct, nodup_add inv.nodup, ?_, ?_, ?_⟩
    -- The purge comes before the session is put in, so that one is held even if it has expired.
    · intro other member
      rcases List.mem_append.mp member with before | single
      · exact inv.known other before
      · exact List.mem_singleton.mp single ▸ fits
    · intro other member
      rw [List.mem_append]
      rcases mem_add_iff.mp member with before | rfl
      · exact Or.inl (inv.registered other (mem_purge_iff.mp before).1)
      · exact Or.inr (List.mem_singleton_self _)
    · intro other member
      rcases List.mem_append.mp member with before | single
      · exact (inv.kept_purge other before).imp_left fun here => mem_add_iff.mpr (Or.inl here)
      · exact Or.inl (mem_add_iff.mpr (Or.inr (List.mem_singleton.mp single)))
  | get id =>
    rw [show added [Event.get id] = ([] : List String) from rfl, List.append_nil, step, get_fst]
    exact ⟨inv.lifetime, inv.distinct, nodup_purge inv.nodup, inv.known,
      fun other member => inv.registered other (mem_purge_iff.mp member).1, inv.kept_purge⟩
  | happen id e =>
    rw [show added [Event.happen id e] = ([] : List String) from rfl, List.append_nil]
    refine inv.of_untouched fits rfl ?_
    rw [step, Sessions.map_id_modify fun s => Session.id_after s w.now e]
    exact inv.distinct
  | clock now =>
    rw [show added [Event.clock now] = ([] : List String) from rfl, List.append_nil]
    exact inv.of_untouched fits rfl inv.distinct

theorem inv_run {events : List (Event T)} (inv : w.Inv ttl seen) (orderly : Orderly w events) :
    (w.run events).Inv ttl (seen ++ added events) := by
  induction events generalizing w seen with
  | nil => simpa [run, added] using inv
  | cons e events ih =>
    have later := ih (inv_step inv orderly.1) orderly.2
    rwa [List.append_assoc, ← added_append] at later

theorem Gone.run {events : List (Event T)} (gone : w.Gone ttl id) (orderly : Orderly w events) :
    (w.run events).Gone ttl id := by
  induction events generalizing w with
  | nil => exact gone
  | cons e events ih => exact ih (gone.step orderly.1) orderly.2

/-- What a purge leaves are the registered sessions that are live. -/
theorem Inv.mem_purge (inv : w.Inv ttl seen) :
    id ∈ (w.registry.purge w.sessions w.now).members ↔
      id ∈ seen ∧ ∃ s, w.sessions.get? id = some s ∧ s.Live ttl w.now := by
  constructor
  · intro here
    obtain ⟨member, fresh⟩ := mem_purge_iff.mp here
    obtain ⟨s, found⟩ := inv.known id (inv.registered id member)
    exact ⟨inv.registered id member, s, found,
      Session.expired_eq_false_iff.mp (inv.lifetime ▸ fresh s found)⟩
  · rintro ⟨member, s, found, live⟩
    rcases inv.kept_purge id member with here | ⟨s', found', expired⟩
    · exact here
    · rw [found] at found'
      cases found'
      rw [Session.expired_eq_false_iff.mpr live] at expired
      cases expired

theorem Inv.lookup_eq_ok (inv : w.Inv ttl seen) :
    w.lookup id = .ok s ↔ id ∈ seen ∧ w.sessions.get? id = some s ∧ s.Live ttl w.now := by
  rw [lookup, get_eq_ok_iff, inv.mem_purge]
  constructor
  · rintro ⟨⟨member, s', found', live⟩, found⟩
    rw [found] at found'
    cases found'
    exact ⟨member, found, live⟩
  · rintro ⟨member, found, live⟩
    exact ⟨⟨member, s, found, live⟩, found⟩

/-- What is gone is not found. -/
theorem Inv.lookup_of_gone (inv : w.Inv ttl seen) (gone : w.Gone ttl id) :
    w.lookup id = .error ⟨id⟩ := by
  obtain ⟨s, found, expired⟩ := gone
  refine get_eq_error_iff.mpr fun s' ok => ?_
  obtain ⟨-, found', live⟩ := inv.lookup_eq_ok.mp ok
  rw [found] at found'
  cases found'
  rw [Session.expired_eq_false_iff.mpr live] at expired
  cases expired

/-- As many sessions are held after a look-up as are registered and live. -/
theorem Inv.held_eq (inv : w.Inv ttl seen) (id : String) :
    w.held id = (w.sessions.filter fun s => s.id ∈ seen ∧ s.Live ttl w.now).length := by
  have same : (w.registry.purge w.sessions w.now).members.Perm
      ((w.sessions.filter fun s => s.id ∈ seen ∧ s.Live ttl w.now).map Session.id) := by
    refine (List.perm_ext_iff_of_nodup (nodup_purge inv.nodup) ?_).mpr fun other => ?_
    · exact inv.distinct.sublist (List.filter_sublist.map _)
    · simp only [inv.mem_purge, List.mem_map, List.mem_filter, decide_eq_true_eq]
      constructor
      · rintro ⟨member, s, found, live⟩
        obtain ⟨here, rfl⟩ := Sessions.mem_of_get? found
        exact ⟨s, ⟨here, member, live⟩, rfl⟩
      · rintro ⟨s, ⟨here, member, live⟩, rfl⟩
        exact ⟨member, s, Sessions.get?_id_of_mem inv.distinct here, live⟩
  rw [held, get_fst, size, same.length_eq, List.length_map]

/-- When sessions are dropped makes no difference to who looks them up. After any events that can
happen, a look-up finds a session exactly where it was registered and is live, and else says that
there is none; the sessions then held are those that a look-up finds. So what has not ended is
always found, and what has expired is not found, now or ever after. -/
theorem lookup_iff_live (ttl now : T) (events : List (Event T))
    (orderly : Orderly (start ttl now) events) (id : String) :
    let w := (start ttl now).run events
    (∀ s, w.lookup id = .ok s ↔
      id ∈ added events ∧ w.sessions.get? id = some s ∧ s.Live ttl w.now) ∧
    (w.lookup id = .error ⟨id⟩ ↔
      ¬∃ s, id ∈ added events ∧ w.sessions.get? id = some s ∧ s.Live ttl w.now) ∧
    w.held id = (w.sessions.filter fun s => s.id ∈ added events ∧ s.Live ttl w.now).length ∧
    (∀ s, id ∈ added events → w.sessions.get? id = some s → s.isTerminal = false →
      w.lookup id = .ok s) ∧
    ∀ s later, w.sessions.get? id = some s → ¬s.Live ttl w.now → Orderly w later →
      (w.run later).lookup id = .error ⟨id⟩ := by
  intro w
  have inv : w.Inv ttl (added events) := inv_run (inv_start ttl now) orderly
  refine ⟨fun s => inv.lookup_eq_ok, ?_, inv.held_eq id, ?_, ?_⟩
  · rw [lookup, get_eq_error_iff, not_exists]
    exact forall_congr' fun s => not_congr inv.lookup_eq_ok
  · intro s member found unfinished
    exact inv.lookup_eq_ok.mpr ⟨member, found, Session.live_of_unfinished unfinished⟩
  · intro s later found dead orderly'
    have gone : w.Gone ttl id :=
      ⟨s, found, Bool.not_eq_false _ ▸ mt Session.expired_eq_false_iff.mp dead⟩
    exact (inv_run inv orderly').lookup_of_gone (gone.run orderly')

/-- Two sessions end at the times 0 and 4 and are kept for ten seconds; a third does not end. At
the time 12 a look-up finds the last two and holds no more, and the first stays away when it is
registered again. -/
theorem lookup_iff_live_three :
    let events : List (Event Rat) :=
      [.create "a" "upload" "x", .add "a", .happen "a" (.complete [] 1), .create "b" "upload" "y",
        .add "b", .clock 4, .happen "b" (.fail "no"), .create "c" "upload" "z", .add "c",
        .clock 10, .get "a", .clock 12]
    let w := (start 10 0).run events
    Orderly (start 10 0) events ∧ w.lookup "a" = .error ⟨"a"⟩ ∧
      (∃ s, w.lookup "b" = .ok s ∧ s.status = "Scan failed: no") ∧
      (∃ s, w.lookup "c" = .ok s ∧ s.isTerminal = false) ∧ w.held "a" = 2 ∧
      (w.run [.add "a", .clock 13]).lookup "a" = .error ⟨"a"⟩ := by
  intro events w
  have orderly : Orderly (start 10 0) events :=
    ⟨rfl, ⟨_, rfl⟩, trivial, rfl, ⟨_, rfl⟩, (by decide : (0 : Rat) ≤ 4), trivial, rfl, ⟨_, rfl⟩,
      (by decide : (4 : Rat) ≤ 10), trivial, (by decide : (10 : Rat) ≤ 12), trivial⟩
  obtain ⟨-, missing, held, -, forever⟩ := lookup_iff_live 10 0 events orderly "a"
  obtain ⟨found, -⟩ := lookup_iff_live 10 0 events orderly "b"
  obtain ⟨-, -, -, unfinished, -⟩ := lookup_iff_live 10 0 events orderly "c"
  have ended : w.sessions.get? "a" = some ⟨"a", "upload", "x", .complete [] 1 0⟩ := rfl
  have dead : ¬Session.Live (⟨"a", "upload", "x", .complete [] 1 0⟩ : Session Rat) 10 12 := by
    decide +kernel
  have live : Session.Live (⟨"b", "upload", "y", .failed "no" 4⟩ : Session Rat) 10 12 := by
    decide +kernel
  refine ⟨orderly, missing.mpr ?_, ⟨_, (found _).mpr ⟨by decide, rfl, live⟩, rfl⟩,
    ⟨_, unfinished _ (by decide) rfl rfl, rfl⟩, held.trans (by decide +kernel), ?_⟩
  · rintro ⟨s, -, found, live⟩
    rw [ended] at found
    cases found
    exact dead live
  · exact forever _ [.add "a", .clock 13] ended dead
      ⟨⟨_, ended⟩, (by decide : (12 : Rat) ≤ 13), trivial⟩

end Timed

end Registry
end LeakScan
