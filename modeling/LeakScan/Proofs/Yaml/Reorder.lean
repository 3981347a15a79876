import Mathlib.Data.List.Perm.Basic
import LeakScan.Yaml.Value

/-!
# Keys in another order

The mapping that a document is may have its keys in another order (`Yaml.Reorders`); the cells and
the undefined numbers of the document may bear other numbers then. What shows of a value does not
depend on this, unless the mapping is part of the value: then its keys show in their order
(`Reorders.exists_shownIn`). In either case something shows.
-/

namespace LeakScan.Yaml
set_option autoImplicit false

variable {renumber : Nat → Nat}

/-- Two values of two documents are the same, where a cell of the one has another number in the
other. -/
inductive Value.SameBy (renumber : Nat → Nat) : Value → Value → Prop
  | cell (number : Nat) : SameBy renumber (.cell number) (.cell (renumber number))
  | nan (node other : Option Nat) : SameBy renumber (.nan node) (.nan other)
  | scalar {v : Value} (solid : ∀ number, v ≠ .cell number) : SameBy renumber v v

/-- Two pairs have the same values. -/
def PairSameBy (renumber : Nat → Nat) (p q : Value × Value) : Prop :=
  p.1.SameBy renumber q.1 ∧ p.2.SameBy renumber q.2

/-- Two cells hold the same values in the same order. -/
inductive Cell.SameBy (renumber : Nat → Nat) : Cell → Cell → Prop
  | list {items others : List Value} (same : List.Forall₂ (Value.SameBy renumber) items others) :
    SameBy renumber (.list items) (.list others)
  | set {items others : List Value} (same : List.Forall₂ (Value.SameBy renumber) items others) :
    SameBy renumber (.set items) (.set others)
  | pairs {items others : List (Value × Value)}
    (same : List.Forall₂ (PairSameBy renumber) items others) :
    SameBy renumber (.pairs items) (.pairs others)
  | map {fields others : List (Value × Value)}
    (same : List.Forall₂ (PairSameBy renumber) fields others) :
    SameBy renumber (.map fields) (.map others)

/-- A document is another one whose mapping has its keys in another order. -/
structure Reorders (renumber : Nat → Nat) (y y' : Yaml) : Prop where
  injective : renumber.Injective
  mapping : ∃ number fields others moved, y.root = .cell number ∧
    y'.root = .cell (renumber number) ∧ y.cells[number]? = some (.map fields) ∧
    y'.cells[renumber number]? = some (.map moved) ∧
    List.Forall₂ (PairSameBy renumber) fields others ∧ others.Perm moved
  others : ∀ number c, y.root ≠ .cell number → y.cells[number]? = some c →
    ∃ c', y'.cells[renumber number]? = some c' ∧ c.SameBy renumber c'

/-- The values that a cell holds, keys among them. -/
def Cell.values : Cell → List Value
  | list items | set items => items
  | pairs items | map items => items.flatMap fun p => [p.1, p.2]

/-- A value of a document holds what the document is, at some depth. -/
inductive HoldsWhole (y : Yaml) : Value → Prop
  | whole : HoldsWhole y y.root
  | inside {number : Nat} {c : Cell} {v : Value} (here : y.cells[number]? = some c)
    (member : v ∈ c.values) (holds : HoldsWhole y v) : HoldsWhole y (.cell number)

/-! ## Moving fields alone -/

theorem Value.SameBy.refl (v : Value) : v.SameBy id v := by
  cases v with
  | cell number => exact .cell number
  | _ => exact .scalar nofun

theorem PairSameBy.refl (p : Value × Value) : PairSameBy id p p := ⟨.refl _, .refl _⟩

theorem Cell.SameBy.refl (c : Cell) : c.SameBy id c := by
  cases c with
  | list => exact .list (List.forall₂_same.mpr fun v _ => .refl v)
  | set => exact .set (List.forall₂_same.mpr fun v _ => .refl v)
  | pairs => exact .pairs (List.forall₂_same.mpr fun p _ => .refl p)
  | map => exact .map (List.forall₂_same.mpr fun p _ => .refl p)

/-- A document is in another order if the fields of its mapping are moved, and nothing else. -/
theorem Reorders.of_perm {fields moved : List (Value × Value)} (order : fields.Perm moved)
    (rest : List Cell) : Reorders id ⟨(.map fields :: rest).toArray, .cell 0⟩
      ⟨(.map moved :: rest).toArray, .cell 0⟩ where
  injective := Function.injective_id
  mapping := ⟨0, fields, fields, moved, rfl, rfl, rfl, rfl,
    List.forall₂_same.mpr fun p _ => .refl p, order⟩
  others := by
    rintro (_ | number) c other here
    · exact absurd rfl other
    · exact ⟨c, by simpa using here, .refl c⟩

/-! ## Parts that show -/

section Parts

variable {α β γ ε : Type}

theorem mapM_eq_ok_iff {f : α → Except ε γ} {items : List α} {shown : List γ} :
    items.mapM f = .ok shown ↔ List.Forall₂ (fun x s => f x = .ok s) items shown := by
  induction items generalizing shown with
  | nil => simp [pure, Except.pure, eq_comm]
  | cons x items ih =>
    rw [List.mapM_cons]
    cases first : f x with
    | error e => simp [List.forall₂_cons_left_iff, first, bind, Except.bind]
    | ok s =>
      cases rest : items.mapM f with
      | error e =>
        have never (ss : List γ) : ¬List.Forall₂ (fun x s => f x = .ok s) items ss := by
          rw [← ih, rest]
          nofun
        simp [List.forall₂_cons_left_iff, never, bind, Except.bind]
      | ok ss =>
        have others (ss' : List γ) :
            List.Forall₂ (fun x s => f x = .ok s) items ss' ↔ ss = ss' := by
          rw [← ih, rest, Except.ok.injEq]
        simp [List.forall₂_cons_left_iff, first, others, eq_comm, bind, Except.bind, pure,
          Except.pure]

/-- What shows of some parts shows of parts that are like them. -/
theorem exists_mapM_of_forall₂ {R : α → β → Prop} {f : α → Except ε γ} {g : β → Except ε γ}
    {P : Prop} {items : List α} {others : List β} {shown : List γ}
    (like : List.Forall₂ R items others) (all : items.mapM f = .ok shown)
    (each : ∀ x ∈ items, ∀ y, R x y → ∀ s, f x = .ok s → ∃ s', g y = .ok s' ∧ (P → s' = s)) :
    ∃ shown', others.mapM g = .ok shown' ∧ (P → shown' = shown) := by
  simp only [mapM_eq_ok_iff] at all ⊢
  induction like generalizing shown with
  | nil =>
    cases all
    exact ⟨[], .nil, fun _ => rfl⟩
  | @cons x y items others related like ih =>
    obtain _ | ⟨first, later⟩ := all
    obtain ⟨s', here, same⟩ := each x List.mem_cons_self y related _ first
    obtain ⟨shown', there, alike⟩ :=
      ih (fun x member => each x (List.mem_cons_of_mem _ member)) later
    exact ⟨s' :: shown', .cons here there, fun holds => by rw [same holds, alike holds]⟩

/-- In another order the same parts show. -/
theorem exists_mapM_of_perm {f : α → Except ε γ} {items moved : List α} {shown : List γ}
    (order : items.Perm moved) (all : items.mapM f = .ok shown) :
    ∃ shown', moved.mapM f = .ok shown' := by
  obtain ⟨shown', each, -⟩ := List.perm_comp_forall₂ order.symm (mapM_eq_ok_iff.mp all)
  exact ⟨shown', mapM_eq_ok_iff.mpr each⟩

theorem map_eq_ok_iff {x : Except ε α} {f : α → β} {b : β} :
    x.map f = .ok b ↔ ∃ a, x = .ok a ∧ f a = b := by
  cases x <;> simp [Except.map]

end Parts

/-- How the key and the value of a pair show together in a cell. -/
def Cell.joined : Cell → String → String → String
  | map _, k, v => k ++ ": " ++ v
  | _, k, v => "(" ++ k ++ ", " ++ v ++ ")"

/-- What shows of the parts of a cell, where `f` says how values do, and `g` one level deeper. -/
def Cell.partsBy (f g : Value → Except Unshown String) (c : Cell) :
    Except Unshown (List String) :=
  match c with
  | list items => items.mapM f
  | set items => items.mapM g
  | pairs items => items.mapM (both g c.joined)
  | map fields => fields.mapM (both f c.joined)

/-- What stands around the parts of a cell. -/
def Cell.around : Cell → List String → String
  | list _, parts | pairs _, parts => bracketed "[" parts "]"
  | set _, [] => "set()"
  | set _, parts | map _, parts => bracketed "\x7b" parts "\x7d"

theorem Cell.shownBy_eq (f g : Value → Except Unshown String) (c : Cell) :
    c.shownBy f g = (c.partsBy f g).map c.around := by
  cases c with
  | list items =>
    show (items.mapM f).bind _ = (items.mapM f).map _
    cases items.mapM f <;> rfl
  | pairs items =>
    show (items.mapM (both g (pairs items).joined)).bind _ = Except.map _ _
    rw [partsBy]
    cases items.mapM (both g (pairs items).joined) <;> rfl
  | map items =>
    show (items.mapM (both f (map items).joined)).bind _ = Except.map _ _
    rw [partsBy]
    cases items.mapM (both f (map items).joined) <;> rfl
  | set items =>
    cases items with
    | nil => rfl
    | cons x items =>
      show ((x :: items).mapM g).bind _ = ((x :: items).mapM g).map _
      cases mapped : (x :: items).mapM g with
      | error e => rfl
      | ok parts =>
        obtain _ | ⟨_, _⟩ := mapM_eq_ok_iff.mp mapped
        rfl

/-- What `f` shows of some values, `g` shows of the same ones, and it is the same where `P`
holds. -/
def Follows (renumber : Nat → Nat) (P : Prop) (values : List Value)
    (f g : Value → Except Unshown String) : Prop :=
  ∀ v ∈ values, ∀ v', v.SameBy renumber v' → ∀ s, f v = .ok s →
    ∃ s', g v' = .ok s' ∧ (P → s' = s)

theorem Follows.subset {P : Prop} {values fewer : List Value}
    {f g : Value → Except Unshown String} (follows : Follows renumber P values f g)
    (among : fewer ⊆ values) : Follows renumber P fewer f g :=
  fun v member => follows v (among member)

/-- What shows of two values shows of two that are the same. -/
theorem exists_both {f g : Value → Except Unshown String} {join : String → String → String}
    {P : Prop} {p q : Value × Value} {s : String} (like : PairSameBy renumber p q)
    (all : both f join p = .ok s) (follows : Follows renumber P [p.1, p.2] f g) :
    ∃ s', both g join q = .ok s' ∧ (P → s' = s) := by
  rw [both] at all ⊢
  cases key : f p.1 with
  | error e =>
    rw [key] at all
    cases all
  | ok k =>
    cases value : f p.2 with
    | error e =>
      rw [key, value] at all
      cases all
    | ok v =>
      rw [key, value] at all
      cases all
      obtain ⟨k', key', sameKey⟩ := follows p.1 (by simp) q.1 like.1 k key
      obtain ⟨v', value', sameValue⟩ := follows p.2 (by simp) q.2 like.2 v value
      refine ⟨join k' v', by rw [key', value']; rfl, fun holds => ?_⟩
      rw [sameKey holds, sameValue holds]

/-- What shows of a cell shows of one that is the same. -/
theorem Cell.SameBy.exists_shownBy {f g f' g' : Value → Except Unshown String} {P : Prop}
    {c c' : Cell} {s : String} (like : c.SameBy renumber c') (all : c.shownBy f g = .ok s)
    (near : Follows renumber P c.values f f') (deep : Follows renumber P c.values g g') :
    ∃ s', c'.shownBy f' g' = .ok s' ∧ (P → s' = s) := by
  rw [shownBy_eq, map_eq_ok_iff] at all
  obtain ⟨parts, all, rfl⟩ := all
  have inPair {items : List (Value × Value)} {p : Value × Value} (member : p ∈ items) :
      [p.1, p.2] ⊆ items.flatMap fun p => [p.1, p.2] :=
    fun v part => List.mem_flatMap.mpr ⟨p, member, part⟩
  have alike : ∃ parts', c'.partsBy f' g' = .ok parts' ∧ (P → parts' = parts) := by
    cases like with
    | list same => exact exists_mapM_of_forall₂ same all near
    | set same => exact exists_mapM_of_forall₂ same all deep
    | pairs same =>
      refine exists_mapM_of_forall₂ same all fun p member q related s shows => ?_
      exact exists_both related shows (deep.subset (inPair member))
    | map same =>
      refine exists_mapM_of_forall₂ same all fun p member q related s shows => ?_
      exact exists_both related shows (near.subset (inPair member))
  have around : c'.around = c.around := by
    cases like with
    | set =>
      funext parts
      cases parts <;> rfl
    | list | pairs | map => rfl
  obtain ⟨parts', shown, same⟩ := alike
  refine ⟨c.around parts', ?_, fun holds => by rw [same holds]⟩
  rw [shownBy_eq, shown, around]
  rfl

/-- In another order the fields of a mapping show too. -/
theorem exists_shownBy_of_perm {f g : Value → Except Unshown String}
    {fields moved : List (Value × Value)} {s : String} (order : fields.Perm moved)
    (all : (Cell.map fields).shownBy f g = .ok s) :
    ∃ s', (Cell.map moved).shownBy f g = .ok s' := by
  rw [Cell.shownBy_eq, map_eq_ok_iff] at all
  obtain ⟨parts, all, -⟩ := all
  obtain ⟨parts', all'⟩ := exists_mapM_of_perm order all
  refine ⟨(Cell.map moved).around parts', ?_⟩
  rw [Cell.shownBy_eq, map_eq_ok_iff]
  exact ⟨parts', all', rfl⟩

theorem shownIn_zero (cells : Array Cell) (around : List Nat) (v : Value) :
    shownIn cells 0 around v = .error .tooDeep := rfl

theorem shownIn_cell (cells : Array Cell) (room : Nat) (around : List Nat) (number : Nat) :
    shownIn cells (room + 1) around (.cell number) =
      match cells[number]? with
      | none => .error .tooDeep
      | some c =>
        if around.contains number then .ok c.mark
        else c.shownBy (shownIn cells room (number :: around))
          (shownIn cells (room - 1) (number :: around)) := by
  rw [shownIn.eq_def]
  cases room <;> rfl

/-- Two values that are the same are cells, or show alike wherever there is room. -/
theorem Value.SameBy.cells_or_alike {v v' : Value} (like : v.SameBy renumber v') :
    (∃ number, v = .cell number ∧ v' = .cell (renumber number)) ∨
      ∀ (cells others : Array Cell) (room room' : Nat) (around around' : List Nat),
        shownIn others (room' + 1) around' v' = shownIn cells (room + 1) around v := by
  cases like with
  | cell number => exact .inl ⟨number, rfl, rfl⟩
  | nan node other => exact .inr fun cells others room room' around around' => rfl
  | scalar solid =>
    refine .inr fun cells others room room' around around' => ?_
    cases v with
    | cell number => exact absurd rfl (solid number)
    | _ => rfl

namespace Reorders

variable {y y' : Yaml}

/-- A cell of a document stands in the other one, with the same values in the same order unless it
is the mapping. -/
theorem exists_cell (reorders : Reorders renumber y y') {number : Nat} {c : Cell}
    (here : y.cells[number]? = some c) :
    ∃ c', y'.cells[renumber number]? = some c' ∧ c'.mark = c.mark ∧
      (c.SameBy renumber c' ∨ y.root = .cell number ∧
        ∃ fields others moved, c = .map fields ∧ c' = .map moved ∧
          (Cell.map fields).SameBy renumber (.map others) ∧ others.Perm moved) := by
  by_cases whole : y.root = .cell number
  · obtain ⟨_, fields, others, moved, root, -, cell, cell', same, order⟩ := reorders.mapping
    cases root.symm.trans whole
    cases here.symm.trans cell
    exact ⟨_, cell', rfl, .inr ⟨whole, fields, others, moved, rfl, rfl, .map same, order⟩⟩
  · obtain ⟨c', cell', same⟩ := reorders.others number c whole here
    refine ⟨c', cell', ?_, .inl same⟩
    cases same <;> rfl

/-- What shows of a value shows in the other order too, and is the same unless the value holds the
mapping. -/
theorem exists_shownIn (reorders : Reorders renumber y y') {room room' : Nat} {around : List Nat}
    {v v' : Value} {s : String} (like : v.SameBy renumber v') (enough : room ≤ room')
    (all : shownIn y.cells room around v = .ok s) :
    ∃ s', shownIn y'.cells room' (around.map renumber) v' = .ok s' ∧
      (¬HoldsWhole y v → s' = s) := by
  induction room using Nat.strongRecOn generalizing room' around v v' s with
  | ind room ih =>
    obtain _ | room := room
    · cases (shownIn_zero ..).symm.trans all
    obtain ⟨room', rfl⟩ := Nat.exists_eq_add_of_le' (Nat.lt_of_lt_of_le room.succ_pos enough)
    obtain ⟨number, rfl, rfl⟩ | alike := like.cells_or_alike
    swap
    · exact ⟨s, (alike ..).trans all, fun _ => rfl⟩
    have met : (around.map renumber).contains (renumber number) = around.contains number := by
      rw [Bool.eq_iff_iff, List.contains_iff_mem, List.contains_iff_mem,
        List.mem_map_of_injective reorders.injective]
    rw [shownIn_cell] at all ⊢
    cases here : y.cells[number]? with
    | none =>
      rw [here] at all
      cases all
    | some c =>
      obtain ⟨c', there, mark, form⟩ := reorders.exists_cell here
      simp only [here, there, met, mark] at all ⊢
      split at all
      · rename_i inside
        cases all
        exact ⟨_, if_pos inside, fun _ => rfl⟩
      · rename_i outside
        rw [if_neg outside]
        have follows {P : Prop} {r r' : Nat} (less : r < room + 1) (enough : r ≤ r')
            (deeper : ∀ v ∈ c.values, P → ¬HoldsWhole y v) :
            Follows renumber P c.values (shownIn y.cells r (number :: around))
              (shownIn y'.cells r' ((number :: around).map renumber)) := by
          intro v member v' like s shown
          obtain ⟨s', shown', same⟩ := ih r less like enough shown
          exact ⟨s', shown', fun holds => same (deeper v member holds)⟩
        have less : room - 1 < room + 1 := by omega
        have enough' : room ≤ room' ∧ room - 1 ≤ room' - 1 := by omega
        obtain like | ⟨whole, fields, others, moved, rfl, rfl, like, order⟩ := form
        · have deeper : ∀ v ∈ c.values, ¬HoldsWhole y (.cell number) → ¬HoldsWhole y v :=
            fun v member outside holds => outside (.inside here member holds)
          exact like.exists_shownBy all (follows room.lt_succ_self enough'.1 deeper)
            (follows less enough'.2 deeper)
        · -- The mapping itself: its fields show, in their new order.
          have never : ∀ v ∈ (Cell.map fields).values, False → ¬HoldsWhole y v :=
            fun _ _ => False.elim
          obtain ⟨s', shown, -⟩ := like.exists_shownBy all
            (follows room.lt_succ_self enough'.1 never) (follows less enough'.2 never)
          obtain ⟨s'', shown⟩ := exists_shownBy_of_perm order shown
          exact ⟨s'', shown, fun apart => absurd (whole ▸ HoldsWhole.whole) apart⟩

end Reorders
end LeakScan.Yaml
