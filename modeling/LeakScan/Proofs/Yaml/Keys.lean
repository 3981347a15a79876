import LeakScan.Yaml.Reader

/-!
# Keys of mappings

No two keys of a mapping that is read from a text are the same (`keysApart_of_ofText`): a key is set
where it stands or added at the end (`keysApart_insert`), and mappings come about in no other way.
What the parts of a reader keep, the whole of them keeps (`Making.Gives.bind`); so every step of the
making of a document keeps the keys of each of its mappings apart.
-/

namespace LeakScan.Yaml
set_option autoImplicit false

/-- No key of some fields is the same as a later one. -/
def KeysApart (fields : List (Value × Value)) : Prop :=
  (fields.map Prod.fst).Pairwise fun k l => Value.sameKey k l = false

/-- Where a key is set, the keys are as they were, or it comes last, apart from all others. -/
theorem keys_insert (key value : Value) (fields : List (Value × Value)) :
    (Value.insert key value fields).map Prod.fst = fields.map Prod.fst ∨
      (Value.insert key value fields).map Prod.fst = fields.map Prod.fst ++ [key] ∧
        ∀ k ∈ fields.map Prod.fst, Value.sameKey k key = false := by
  induction fields with
  | nil => exact .inr ⟨rfl, nofun⟩
  | cons f fields ih =>
    rw [Value.insert]
    split
    · exact .inl rfl
    · rename_i other
      simp only [List.map_cons, List.cons_append, List.forall_mem_cons]
      obtain same | ⟨last, apart⟩ := ih
      · exact .inl (by rw [same])
      · exact .inr ⟨by rw [last], Bool.not_eq_true _ ▸ other, apart⟩

theorem keysApart_insert {fields : List (Value × Value)} (apart : KeysApart fields)
    (key value : Value) : KeysApart (Value.insert key value fields) := by
  unfold KeysApart at *
  obtain same | ⟨last, others⟩ := keys_insert key value fields
  · rwa [same]
  · rw [last, List.pairwise_append]
    refine ⟨apart, List.pairwise_singleton _ _, fun k among l single => ?_⟩
    rw [List.mem_singleton.mp single]
    exact others k among

/-- The keys of a cell are apart, if it is a mapping. -/
def Cell.KeysApart : Cell → Prop
  | map fields => Yaml.KeysApart fields
  | list _ | set _ | pairs _ => True

namespace Making

/-- In every cell that is made, the keys are apart. -/
def KeysApart (m : Making) : Prop := ∀ c ∈ m.cells, c.KeysApart

variable {α β : Type} {P : α → Prop} {Q : β → Prop}

/-- A step of a making gives a result of a kind and keeps the keys of its mappings apart. -/
def Gives (P : α → Prop) (x : Make α) : Prop :=
  ∀ ⦃m : Making⦄ ⦃a : α⦄ ⦃m' : Making⦄, m.KeysApart → x m = .ok (a, m') → m'.KeysApart ∧ P a

/-- A step of a making keeps the keys of its mappings apart. -/
abbrev Keeps (x : Make α) : Prop := Gives (fun _ => True) x

namespace Gives

theorem pure {a : α} (holds : P a) : Gives P (Pure.pure a : Make α) := by
  intro m b m' apart done
  cases done
  exact ⟨apart, holds⟩

theorem throw (e : Fault) : Gives P (MonadExcept.throw e : Make α) := by
  intro m b m' _ done
  cases done

theorem lift (x : Except Fault α) : Keeps (liftM x : Make α) := by
  intro m a m' apart done
  cases x with
  | error e => cases done
  | ok b =>
    cases done
    exact ⟨apart, trivial⟩

theorem get : Keeps (MonadState.get : Make Making) := by
  intro m a m' apart done
  cases done
  exact ⟨apart, trivial⟩

theorem modifies {f : Making → Making} (keeps : ∀ m : Making, m.KeysApart → (f m).KeysApart) :
    Keeps (modify f : Make Unit) := by
  intro m a m' apart done
  cases done
  exact ⟨keeps m apart, trivial⟩

theorem bind {x : Make α} {f : α → Make β} (first : Gives P x) (next : ∀ a, P a → Gives Q (f a)) :
    Gives Q (x >>= f) := by
  intro m b m' apart done
  have step : (x >>= f) m = (x m).bind fun r => f r.1 r.2 := rfl
  rw [step] at done
  cases began : x m with
  | error e =>
    rw [began] at done
    cases done
  | ok r =>
    rw [began] at done
    obtain ⟨between, holds⟩ := first apart began
    exact next r.1 holds between done

theorem seq {x : Make α} {f : α → Make β} (first : Keeps x) (next : ∀ a, Gives Q (f a)) :
    Gives Q (x >>= f) :=
  first.bind fun a _ => next a

theorem mapM {γ : Type} {f : γ → Make α} (each : ∀ c, Keeps (f c)) (items : List γ) :
    Keeps (items.mapM f) := by
  induction items with
  | nil => exact pure trivial
  | cons c items ih =>
    rw [List.mapM_cons]
    exact (each c).seq fun _ => ih.seq fun _ => pure trivial

theorem findM? {γ : Type} {f : γ → Make Bool} (each : ∀ c, Keeps (f c)) (items : List γ) :
    Keeps (items.findM? f) := by
  induction items with
  | nil => exact pure trivial
  | cons c items ih =>
    rw [List.findM?]
    refine (each c).seq fun found => ?_
    cases found with
    | true => exact pure trivial
    | false => exact ih

end Gives

/-! ## Nodes -/

theorem keeps_node (number : Nat) : Keeps (node number) :=
  Gives.get.seq fun _ => .pure trivial

theorem keeps_isOf (k : Kind) (number : Nat) : Keeps (isOf k number) :=
  (keeps_node number).seq fun _ => .pure trivial

theorem keeps_itemsOf (number : Nat) : Keeps (itemsOf number) := by
  refine (keeps_node number).seq fun n => ?_
  cases n with
  | list => exact .pure trivial
  | scalar | map => exact .throw _

theorem keeps_pairsOf (number : Nat) : Keeps (pairsOf number) := by
  refine (keeps_node number).seq fun n => ?_
  cases n with
  | map => exact .pure trivial
  | scalar | list => exact .throw _

/-! ## Merging -/

theorem keeps_setPairs (number : Nat) (ps : List NodePair) : Keeps (setPairs number ps) :=
  .modifies fun _ apart => apart

theorem keeps_merging? (index : Nat) (ps : List NodePair) : Keeps (merging? index ps) := by
  induction ps generalizing index with
  | nil => exact .pure trivial
  | cons p ps ih =>
    rw [merging?]
    refine (keeps_isOf .merge p.1).seq fun merges => ?_
    split
    · exact .pure trivial
    · refine (keeps_isOf .default p.1).seq fun stands => ?_
      dsimp only
      split
      · refine Gives.seq (.modifies ?_) fun _ => ih (index + 1)
        exact fun _ apart => apart
      · exact ih (index + 1)

theorem keeps_broughtBy {flatten : Nat → Make Unit} (each : ∀ number, Keeps (flatten number))
    (number : Nat) : Keeps (broughtBy flatten number) := by
  have flattened (number : Nat) : Keeps (do
      let _ ← pairsOf number
      flatten number
      pairsOf number) :=
    (keeps_pairsOf number).seq fun _ => (each number).seq fun _ => keeps_pairsOf number
  refine (keeps_node number).seq fun n => ?_
  cases n with
  | map => exact flattened number
  | list _ items => exact (Gives.mapM flattened items).seq fun _ => .pure trivial
  | scalar => exact .throw _

theorem keeps_flattenFrom (steps number index : Nat) (merged : List NodePair) :
    Keeps (flattenFrom steps number index merged) := by
  induction steps generalizing number index merged with
  | zero => exact .pure trivial
  | succ steps ih =>
    rw [flattenFrom]
    refine (keeps_pairsOf number).seq fun ps => (keeps_merging? index _).seq fun found => ?_
    cases found with
    | none => exact keeps_setPairs number _
    | some place =>
      refine (keeps_setPairs number _).seq fun _ => ?_
      exact (keeps_broughtBy (fun n => ih n 0 []) place.2).seq fun _ => ih number place.1 _

theorem keeps_flatten (number : Nat) : Keeps (flatten number) :=
  Gives.get.seq fun _ => keeps_flattenFrom _ number 0 []

/-! ## Scalars -/

theorem keeps_textFrom (steps number : Nat) : Keeps (textFrom steps number) := by
  induction steps generalizing number with
  | zero => exact .throw _
  | succ steps ih =>
    rw [textFrom]
    refine (keeps_node number).seq fun n => ?_
    cases n with
    | scalar => exact .pure trivial
    | list => exact .throw _
    | map _ ps =>
      have each (p : Nat × Nat) : Keeps (isOf .default p.1) := keeps_isOf .default p.1
      have search : Keeps (ps.findM? fun p => isOf .default p.1) := .findM? each ps
      refine search.seq fun found => ?_
      cases found with
      | some p => exact ih p.2
      | none => exact .throw _

theorem keeps_textOf (number : Nat) : Keeps (textOf number) :=
  Gives.get.seq fun _ => keeps_textFrom _ number

theorem keeps_isScalar (number : Nat) : Keeps (isScalar number) := by
  refine (keeps_node number).seq fun n => ?_
  cases n with
  | scalar | list | map => exact .pure trivial

theorem keeps_scalarOf (kind : Kind) (number : Nat) : Keeps (scalarOf kind number) := by
  refine (keeps_textOf number).seq fun s => ?_
  cases kind with
  | null | text => exact .pure trivial
  | bool | int | real | bytes => exact (Gives.lift _).seq fun _ => .pure trivial
  | moment =>
    refine (keeps_isScalar number).seq fun written => ?_
    cases written with
    | true => exact .lift _
    | false => exact .throw _
  | list | map | set | orderedMap | pairs | merge | default | unknown => exact .throw _

/-! ## Cells -/

theorem keysApart_emptyCell {k : Kind} {c : Cell} (empty : emptyCell? k = some c) :
    c.KeysApart := by
  cases k with
  | map =>
    cases empty
    exact .nil
  | list | set | orderedMap | pairs =>
    cases empty
    trivial
  | _ => cases empty

theorem keeps_addCell (number : Nat) {c : Cell} (apart : c.KeysApart) :
    Keeps (addCell number c) := by
  refine Gives.get.seq fun _ => Gives.seq (.modifies ?_) fun _ => .pure trivial
  intro m before other member
  obtain old | rfl := Array.mem_push.mp member
  · exact before other old
  · exact apart

theorem keeps_valueOf (number : Nat) : Keeps (valueOf number) := by
  have stored (v : Value) : Keeps (do
      modify fun m : Making => { m with values := m.values.setIfInBounds number (some v) }
      return v) :=
    Gives.seq (.modifies fun _ apart => apart) fun _ => .pure trivial
  refine Gives.get.seq fun m => ?_
  split
  · exact .pure trivial
  · refine (keeps_node number).seq fun n => ?_
    dsimp only
    split
    · exact (keeps_addCell number (keysApart_emptyCell ‹_›)).seq stored
    · exact (keeps_scalarOf n.kind number).seq stored

/-- The fields that are read have their keys apart. -/
theorem gives_fieldsFrom {fields : List (Value × Value)} (apart : Yaml.KeysApart fields)
    (ps : List NodePair) : Gives Yaml.KeysApart (fieldsFrom fields ps) := by
  induction ps generalizing fields with
  | nil => exact .pure apart
  | cons p ps ih =>
    rw [fieldsFrom]
    refine (keeps_valueOf p.1).seq fun key => ?_
    dsimp only
    split
    · exact Gives.bind (P := fun _ => False) (.throw _) fun _ => False.elim
    · refine (keeps_valueOf p.2).seq fun value => ?_
      exact ih (keysApart_insert apart key value)

theorem gives_fieldsOf (number : Nat) : Gives Yaml.KeysApart (fieldsOf number) :=
  (keeps_pairsOf number).seq fun _ => (keeps_flatten number).seq fun _ =>
    (keeps_pairsOf number).seq fun ps => @gives_fieldsFrom [] .nil ps

theorem keeps_onlyPair (number : Nat) : Keeps (onlyPair number) := by
  refine (keeps_pairsOf number).seq fun ps => ?_
  split
  · exact (keeps_valueOf _).seq fun _ => (keeps_valueOf _).seq fun _ => .pure trivial
  · exact .throw _

theorem gives_contentOf (number : Nat) (c : Cell) : Gives Cell.KeysApart (contentOf number c) := by
  cases c with
  | list =>
    exact (keeps_itemsOf number).seq fun items =>
      (Gives.mapM keeps_valueOf items).seq fun _ => .pure trivial
  | pairs =>
    exact (keeps_itemsOf number).seq fun items =>
      (Gives.mapM keeps_onlyPair items).seq fun _ => .pure trivial
  | map => exact (gives_fieldsOf number).bind fun _ apart => .pure apart
  | set => exact (gives_fieldsOf number).bind fun _ _ => .pure trivial

theorem keeps_fillFrom (steps index : Nat) : Keeps (fillFrom steps index) := by
  induction steps generalizing index with
  | zero => exact .pure trivial
  | succ steps ih =>
    rw [fillFrom]
    refine Gives.get.seq fun m => ?_
    split
    · exact .pure trivial
    · refine (gives_contentOf _ _).bind fun c apart => ?_
      refine Gives.seq (.modifies ?_) fun _ => ih (index + 1)
      intro m before other member
      obtain old | rfl := Array.mem_or_eq_of_mem_setIfInBounds member
      · exact before other old
      · exact apart

theorem keeps_document (root : Nat) : Keeps (document root) :=
  (keeps_valueOf root).seq fun _ => Gives.get.seq fun _ =>
    (keeps_fillFrom _ 0).seq fun _ => .pure trivial

end Making

/-- No two keys of a mapping that is read from a text are the same. -/
theorem keysApart_of_ofText {text : String} {y : Yaml} (read : ofText text = .ok y) :
    ∀ c ∈ y.cells, c.KeysApart := by
  rw [ofText] at read
  cases parsed : Node.ofStream (.ofChars (withNewlines text.toList)) with
  | error e =>
    rw [parsed] at read
    cases read
  | ok g =>
    rw [parsed] at read
    replace read : Making.ofGraph g = .ok y := read
    rw [Making.ofGraph] at read
    cases made : (Making.document g.root).run
        ⟨g.nodes, Array.replicate g.nodes.size none, #[], #[]⟩ with
    | error e =>
      simp only [made] at read
      cases read
    | ok r =>
      simp only [made] at read
      cases read
      have empty : Making.KeysApart ⟨g.nodes, Array.replicate g.nodes.size none, #[], #[]⟩ := by
        simp [Making.KeysApart]
      exact (Making.keeps_document g.root empty made).1

end LeakScan.Yaml
