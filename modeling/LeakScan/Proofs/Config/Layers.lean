import LeakScan.Proofs.Config.Loaded
import LeakScan.Proofs.Yaml.Reorder

/-!
# Layers of a configuration

What is standard gives way to the file setting by setting, and the file to the environment. The
order of the keys of a file does not matter: the same settings are given values that convert alike
(`exists_converted`), so what was loaded is loaded again. Only a text of a setting that shows the
mapping itself, which it holds through an alias, shows its keys in their order (`load_by_layers`).
-/

namespace LeakScan.Config
set_option autoImplicit false

/-- Two values of two documents are the same. -/
inductive SameIn (renumber : Nat → Nat) (y y' : Yaml) : Yaml → Yaml → Prop where
  | of {v v' : Yaml.Value} (same : v.SameBy renumber v') :
    SameIn renumber y y' { y with root := v } { y' with root := v' }

/-- Two rows give the same value of two documents to the same setting. -/
def SameRow (renumber : Nat → Nat) (y y' : Yaml) (p q : Setting × Yaml) : Prop :=
  q.1 = p.1 ∧ SameIn renumber y y' p.2 q.2

variable {renumber : Nat → Nat} {y y' value value' : Yaml} {v v' : Yaml.Value} {s : Setting}
  {c : Config} {t : FileTree} {env : Environment} {path : Option String}

/-! ## Values that are the same -/

theorem settingOf?_eq_of_sameBy (same : v.SameBy renumber v') : settingOf? v' = settingOf? v := by
  cases same <;> rfl

theorem intOf_eq_of_sameBy (same : v.SameBy renumber v') : intOf v' = intOf v := by
  cases same <;> rfl

theorem realOf_eq_of_sameBy (same : v.SameBy renumber v') : realOf v' = realOf v := by
  cases same <;> rfl

/-- A value that shows as plain text does so in the other order too, with the same text unless it
holds the mapping. -/
theorem exists_plain (reorders : y.Reorders renumber y') (same : SameIn renumber y y' value value')
    {base : String} (plain : value.plain = .ok base) :
    ∃ base', value'.plain = .ok base' ∧ (¬y.HoldsWhole value.root → base' = base) := by
  cases same with
  | @of v v' same =>
    have shown {shown : String} (all : Yaml.shown { y with root := v } = .ok shown) :
        ∃ shown', Yaml.shown { y' with root := v' } = .ok shown' ∧
          (¬y.HoldsWhole v → shown' = shown) :=
      @Yaml.Reorders.exists_shownIn _ _ _ reorders _ _ [] _ _ _ same le_rfl all
    cases same with
    | cell number => exact shown plain
    | nan node other => exact shown plain
    | scalar solid =>
      cases v with
      | text | date | moment => exact ⟨base, plain, fun _ => rfl⟩
      | _ => exact shown plain

/-- A value that converts for a setting does so in the other order too, to the same unless it is a
text of what holds the mapping. -/
theorem exists_converted (reorders : y.Reorders renumber y')
    (same : SameIn renumber y y' value value') {h : s.Held}
    (converted : converted? value s = some h) :
    ∃ h', converted? value' s = some h' ∧ (s.Admits h → s.Admits h') ∧
      ((s = .apiBase → ¬y.HoldsWhole value.root) → h' = h) := by
  have alike (found : converted? value' s = converted? value s) :
      ∃ h', converted? value' s = some h' ∧ (s.Admits h → s.Admits h') ∧
        ((s = .apiBase → ¬y.HoldsWhole value.root) → h' = h) :=
    ⟨h, found.trans converted, id, fun _ => rfl⟩
  cases s with
  | apiBase =>
    obtain ⟨base', plain, text⟩ := exists_plain reorders same (eq_ok_of_toOption converted)
    exact ⟨base', congrArg Except.toOption plain, fun _ => trivial, fun apart => text (apart rfl)⟩
  | maxRepoFiles | webPort =>
    refine alike ?_
    obtain ⟨same⟩ := same
    exact congrArg Except.toOption (intOf_eq_of_sameBy same)
  | requestTimeout | sessionTtl =>
    refine alike ?_
    obtain ⟨same⟩ := same
    exact congrArg Except.toOption (realOf_eq_of_sameBy same)

/-! ## Documents in another order -/

theorem fields?_of_cell {number : Nat} {fields : List (Yaml.Value × Yaml.Value)}
    (root : y.root = .cell number) (here : y.cells[number]? = some (.map fields)) :
    y.fields? = some (fields.map fun f => (f.1, { y with root := f.2 })) := by
  simp only [Yaml.fields?, root, here]

theorem forall₂_fieldValues {fields others : List (Yaml.Value × Yaml.Value)}
    (same : List.Forall₂ (Yaml.PairSameBy renumber) fields others) :
    List.Forall₂ (SameRow renumber y y')
      (fieldValues (fields.map fun f => (f.1, { y with root := f.2 })))
      (fieldValues (others.map fun f => (f.1, { y' with root := f.2 }))) := by
  induction same with
  | nil => exact .nil
  | @cons f g fields others like _ ih =>
    have setting : settingOf? g.1 = settingOf? f.1 := settingOf?_eq_of_sameBy like.1
    simp only [fieldValues, List.map_cons, List.filterMap_cons, setting]
    cases settingOf? f.1 with
    | none => exact ih
    | some s => exact .cons ⟨rfl, .of like.2⟩ ih

/-- In another order a document gives the same values to the same settings. -/
theorem exists_documentValues (reorders : y.Reorders renumber y') :
    ∃ rows, List.Forall₂ (SameRow renumber y y') (documentValues y) rows ∧
      rows.Perm (documentValues y') := by
  obtain ⟨number, fields, others, moved, root, root', here, there, same, order⟩ := reorders.mapping
  rw [documentValues_of_fields (fields?_of_cell root here),
    documentValues_of_fields (fields?_of_cell root' there)]
  exact ⟨_, forall₂_fieldValues same, (order.map _).filterMap _⟩

theorem exists_mem_of_forall₂ {α β : Type} {R : α → β → Prop} {items : List α} {others : List β}
    (same : List.Forall₂ R items others) {b : β} (member : b ∈ others) : ∃ a ∈ items, R a b := by
  induction same with
  | nil => cases member
  | cons related _ ih =>
    obtain _ | ⟨_, member⟩ := member
    · exact ⟨_, List.mem_cons_self, related⟩
    · obtain ⟨a, among, related⟩ := ih member
      exact ⟨a, List.mem_cons_of_mem _ among, related⟩

theorem accepted_of_reorders (reorders : y.Reorders renumber y') (accepted : Accepted y) :
    Accepted y' := by
  obtain ⟨number, fields, others, moved, root, root', here, there, same, order⟩ := reorders.mapping
  rw [accepted_of_fields (fields?_of_cell root here), List.forall_mem_map] at accepted
  rw [accepted_of_fields (fields?_of_cell root' there), List.forall_mem_map]
  intro f member
  obtain ⟨g, first, like⟩ := exists_mem_of_forall₂ same (order.mem_iff.mpr member)
  rw [settingOf?_eq_of_sameBy like.1]
  exact accepted g first

theorem rel_lookup_of_forall₂ {rows others : List (Setting × Yaml)}
    (same : List.Forall₂ (SameRow renumber y y') rows others) (s : Setting) :
    Option.Rel (SameIn renumber y y') (rows.lookup s) (others.lookup s) := by
  induction same with
  | nil => exact .none
  | @cons p q rows others like _ ih =>
    rw [List.lookup_cons, List.lookup_cons, like.1]
    cases s == p.1 with
    | true => exact .some like.2
    | false => exact ih

/-- In another order a file gives a setting the same value. -/
theorem rel_fileValue? {folder : FilePath} (reorders : y.Reorders renumber y')
    (reads : FileReads t folder path (some y')) (s : Setting) :
    Option.Rel (SameIn renumber y y') (fileValue? (some y) s) (fileValue? (some y') s) := by
  obtain ⟨rows, same, order⟩ := exists_documentValues reorders
  have apart : ((documentValues y').map Prod.fst).Nodup := nodup_fileValues reads
  have moved : rows.lookup s = fileValue? (some y') s := lookup_of_perm apart order.symm
  rw [← moved]
  exact rel_lookup_of_forall₂ same s

/-! ## Loading in another order -/

/-- What values of a file are set, are set in another order too. -/
theorem exists_sets_of_reorders {d : Config} (reorders : y.Reorders renumber y')
    {later : List (Setting × Yaml)} (sets : Sets d (fileValues (some y) ++ later) c) :
    ∃ c', Sets d (fileValues (some y') ++ later) c' := by
  obtain ⟨rows, same, order⟩ := exists_documentValues reorders
  have taken := exists_sets_iff.mp ⟨c, sets⟩
  refine exists_sets_iff.mpr fun q member => ?_
  obtain file | rest := List.mem_append.mp member
  · obtain ⟨p, first, setting, like⟩ := exists_mem_of_forall₂ same (order.mem_iff.mpr file)
    obtain ⟨h, converted, admits⟩ := taken p (List.mem_append_left _ first)
    obtain ⟨h', converted', admits', -⟩ := exists_converted reorders like converted
    rw [setting]
    exact ⟨h', converted', admits' admits⟩
  · exact taken q (List.mem_append_right _ rest)

/-- A setting holds the same in another order, unless its text is that of what holds the mapping. -/
theorem held_eq_of_reorders {d c' : Config} {folder : FilePath} (reorders : y.Reorders renumber y')
    (reads : FileReads t folder path (some y'))
    (given : d.HoldsGiven c s (value? env (some y) s))
    (given' : d.HoldsGiven c' s (value? env (some y') s))
    (apart : s = .apiBase → ∀ value, fileValue? (some y) s = some value →
      ¬y.HoldsWhole value.root) : c'.held s = c.held s := by
  rw [value?] at given given'
  cases told : environmentValue? env s with
  | some value =>
    rw [told] at given given'
    exact given'.unique given
  | none =>
    rw [told, Option.none_or] at given given'
    have like := rel_fileValue? reorders reads s
    cases found : fileValue? (some y) s with
    | none =>
      rw [found] at like given
      generalize fileValue? (some y') s = other at like given'
      cases like
      exact given'.unique given
    | some value =>
      rw [found] at like given
      generalize fileValue? (some y') s = other at like given'
      obtain ⟨same⟩ := like
      obtain ⟨h', converted, -, only⟩ := exists_converted reorders same given
      rw [← only fun base => apart base value found]
      exact Option.some.inj (given'.symm.trans converted)

end LeakScan.Config
