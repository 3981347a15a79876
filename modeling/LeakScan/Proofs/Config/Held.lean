import LeakScan.Config.Load
import LeakScan.Proofs.Number.Order

/-!
# What a configuration holds

A configuration holds a whole number, a real number or a text for each of its settings. To set a
value is to convert it, to see that the setting admits what comes of it, and to put this in the
place of the setting, where nothing else changes (`set_eq_ok_iff`). Several values are set one after
another (`Sets`), those of a file (`setAll_eq_ok_iff`) as those of the environment
(`setVariables_eq_ok_iff`), and what is given last counts (`Sets.holdsGiven`).
-/

namespace LeakScan
set_option autoImplicit false

namespace Setting

/-- What a configuration holds for a setting. -/
def Held : Setting → Type
  | maxRepoFiles | webPort => Int
  | requestTimeout | sessionTtl => Double
  | apiBase => String

/-- The whole numbers that a setting admits: none below zero, and zero itself only where it need not
be greater. -/
def AdmitsWhole (s : Setting) (i : Int) : Prop := 0 ≤ i ∧ (s.isPositive = true → i ≠ 0)

/-- The real numbers that a setting admits, in the same way; what is undefined is neither below zero
nor zero. -/
def AdmitsReal (s : Setting) (d : Double) : Prop :=
  d.isNegative = false ∧ (s.isPositive = true → d.isZero = false)

/-- What a setting admits. -/
def Admits : (s : Setting) → s.Held → Prop
  | maxRepoFiles, i => AdmitsWhole maxRepoFiles i
  | requestTimeout, d => AdmitsReal requestTimeout d
  | sessionTtl, d => AdmitsReal sessionTtl d
  | apiBase, _ => True
  | webPort, i => AdmitsWhole webPort i

end Setting

namespace Config

/-- What a configuration holds for a setting. -/
def held (c : Config) : (s : Setting) → s.Held
  | .maxRepoFiles => c.maxRepoFiles
  | .requestTimeout => c.requestTimeout
  | .sessionTtl => c.sessionTtl
  | .apiBase => c.apiBase
  | .webPort => c.webPort

/-- A configuration that holds something else for a setting. -/
def put (c : Config) : (s : Setting) → s.Held → Config
  | .maxRepoFiles, (i : Int) => { c with maxRepoFiles := i }
  | .requestTimeout, (d : Double) => { c with requestTimeout := d }
  | .sessionTtl, (d : Double) => { c with sessionTtl := d }
  | .apiBase, (base : String) => { c with apiBase := base }
  | .webPort, (i : Int) => { c with webPort := i }

/-- What a value is converted to for a setting, if it can be. -/
def converted? (value : Yaml) : (s : Setting) → Option s.Held
  | .maxRepoFiles | .webPort => (intOf value.root).toOption
  | .requestTimeout | .sessionTtl => (realOf value.root).toOption
  | .apiBase => value.plain.toOption

/-- Two configurations agree on what no setting is for. -/
structure SameFixed (c c' : Config) : Prop where
  folder : c'.folder = c.folder
  webHost : c'.webHost = c.webHost
  verbose : c'.verbose = c.verbose

variable {c c' : Config} {s o : Setting} {value : Yaml} {source : String}

@[simp] theorem held_put_self (c : Config) (s : Setting) (h : s.Held) : (c.put s h).held s = h := by
  cases s <;> rfl

theorem held_put_of_ne (other : o ≠ s) (h : s.Held) : (c.put s h).held o = c.held o := by
  cases s <;> cases o <;> first | rfl | exact absurd rfl other

theorem sameFixed_put (c : Config) (s : Setting) (h : s.Held) : SameFixed c (c.put s h) := by
  cases s <;> exact ⟨rfl, rfl, rfl⟩

theorem SameFixed.trans {d : Config} (first : SameFixed c c') (next : SameFixed c' d) :
    SameFixed c d :=
  ⟨next.folder.trans first.folder, next.webHost.trans first.webHost,
    next.verbose.trans first.verbose⟩

theorem SameFixed.of_left {d : Config} (first : SameFixed d c) (other : SameFixed d c') :
    SameFixed c c' :=
  ⟨other.folder.trans first.folder.symm, other.webHost.trans first.webHost.symm,
    other.verbose.trans first.verbose.symm⟩

/-- A configuration is what it holds for its settings, and what no setting is for. -/
theorem eq_of_held (same : ∀ s, c'.held s = c.held s) (fixed : SameFixed c c') : c' = c := by
  obtain ⟨folder, maxRepoFiles, requestTimeout, sessionTtl, apiBase, webHost, webPort, verbose⟩ := c
  obtain ⟨sameFolder, sameHost, sameVerbose⟩ := fixed
  cases c'
  cases sameFolder
  cases sameHost
  cases sameVerbose
  cases same .maxRepoFiles
  cases same .requestTimeout
  cases same .sessionTtl
  cases same .apiBase
  cases same .webPort
  rfl

/-- What is standard is admitted. -/
theorem admits_standard (folder : FilePath) (s : Setting) :
    s.Admits ((standard folder).held s) := by
  have whole {i : Int} (above : 0 < i) : s.AdmitsWhole i := ⟨above.le, fun _ => above.ne'⟩
  have real (n : Nat) (signed : (Double.ofInt n).isNegative = false)
      (above : (Double.ofInt n).isZero = false) : s.AdmitsReal (.ofInt n) :=
    ⟨signed, fun _ => above⟩
  cases s with
  | maxRepoFiles => exact @whole Client.defaultCap (by decide)
  | webPort => exact @whole 8471 (by decide)
  | requestTimeout => exact real 10 (by decide) (by decide)
  | sessionTtl => exact real 3600 (by decide) (by decide)
  | apiBase => trivial

/-! ## Setting one value -/

theorem problemOf_eq_none_iff {isNegative isZero : Bool} :
    problemOf s isNegative isZero = none ↔
      isNegative = false ∧ (s.isPositive = true → isZero = false) := by
  rw [problemOf]
  cases isNegative <;> cases isZero <;> cases s.isPositive <;> simp

theorem checkedInt_eq_ok_iff {i j : Int} :
    checkedInt s i = .ok j ↔ i = j ∧ s.AdmitsWhole i := by
  have passes : problemOf s (decide (i < 0)) (decide (i = 0)) = none ↔ s.AdmitsWhole i := by
    rw [problemOf_eq_none_iff, decide_eq_false_iff_not, decide_eq_false_iff_not, not_lt]
    rfl
  rw [checkedInt, ← passes]
  cases problemOf s (decide (i < 0)) (decide (i = 0)) <;> simp

theorem checkedReal_eq_ok_iff {d e : Double} :
    checkedReal s d = .ok e ↔ d = e ∧ s.AdmitsReal d := by
  rw [checkedReal, Setting.AdmitsReal, ← problemOf_eq_none_iff]
  cases problemOf s d.isNegative d.isZero <;> simp

/-- A value is converted and then checked. -/
theorem convert_eq_ok_iff {α : Type} {conversion : Yaml.Value → Except Refusal α}
    {check : Setting → α → Except Problem α} {admits : α → Prop}
    (checks : ∀ a b, check s a = .ok b ↔ a = b ∧ admits a) {a : α} :
    convert s value source conversion check = .ok a ↔
      (conversion value.root).toOption = some a ∧ admits a := by
  rw [convert]
  cases conversion value.root with
  | error r => simp [Except.toOption]
  | ok b =>
    have passes : check s b = .ok a ↔ b = a ∧ admits a :=
      (checks b a).trans (and_congr_right fun same => by rw [same])
    rw [Except.toOption, Option.some.injEq, ← passes]
    dsimp only
    cases check s b <;> simp

/-- What a configuration becomes if a conversion succeeds. -/
theorem putting_eq_ok_iff {α : Type} {x : Except Fault α} {f : α → Config} :
    (do return f (← x)) = Except.ok (ε := Fault) c' ↔ ∃ a, x = .ok a ∧ c' = f a := by
  cases x with
  | error e => exact ⟨nofun, nofun⟩
  | ok a =>
    show Except.ok (f a) = Except.ok c' ↔ _
    simp [eq_comm]

/-- To set a value is to put what it is converted to, if the setting admits that. -/
theorem set_eq_ok_iff : c.set s value source = .ok c' ↔
    ∃ h, converted? value s = some h ∧ s.Admits h ∧ c' = c.put s h := by
  cases s with
  | maxRepoFiles | webPort =>
    rw [set, putting_eq_ok_iff]
    simp only [convert_eq_ok_iff fun _ _ => checkedInt_eq_ok_iff, and_assoc]
    rfl
  | requestTimeout | sessionTtl =>
    rw [set, putting_eq_ok_iff]
    simp only [convert_eq_ok_iff fun _ _ => checkedReal_eq_ok_iff, and_assoc]
    rfl
  | apiBase =>
    show _ ↔ ∃ base : String, value.plain.toOption = some base ∧ True ∧
      c' = { c with apiBase := base }
    rw [set]
    cases value.plain with
    | error e => simp [Except.toOption]
    | ok base => simp [Except.toOption, eq_comm]

/-! ## Setting several values -/

/-- Values are set one after another: each is converted to what its setting admits. -/
inductive Sets : Config → List (Setting × Yaml) → Config → Prop where
  | nil (c : Config) : Sets c [] c
  | cons {c c' : Config} {s : Setting} {value : Yaml} {values : List (Setting × Yaml)} {h : s.Held}
    (converted : converted? value s = some h) (admits : s.Admits h)
    (rest : Sets (c.put s h) values c') : Sets c ((s, value) :: values) c'

/-- A setting holds what a value is converted to, or what it held before where none is given. -/
def HoldsGiven (before after : Config) (s : Setting) : Option Yaml → Prop
  | some value => converted? value s = some (after.held s)
  | none => after.held s = before.held s

theorem HoldsGiven.unique {d : Config} {given : Option Yaml} (here : d.HoldsGiven c s given)
    (there : d.HoldsGiven c' s given) : c.held s = c'.held s := by
  cases given with
  | some value => exact Option.some.inj (here.symm.trans there)
  | none => exact here.trans there.symm

variable {values later : List (Setting × Yaml)}

theorem sets_nil_iff : Sets c [] c' ↔ c = c' := by
  constructor
  · intro sets
    cases sets
    rfl
  · rintro rfl
    exact .nil c

theorem sets_cons_iff : Sets c ((s, value) :: values) c' ↔
    ∃ h, converted? value s = some h ∧ s.Admits h ∧ Sets (c.put s h) values c' := by
  constructor
  · rintro (_ | ⟨converted, admits, rest⟩)
    exact ⟨_, converted, admits, rest⟩
  · rintro ⟨h, converted, admits, rest⟩
    exact .cons converted admits rest

/-- The first of some values is set, and then the others. -/
theorem sets_cons_iff_set : Sets c ((s, value) :: values) c' ↔
    ∃ d, c.set s value source = .ok d ∧ Sets d values c' := by
  simp only [sets_cons_iff, set_eq_ok_iff]
  grind

theorem setAll_eq_ok_iff : c.setAll source values = .ok c' ↔ Sets c values c' := by
  induction values generalizing c with
  | nil => rw [setAll, Except.ok.injEq, sets_nil_iff]
  | cons v values ih =>
    rw [setAll, @sets_cons_iff_set c c' v.1 v.2 source]
    cases c.set v.1 v.2 source with
    | error e => simp
    | ok d => simp [ih]

/-- What the environment gives, in the order of the variables. -/
def environmentValues (env : Environment) (given : List (String × Setting)) :
    List (Setting × Yaml) :=
  given.filterMap fun v => (given? env v.1).map fun text => (v.2, .ofString text)

theorem setVariables_eq_ok_iff {env : Environment} {given : List (String × Setting)} :
    setVariables env c given = .ok c' ↔ Sets c (environmentValues env given) c' := by
  induction given generalizing c with
  | nil =>
    rw [setVariables, Except.ok.injEq]
    exact sets_nil_iff.symm
  | cons v given ih =>
    obtain ⟨name, s⟩ := v
    rw [setVariables]
    cases found : given? env name with
    | none =>
      rw [environmentValues, List.filterMap_cons_none (by rw [found]; rfl)]
      exact ih
    | some text =>
      rw [environmentValues, List.filterMap_cons_some (by rw [found]; rfl),
        @sets_cons_iff_set c c' s (.ofString text) name]
      dsimp only
      cases c.set s (.ofString text) name with
      | error e => simp
      | ok d =>
        simp only [Except.ok.injEq, exists_eq_left']
        exact ih

namespace Sets

/-- What is given last counts. -/
theorem holdsGiven (sets : Sets c values c') (s : Setting) :
    c.HoldsGiven c' s (values.reverse.lookup s) := by
  induction sets with
  | nil => rfl
  | @cons c c' o value values h converted admits rest ih =>
    rw [List.reverse_cons, List.lookup_append]
    cases earlier : values.reverse.lookup s with
    | some v =>
      rw [earlier] at ih
      exact ih
    | none =>
      rw [earlier] at ih
      replace ih : c'.held s = (c.put o h).held s := ih
      by_cases same : s = o
      · subst same
        simp [HoldsGiven, ih, converted]
      · have other : [(o, value)].lookup s = none := by
          rw [List.lookup_cons, beq_false_of_ne same, List.lookup_nil]
        rw [other]
        exact ih.trans (held_put_of_ne same h)

theorem sameFixed (sets : Sets c values c') : SameFixed c c' := by
  induction sets with
  | nil => exact ⟨rfl, rfl, rfl⟩
  | cons _ _ _ ih => exact (sameFixed_put ..).trans ih

/-- What a setting holds it admits, if it did so at first. -/
theorem admits (sets : Sets c values c') (first : ∀ s : Setting, s.Admits (c.held s))
    (s : Setting) : s.Admits (c'.held s) := by
  induction sets with
  | nil => exact first s
  | @cons c c' o value values h converted admits rest ih =>
    refine ih fun o' => ?_
    by_cases same : o' = o
    · subst same
      rwa [held_put_self]
    · rw [held_put_of_ne same]
      exact first o'

end Sets

theorem sets_append_iff {d : Config} : Sets c (values ++ later) d ↔
    ∃ c', Sets c values c' ∧ Sets c' later d := by
  induction values generalizing c with
  | nil => simp [sets_nil_iff]
  | cons v values ih =>
    obtain ⟨s, value⟩ := v
    simp only [List.cons_append, sets_cons_iff, ih]
    grind

/-- A setting takes a value: the value is converted to what the setting admits. -/
theorem exists_sets_iff : (∃ c', Sets c values c') ↔
    ∀ v ∈ values, ∃ h, converted? v.2 v.1 = some h ∧ v.1.Admits h := by
  induction values generalizing c with
  | nil => exact ⟨fun _ => nofun, fun _ => ⟨c, .nil c⟩⟩
  | cons v values ih =>
    rw [List.forall_mem_cons]
    constructor
    · rintro ⟨c', _ | ⟨converted, admits, rest⟩⟩
      exact ⟨⟨_, converted, admits⟩, ih.mp ⟨c', rest⟩⟩
    · rintro ⟨⟨h, converted, admits⟩, others⟩
      obtain ⟨c', rest⟩ := (@ih (c.put v.1 h)).mpr others
      exact ⟨c', .cons converted admits rest⟩

end Config
end LeakScan
