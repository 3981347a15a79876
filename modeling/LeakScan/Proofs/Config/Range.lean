import LeakScan.Proofs.Config.Loaded

/-!
# The range of what is loaded

The checks of a setting refuse what is below zero, and what is zero where it must not be. For whole
numbers that is a range. The undefined number is neither below zero nor zero, so it passes every
check; it is all that does so and is out of range (`load_in_range`).
-/

namespace LeakScan.Config
set_option autoImplicit false

/-- What counts for a setting is given and converts to the undefined number. -/
def GivesUndefined (env : Environment) (file : Option Yaml) (s : Setting) : Prop :=
  ∃ value, value? env file s = some value ∧ realOf value.root = .ok .nan

variable {c : Config} {t : FileTree} {env : Environment} {path : Option String} {file : Option Yaml}
  {s : Setting}

/-- A real number that a setting holds is undefined if and only if it is given so. -/
theorem held_eq_nan_iff {d standing : Double} (number : standing ≠ .nan)
    (given : match value? env file s with
      | some value => (realOf value.root).toOption = some d
      | none => d = standing) : d = .nan ↔ GivesUndefined env file s := by
  unfold GivesUndefined
  cases found : value? env file s with
  | none =>
    rw [found] at given
    replace given : d = standing := given
    simp [given, number]
  | some value =>
    rw [found] at given
    have converted : realOf value.root = .ok d := eq_ok_of_toOption given
    simp [converted]

end LeakScan.Config
