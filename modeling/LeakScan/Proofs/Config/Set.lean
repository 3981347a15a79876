import LeakScan.Config.Basic

/-!
# Values that go astray

A setting takes a value, or the value is reported as a problem, or it goes astray: an infinite
number for a whole one, an integer beyond the floating-point values, or a value that cannot be
written, because an integer in it is too wide or a cell in it too deep (`Strays`). There is no
fourth case (`set_error_iff`). A text never goes astray (`not_strays_ofString`).
-/

namespace LeakScan.Config
set_option autoImplicit false

/-- A fault that is reported as a problem of the configuration. -/
def Fault.IsReported (e : Fault) : Prop := ∃ problem source, e = .reported problem source

/-- A value goes astray for a setting, with a fault that is not reported. -/
inductive Strays (value : Yaml) : Setting → Fault → Prop where
  | infinite {s : Setting} (whole : s = .maxRepoFiles ∨ s = .webPort) {negative : Bool}
    (root : value.root = .real (.inf negative)) : Strays value s .infinite
  | tooLarge {s : Setting} (real : s = .requestTimeout ∨ s = .sessionTtl) {i : Int}
    (root : value.root = .int i) {negative : Bool} (beyond : Double.ofInt i = .inf negative) :
    Strays value s .tooLarge
  | tooWide {i : Int} (root : value.root = .int i) (wide : Numeral.ofInt? i = none) :
    Strays value .apiBase (.unshown .tooWide)
  | unshown {s : Setting} {number : Nat} (root : value.root = .cell number)
    {fault : Yaml.Unshown} (fails : value.shown = .error fault) :
    Strays value s (.unshown fault)

variable {c : Config} {s : Setting} {value : Yaml} {source : String} {e : Fault}

/-! ## Faults -/

theorem Fault.isReported_reported (problem : Problem) (source : String) :
    (reported problem source).IsReported :=
  ⟨problem, source, rfl⟩

/-- What fails with a fault that is not reported fails with that fault alone. -/
theorem fails_iff_of_unreported {α : Type} {fault : Fault}
    (unreported : ∀ problem source, fault ≠ .reported problem source) :
    ((Except.error fault : Except Fault α) = .error e ∧ ¬e.IsReported) ↔ fault = e := by
  constructor
  · rintro ⟨same, -⟩
    exact Except.error.inj same
  · rintro rfl
    refine ⟨rfl, ?_⟩
    rintro ⟨problem, source, same⟩
    exact unreported problem source same

/-- A problem that is reported is no other failure. -/
theorem not_fails_reported {α : Type} (problem : Problem) :
    ¬((Except.error (.reported problem source) : Except Fault α) = .error e ∧ ¬e.IsReported) := by
  rintro ⟨same, unreported⟩
  cases same
  exact unreported (Fault.isReported_reported problem source)

/-! ## Conversions -/

theorem intOfText_eq_error {text : String} {r : Refusal} (refused : intOfText text = .error r) :
    r = .invalid := by
  rw [intOfText] at refused
  split at refused <;> cases refused
  rfl

theorem realOfText_eq_error {text : String} {r : Refusal} (refused : realOfText text = .error r) :
    r = .invalid := by
  rw [realOfText] at refused
  split at refused <;> cases refused
  rfl

/-- Only an infinite number is refused as such; an integer is never refused. -/
theorem intOf_eq_error {v : Yaml.Value} {r : Refusal} (refused : intOf v = .error r) :
    (r = .invalid ∧ ∀ i, v ≠ .int i) ∨ (r = .infinite ∧ ∃ negative, v = .real (.inf negative)) := by
  cases v with
  | bool | int => cases refused
  | real d =>
    cases d with
    | finite => cases refused
    | inf negative =>
      cases refused
      exact .inr ⟨rfl, negative, rfl⟩
    | nan =>
      cases refused
      exact .inl ⟨rfl, nofun⟩
  | text => exact .inl ⟨intOfText_eq_error refused, nofun⟩
  | bytes b =>
    refine .inl ⟨?_, nofun⟩
    simp only [intOf, textOf?] at refused
    split at refused
    · exact intOfText_eq_error refused
    · cases refused
      rfl
  | _ =>
    cases refused
    exact .inl ⟨rfl, nofun⟩

theorem realOfInt_eq_error {i : Int} {r : Refusal} (refused : realOfInt i = .error r) :
    r = .tooLarge ∧ ∃ negative, Double.ofInt i = .inf negative := by
  rw [realOfInt] at refused
  split at refused <;> cases refused
  exact ⟨rfl, _, ‹_›⟩

/-- Only an integer beyond the floating-point values is refused as such, and an integer is refused
for nothing else. -/
theorem realOf_eq_error {v : Yaml.Value} {r : Refusal} (refused : realOf v = .error r) :
    (r = .invalid ∧ ∀ i, v ≠ .int i) ∨
      (r = .tooLarge ∧ ∃ i negative, v = .int i ∧ Double.ofInt i = .inf negative) := by
  cases v with
  | real | nan => cases refused
  | bool b =>
    have finite : ∀ b negative, Double.ofInt (if b = true then 1 else 0) ≠ .inf negative := by
      decide +kernel
    obtain ⟨-, negative, beyond⟩ := realOfInt_eq_error refused
    exact absurd beyond (finite b negative)
  | int i =>
    obtain ⟨large, negative, beyond⟩ := realOfInt_eq_error refused
    exact .inr ⟨large, i, negative, rfl, beyond⟩
  | text => exact .inl ⟨realOfText_eq_error refused, nofun⟩
  | bytes b =>
    refine .inl ⟨?_, nofun⟩
    simp only [realOf, textOf?] at refused
    split at refused
    · exact realOfText_eq_error refused
    · cases refused
      rfl
  | _ =>
    cases refused
    exact .inl ⟨rfl, nofun⟩

/-! ## What is written of a value -/

theorem intShown_eq_error_iff {i : Int} {fault : Yaml.Unshown} :
    Yaml.intShown i = .error fault ↔ Numeral.ofInt? i = none ∧ fault = .tooWide := by
  unfold Yaml.intShown
  cases Numeral.ofInt? i <;> simp [eq_comm]

theorem shown_int {i : Int} (root : value.root = .int i) : value.shown = Yaml.intShown i := by
  rw [Yaml.shown, root]
  rfl

/-- Only an integer and a cell may fail to show. -/
theorem shown_eq_error {fault : Yaml.Unshown} (fails : value.shown = .error fault) :
    (∃ i, value.root = .int i ∧ Numeral.ofInt? i = none ∧ fault = .tooWide) ∨
      ∃ number, value.root = .cell number := by
  cases root : value.root with
  | int i =>
    rw [shown_int root, intShown_eq_error_iff] at fails
    exact .inl ⟨i, rfl, fails⟩
  | cell number => exact .inr ⟨number, rfl⟩
  | _ =>
    rw [Yaml.shown, root] at fails
    cases fails

theorem plain_eq_error_iff {fault : Yaml.Unshown} :
    value.plain = .error fault ↔ value.shown = .error fault := by
  obtain ⟨cells, root⟩ := value
  cases root with
  | text | date | moment => exact ⟨nofun, nofun⟩
  | _ => exact Iff.rfl

/-! ## Settings -/

theorem set_whole_error_iff (whole : s = .maxRepoFiles ∨ s = .webPort) :
    c.set s value source = .error e ↔ convert s value source intOf checkedInt = .error e := by
  rcases whole with rfl | rfl <;> rw [set] <;>
    cases convert _ value source intOf checkedInt <;> simp [bind, Except.bind, pure, Except.pure]

theorem set_real_error_iff (real : s = .requestTimeout ∨ s = .sessionTtl) :
    c.set s value source = .error e ↔ convert s value source realOf checkedReal = .error e := by
  rcases real with rfl | rfl <;> rw [set] <;>
    cases convert _ value source realOf checkedReal <;> simp [bind, Except.bind, pure, Except.pure]

theorem convert_of_refused {α : Type} {conversion : Yaml.Value → Except Refusal α}
    {check : Setting → α → Except Problem α} {r : Refusal}
    (refused : conversion value.root = .error r) :
    convert s value source conversion check = .error (refusalFault s value source r) := by
  rw [convert, refused]

/-- What is not reported of a conversion is the fault of a refusal. -/
theorem refused_of_convert {α : Type} {conversion : Yaml.Value → Except Refusal α}
    {check : Setting → α → Except Problem α}
    (failed : convert s value source conversion check = .error e) (unreported : ¬e.IsReported) :
    ∃ r, conversion value.root = .error r ∧ e = refusalFault s value source r := by
  rw [convert] at failed
  split at failed
  · cases failed
    exact ⟨_, ‹_›, rfl⟩
  · split at failed <;> cases failed
    exact absurd (Fault.isReported_reported _ source) unreported

theorem invalidFault_unreported (unreported : ¬(invalidFault s value source).IsReported) :
    ∃ fault, invalidFault s value source = .unshown fault ∧ value.shown = .error fault := by
  rw [invalidFault] at unreported ⊢
  cases written : value.shown with
  | ok shown =>
    rw [written] at unreported
    exact absurd (Fault.isReported_reported _ source) unreported
  | error fault => exact ⟨fault, rfl, rfl⟩

theorem Strays.unreported (strays : Strays value s e) : ¬e.IsReported := by
  rintro ⟨problem, source, rfl⟩
  cases strays

theorem Strays.set_error (strays : Strays value s e) : c.set s value source = .error e := by
  cases strays with
  | infinite whole root =>
    have refused : intOf value.root = .error .infinite := by rw [root]; rfl
    exact (set_whole_error_iff whole).mpr (convert_of_refused refused)
  | tooLarge real root beyond =>
    have refused : realOf value.root = .error .tooLarge := by
      rw [root, realOf, realOfInt, beyond]
    exact (set_real_error_iff real).mpr (convert_of_refused refused)
  | tooWide root wide =>
    have fails : value.plain = .error .tooWide := by
      rw [plain_eq_error_iff, shown_int root, intShown_eq_error_iff]
      exact ⟨wide, rfl⟩
    rw [set]
    simp only [fails]
  | @unshown _ _ root unshown fails =>
    have whole : intOf value.root = .error .invalid := by rw [root]; rfl
    have real : realOf value.root = .error .invalid := by rw [root]; rfl
    have fault : refusalFault s value source .invalid = .unshown unshown := by
      rw [refusalFault, invalidFault, fails]
    cases s with
    | maxRepoFiles => exact (set_whole_error_iff (.inl rfl)).mpr (fault ▸ convert_of_refused whole)
    | webPort => exact (set_whole_error_iff (.inr rfl)).mpr (fault ▸ convert_of_refused whole)
    | requestTimeout => exact (set_real_error_iff (.inl rfl)).mpr (fault ▸ convert_of_refused real)
    | sessionTtl => exact (set_real_error_iff (.inr rfl)).mpr (fault ▸ convert_of_refused real)
    | apiBase =>
      have plainly : value.plain = .error unshown := plain_eq_error_iff.mpr fails
      rw [set]
      simp only [plainly]

/-- What is no integer and refused as invalid goes astray if it cannot be written. -/
theorem strays_of_invalid (other : ∀ i, value.root ≠ .int i)
    (unreported : ¬(refusalFault s value source .invalid).IsReported) :
    Strays value s (refusalFault s value source .invalid) := by
  obtain ⟨fault, same, fails⟩ := invalidFault_unreported unreported
  obtain ⟨i, root, -⟩ | ⟨number, root⟩ := shown_eq_error fails
  · exact absurd root (other i)
  · rw [refusalFault, same]
    exact .unshown root fails

theorem strays_of_whole (whole : s = .maxRepoFiles ∨ s = .webPort)
    (failed : c.set s value source = .error e) (unreported : ¬e.IsReported) :
    Strays value s e := by
  obtain ⟨r, refused, rfl⟩ :=
    refused_of_convert ((set_whole_error_iff whole).mp failed) unreported
  obtain ⟨rfl, other⟩ | ⟨rfl, negative, root⟩ := intOf_eq_error refused
  · exact strays_of_invalid other unreported
  · exact .infinite whole root

theorem strays_of_real (real : s = .requestTimeout ∨ s = .sessionTtl)
    (failed : c.set s value source = .error e) (unreported : ¬e.IsReported) :
    Strays value s e := by
  obtain ⟨r, refused, rfl⟩ :=
    refused_of_convert ((set_real_error_iff real).mp failed) unreported
  obtain ⟨rfl, other⟩ | ⟨rfl, i, negative, root, beyond⟩ := realOf_eq_error refused
  · exact strays_of_invalid other unreported
  · exact .tooLarge real root beyond

/-- A value goes astray exactly where a fault comes of it that is not reported. -/
theorem set_error_iff :
    (c.set s value source = .error e ∧ ¬e.IsReported) ↔ Strays value s e := by
  refine ⟨fun ⟨failed, unreported⟩ => ?_, fun strays => ⟨strays.set_error, strays.unreported⟩⟩
  cases s with
  | maxRepoFiles => exact strays_of_whole (.inl rfl) failed unreported
  | webPort => exact strays_of_whole (.inr rfl) failed unreported
  | requestTimeout => exact strays_of_real (.inl rfl) failed unreported
  | sessionTtl => exact strays_of_real (.inr rfl) failed unreported
  | apiBase =>
    rw [set] at failed
    split at failed <;> cases failed
    have fails := plain_eq_error_iff.mp ‹value.plain = .error _›
    obtain ⟨i, root, wide, rfl⟩ | ⟨number, root⟩ := shown_eq_error fails
    · exact .tooWide root wide
    · exact .unshown root fails

theorem not_strays_ofString (text : String) : ¬Strays (.ofString text) s e := by
  rintro (_ | _ | _ | _) <;> contradiction

/-- A setting takes a value, whatever else is set and wherever the value comes from. -/
def Takes (s : Setting) (value : Yaml) : Prop :=
  ∀ c source, ∃ c', set c s value source = .ok c'

theorem convert_ok {α : Type} {conversion : Yaml.Value → Except Refusal α}
    {check : Setting → α → Except Problem α} {a : α}
    (converted : convert s value source conversion check = .ok a) (other : String) :
    convert s value other conversion check = .ok a := by
  rw [convert] at converted ⊢
  cases found : conversion value.root with
  | error r => simp only [found] at converted; cases converted
  | ok b =>
    simp only [found] at converted ⊢
    cases checked : check s b with
    | error p => simp only [checked] at converted; cases converted
    | ok b => simpa only [checked] using converted

theorem set_ok_of_convert {α : Type} {x y : Except Fault α} {f g : α → Config}
    (same : ∀ a, x = .ok a → y = .ok a) {c' : Config} (done : (do return f (← x)) = Except.ok c') :
    ∃ c', (do return g (← y)) = Except.ok (ε := Fault) c' := by
  cases x with
  | error e => cases done
  | ok a => exact ⟨g a, by rw [same a rfl]; rfl⟩

/-- What is set once can be set in any configuration. -/
theorem takes_of_set_ok {c' : Config} (done : c.set s value source = .ok c') : Takes s value := by
  intro other source'
  cases s with
  | apiBase =>
    rw [set] at done ⊢
    split at done
    · exact ⟨_, rfl⟩
    · cases done
  | _ => exact set_ok_of_convert (fun _ converted => convert_ok converted source') done
end LeakScan.Config
