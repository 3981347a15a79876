import Mathlib.Data.List.TakeWhile
import LeakScan.Command.Arguments

/-!
# What arguments spell

A grammar of arguments that does not follow them one by one: what a single argument may open
(`Opens`), and what some arguments spell (`Spells`). Switches and operands may stand in any order,
and a switch may be called by its name or its letter, with its value attached or after it. Exactly
what is spelled is read (`read_eq_ok_iff`).
-/

namespace LeakScan.Command
set_option autoImplicit false

/-- Letters after a single dash, and what they open: flags, and after them at most one switch with a
value, which is what follows if anything does. -/
inductive OpensLetters (p : Page) : List Char → Opening → Prop where
  | nil : OpensLetters p [] ⟨[], none⟩
  | last {c : Char} {s : Switch} (known : s ∈ p.switches) (letter : s.letter? = some c)
    (takes : s.takesValue = true) : OpensLetters p [c] ⟨[], some (s, Switch.shortName c)⟩
  | value {c : Char} {s : Switch} (known : s ∈ p.switches) (letter : s.letter? = some c)
    (takes : s.takesValue = true) {cs : List Char} (attached : cs ≠ []) :
    OpensLetters p (c :: cs) ⟨[⟨s, String.ofList cs⟩], none⟩
  | flag {c : Char} {s : Switch} (known : s ∈ p.switches) (letter : s.letter? = some c)
    (flag : s.takesValue = false) {cs : List Char} {o : Opening} (opens : OpensLetters p cs o) :
    OpensLetters p (c :: cs) { o with uses := ⟨s, ""⟩ :: o.uses }

/-- An argument that begins with a dash, and what it opens. -/
inductive Opens (p : Page) : List Char → Opening → Prop where
  | name {s : Switch} (known : s ∈ p.switches) (takes : s.takesValue = true) :
    Opens p s.longName.toList ⟨[], some (s, s.longName)⟩
  | value {s : Switch} (known : s ∈ p.switches) (takes : s.takesValue = true) (value : String) :
    Opens p (s.longName.toList ++ '=' :: value.toList) ⟨[⟨s, value⟩], none⟩
  | flag {s : Switch} (known : s ∈ p.switches) (flag : s.takesValue = false) :
    Opens p s.longName.toList ⟨[⟨s, ""⟩], none⟩
  | letters {c : Char} {cs : List Char} {o : Opening} (single : c ≠ '-')
    (opens : OpensLetters p (c :: cs) o) : Opens p ('-' :: c :: cs) o

/-- Arguments and what they spell. After two dashes there are only operands, and on the page of the
program after the first operand. -/
inductive Spells (p : Page) : List String → Arguments → Prop where
  | nil : Spells p [] ⟨[], []⟩
  | dashes (operands : List String) : Spells p ("--" :: operands) ⟨[], operands⟩
  | opened {argument : String} {uses : List Use} {rest : List String} {a : Arguments}
    (opens : Opens p argument.toList ⟨uses, none⟩) (spells : Spells p rest a) :
    Spells p (argument :: rest) (a.after uses)
  | awaiting {argument : String} {uses : List Use} {s : Switch} {name : String}
    (opens : Opens p argument.toList ⟨uses, some (s, name)⟩) (value : String) {rest : List String}
    {a : Arguments} (spells : Spells p rest a) :
    Spells p (argument :: value :: rest) (a.after (uses ++ [⟨s, value⟩]))
  | operand {argument : String} (plain : namesSwitches argument = false) (command : p ≠ .program)
    {rest : List String} {a : Arguments} (spells : Spells p rest a) :
    Spells p (argument :: rest) { a with operands := argument :: a.operands }
  | command {argument : String} (plain : namesSwitches argument = false) (program : p = .program)
    (rest : List String) : Spells p (argument :: rest) ⟨[], argument :: rest⟩

variable {p : Page} {s : Switch} {o : Opening} {cs : List Char}

/-! ## Switches -/

theorem letter_inj : ∀ s s' : Switch, s.letter? = s'.letter? → s.letter? ≠ none → s = s' := by
  intro s s'
  cases s <;> cases s' <;> decide

theorem longName_inj : ∀ s s' : Switch, s.longName = s'.longName → s = s' := by
  intro s s'
  cases s <;> cases s' <;> decide

theorem toList_longName (s : Switch) : ∃ cs, s.longName.toList = '-' :: '-' :: cs ∧ cs ≠ [] := by
  cases s <;> exact ⟨_, rfl, by decide⟩

theorem sign_notMem_longName (s : Switch) : '=' ∉ s.longName.toList := by
  cases s <;> decide

theorem ofLetter?_eq_some_iff {c : Char} :
    p.ofLetter? c = some s ↔ s ∈ p.switches ∧ s.letter? = some c := by
  constructor
  · intro found
    exact ⟨List.mem_of_find?_eq_some found, by simpa using List.find?_some found⟩
  · rintro ⟨known, letter⟩
    cases found : p.ofLetter? c with
    | none =>
      have other := List.find?_eq_none.mp found s known
      simp [letter] at other
    | some s' =>
      have letter' : s'.letter? = some c := by simpa using List.find?_some found
      exact congrArg some (letter_inj s' s (letter'.trans letter.symm) (by simp [letter']))

theorem ofLongName?_eq_some_iff {name : String} :
    p.ofLongName? name = some s ↔ s ∈ p.switches ∧ s.longName = name := by
  constructor
  · intro found
    exact ⟨List.mem_of_find?_eq_some found, by simpa using List.find?_some found⟩
  · rintro ⟨known, rfl⟩
    cases found : p.ofLongName? s.longName with
    | none =>
      have other := List.find?_eq_none.mp found s known
      simp at other
    | some s' =>
      have named : s'.longName = s.longName := by simpa using List.find?_some found
      exact congrArg some (longName_inj s' s named)

/-! ## Single arguments -/

theorem ofLetters_eq_ok_iff : Opening.ofLetters p cs = .ok o ↔ OpensLetters p cs o := by
  constructor
  · intro read
    induction cs generalizing o with
    | nil =>
      cases read
      exact .nil
    | cons c cs ih =>
      rw [Opening.ofLetters] at read
      split at read
      · cases read
      · rename_i s found
        obtain ⟨known, letter⟩ := ofLetter?_eq_some_iff.mp found
        split at read
        · rename_i takes
          cases read
          cases cs with
          | nil => exact .last known letter takes
          | cons d ds => exact .value known letter takes (List.cons_ne_nil d ds)
        · rename_i flag
          split at read <;> cases read
          exact .flag known letter (by simpa using flag) (ih ‹_›)
  · intro opens
    induction opens with
    | nil => rfl
    | last known letter takes =>
      rw [Opening.ofLetters, ofLetter?_eq_some_iff.mpr ⟨known, letter⟩]
      simp [takes]
    | value known letter takes attached =>
      rw [Opening.ofLetters, ofLetter?_eq_some_iff.mpr ⟨known, letter⟩]
      simp [takes, attached]
    | flag known letter flag opens ih =>
      rw [Opening.ofLetters, ofLetter?_eq_some_iff.mpr ⟨known, letter⟩]
      simp [flag, ih]

/-- A name without an equals sign ends before the first one. -/
theorem takeWhile_name {name : List Char} (plain : '=' ∉ name) (cs : List Char) :
    (name ++ '=' :: cs).takeWhile (· != '=') = name ∧
      attached? (name ++ '=' :: cs) = some (String.ofList cs) := by
  have inside : ∀ c ∈ name, (c != '=') = true :=
    fun c member => bne_iff_ne.mpr fun same => plain (same ▸ member)
  rw [attached?, List.takeWhile_append_of_pos inside, List.dropWhile_append_of_pos inside]
  simp

theorem takeWhile_whole {name : List Char} (plain : '=' ∉ name) :
    name.takeWhile (· != '=') = name ∧ attached? name = none := by
  have inside : ∀ c ∈ name, (c != '=') = true :=
    fun c member => bne_iff_ne.mpr fun same => plain (same ▸ member)
  rw [attached?, List.takeWhile_eq_self_iff.mpr inside, List.dropWhile_eq_nil_iff.mpr inside]
  exact ⟨rfl, rfl⟩

/-- A text is a name alone, or a name with what is attached to it. -/
theorem eq_name_or_eq_attached (cs : List Char) :
    attached? cs = none ∧ cs = cs.takeWhile (· != '=') ∨ ∃ value,
      attached? cs = some value ∧ cs = cs.takeWhile (· != '=') ++ '=' :: value.toList := by
  have whole : cs.takeWhile (· != '=') ++ cs.dropWhile (· != '=') = cs :=
    List.takeWhile_append_dropWhile
  cases rest : cs.dropWhile (· != '=') with
  | nil =>
    rw [rest, List.append_nil] at whole
    exact .inl ⟨by rw [attached?, rest], whole.symm⟩
  | cons c value =>
    have sign : c = '=' := by
      have first := List.head?_dropWhile_not (· != '=') cs
      simpa [rest] using first
    subst sign
    rw [rest] at whole
    exact .inr ⟨String.ofList value, by rw [attached?, rest], by rw [String.toList_ofList, whole]⟩

/-- A name of switches is no letters. -/
theorem ofLongName?_of_letters {c : Char} (single : c ≠ '-') (cs : List Char) :
    p.ofLongName? (String.ofList (('-' :: c :: cs).takeWhile (· != '='))) = none := by
  cases found : p.ofLongName? (String.ofList (('-' :: c :: cs).takeWhile (· != '='))) with
  | none => rfl
  | some s =>
    obtain ⟨-, named⟩ := ofLongName?_eq_some_iff.mp found
    obtain ⟨ds, dashes, -⟩ := toList_longName s
    rw [named, String.toList_ofList] at dashes
    rw [List.takeWhile_cons_of_pos (by decide)] at dashes
    have second := (List.cons.inj dashes).2
    by_cases sign : c = '='
    · subst sign
      cases second
    · rw [List.takeWhile_cons_of_pos (by simpa using sign)] at second
      exact absurd (List.cons.inj second).1 single

theorem opens_of_ofArgument {c : Char} (read : Opening.ofArgument p ('-' :: c :: cs) = .ok o) :
    Opens p ('-' :: c :: cs) o := by
  generalize whole : '-' :: c :: cs = argument at read ⊢
  simp only [Opening.ofArgument] at read
  cases found : p.ofLongName? (String.ofList (argument.takeWhile (· != '='))) with
  | some s =>
    obtain ⟨known, named⟩ := ofLongName?_eq_some_iff.mp found
    have name : argument.takeWhile (· != '=') = s.longName.toList := by
      rw [named, String.toList_ofList]
    rw [found] at read
    obtain ⟨attached, same⟩ | ⟨value, attached, same⟩ := eq_name_or_eq_attached argument
    · rw [attached] at read
      rw [same, name]
      cases takes : s.takesValue with
      | true =>
        simp only [takes, ← named] at read
        cases read
        exact .name known takes
      | false =>
        simp only [takes] at read
        cases read
        exact .flag known takes
    · rw [attached] at read
      rw [same, name]
      cases takes : s.takesValue with
      | true =>
        simp only [takes] at read
        cases read
        exact .value known takes value
      | false =>
        simp only [takes] at read
        cases read
  | none =>
    rw [found] at read
    simp only at read
    split at read
    · cases read
    · rename_i single
      subst whole
      refine .letters (fun dash => single ?_) (ofLetters_eq_ok_iff.mp read)
      subst dash
      rfl

theorem ofArgument_of_opens (opens : Opens p cs o) : Opening.ofArgument p cs = .ok o := by
  cases opens with
  | @name s known takes =>
    obtain ⟨name, attached⟩ := takeWhile_whole (sign_notMem_longName s)
    simp only [Opening.ofArgument, name, String.ofList_toList, attached,
      ofLongName?_eq_some_iff.mpr ⟨known, rfl⟩, takes]
  | @value s known takes value =>
    obtain ⟨name, attached⟩ := takeWhile_name (sign_notMem_longName s) value.toList
    simp only [Opening.ofArgument, name, String.ofList_toList, attached,
      ofLongName?_eq_some_iff.mpr ⟨known, rfl⟩, takes]
  | @flag s known flag =>
    obtain ⟨name, attached⟩ := takeWhile_whole (sign_notMem_longName s)
    simp only [Opening.ofArgument, name, String.ofList_toList, attached,
      ofLongName?_eq_some_iff.mpr ⟨known, rfl⟩, flag]
  | @letters c ds _ single opens =>
    have other : "--".toList.isPrefixOf ('-' :: c :: ds) = false := by
      simpa [List.isPrefixOf] using fun dash => single dash.symm
    simp only [Opening.ofArgument, ofLongName?_of_letters single, other]
    exact ofLetters_eq_ok_iff.mpr opens

/-! ## Arguments -/

theorem exists_of_namesSwitches {argument : String} (names : namesSwitches argument = true) :
    ∃ c cs, argument.toList = '-' :: c :: cs := by
  rw [namesSwitches] at names
  split at names
  · exact ⟨_, _, ‹_›⟩
  · cases names

theorem Opens.namesSwitches {argument : String} (opens : Opens p argument.toList o) :
    namesSwitches argument = true ∧ argument ≠ "--" := by
  generalize same : argument.toList = cs at opens
  have begins : ∃ c ds, cs = '-' :: c :: ds ∧ (c = '-' → ds ≠ []) := by
    cases opens with
    | @name s | @flag s =>
      obtain ⟨ds, dashes, more⟩ := toList_longName s
      exact ⟨'-', ds, dashes, fun _ => more⟩
    | @value s _ _ value =>
      obtain ⟨ds, dashes, more⟩ := toList_longName s
      exact ⟨'-', ds ++ '=' :: value.toList, by rw [dashes]; rfl, by simp⟩
    | @letters c ds _ single => exact ⟨c, ds, rfl, fun dash => absurd dash single⟩
  obtain ⟨c, ds, rfl, more⟩ := begins
  refine ⟨by rw [Command.namesSwitches, same]; rfl, ?_⟩
  rintro rfl
  cases same
  exact more rfl rfl

theorem exists_of_map_eq_ok {f : Arguments → Arguments} {x : Except UsageFault Arguments}
    {a : Arguments} (mapped : x.map f = .ok a) : ∃ b, x = .ok b ∧ f b = a := by
  cases x with
  | error e => cases mapped
  | ok b => exact ⟨b, rfl, Except.ok.inj mapped⟩

/-- **Exactly what is spelled is read**: on every page, arguments say what they spell and nothing
else. -/
theorem read_eq_ok_iff {arguments : List String} {a : Arguments} :
    Arguments.read p arguments = .ok a ↔ Spells p arguments a := by
  constructor
  · intro read
    fun_induction Arguments.read p arguments generalizing a
    case case1 =>
      cases read
      exact .nil
    case case2 operands =>
      cases read
      exact .dashes operands
    case case3 => cases read
    case case4 argument rest _ names uses opens ih =>
      obtain ⟨b, inner, rfl⟩ := exists_of_map_eq_ok read
      obtain ⟨c, cs, dash⟩ := exists_of_namesSwitches names
      exact .opened (dash ▸ opens_of_ofArgument (dash ▸ opens)) (ih inner)
    case case5 => cases read
    case case6 argument _ names uses s name opens value rest ih =>
      obtain ⟨b, inner, rfl⟩ := exists_of_map_eq_ok read
      obtain ⟨c, cs, dash⟩ := exists_of_namesSwitches names
      exact .awaiting (dash ▸ opens_of_ofArgument (dash ▸ opens)) value (ih inner)
    case case7 argument rest _ plain program =>
      cases read
      exact .command (by simpa using plain) program rest
    case case8 argument rest _ plain command ih =>
      obtain ⟨b, inner, rfl⟩ := exists_of_map_eq_ok read
      exact .operand (by simpa using plain) command (ih inner)
  · intro spells
    induction spells with
    | nil => rfl
    | dashes operands => rw [Arguments.read, if_pos rfl]
    | opened opens spells ih =>
      obtain ⟨names, other⟩ := opens.namesSwitches
      rw [Arguments.read, if_neg other, if_pos names, ofArgument_of_opens opens]
      simp only [ih]
      rfl
    | awaiting opens value spells ih =>
      obtain ⟨names, other⟩ := opens.namesSwitches
      rw [Arguments.read, if_neg other, if_pos names, ofArgument_of_opens opens]
      simp only [ih]
      rfl
    | operand plain command spells ih =>
      rw [Arguments.read, if_neg (by rintro rfl; cases plain), if_neg (by simp [plain]),
        if_neg command, ih]
      rfl
    | command plain program rest =>
      rw [Arguments.read, if_neg (by rintro rfl; cases plain), if_neg (by simp [plain]),
        if_pos program]

end LeakScan.Command
