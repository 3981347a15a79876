import LeakScan.Console.Sequence
import LeakScan.Export.Basic
import LeakScan.Proofs.Number.Numeral

/-!
# Exports without control sequences

In a JSON text the escape character is written as its number (`plain_escapedChar`), so a JSON export
is the same where control sequences are left out (`withoutSequences_json`). Comma-separated values
hold the characters of a name and of a match as they are.
-/

namespace LeakScan
set_option autoImplicit false

/-- Some characters with no escape character among them. -/
def Plain (cs : List Char) : Prop := '\x1b' ∉ cs

instance (cs : List Char) : Decidable (Plain cs) := inferInstanceAs (Decidable ('\x1b' ∉ cs))

namespace Plain

variable {c : Char} {cs ds : List Char}

theorem nil : Plain [] := List.not_mem_nil

@[simp] theorem append_iff : Plain (cs ++ ds) ↔ Plain cs ∧ Plain ds := by
  simp [Plain, not_or]

@[simp] theorem cons_iff : Plain (c :: cs) ↔ c ≠ '\x1b' ∧ Plain cs := by
  simp [Plain, eq_comm]

theorem ite {P : Prop} [Decidable P] (first : Plain cs) (second : Plain ds) :
    Plain (if P then cs else ds) := by
  split
  · exact first
  · exact second

theorem flatMap {α : Type} {xs : List α} {f : α → List Char} (all : ∀ x ∈ xs, Plain (f x)) :
    Plain (xs.flatMap f) := by
  intro member
  obtain ⟨x, among, inside⟩ := List.mem_flatMap.mp member
  exact all x among inside

end Plain

namespace Json

theorem plain_hexDigits (width n : Nat) : Plain (Text.hexDigits width n) := by
  have digit : ∀ d < 16, Text.hexDigit d ≠ '\x1b' := by decide
  induction width generalizing n with
  | zero => exact .nil
  | succ width ih =>
    rw [Text.hexDigits, Plain.append_iff, Plain.cons_iff]
    exact ⟨ih _, digit _ (Nat.mod_lt _ (by decide)), .nil⟩

theorem plain_escapedUnit (n : Nat) : Plain (escapedUnit n) := by
  rw [escapedUnit, Plain.cons_iff, Plain.cons_iff]
  exact ⟨by decide, by decide, plain_hexDigits 4 n⟩

/-- The escape character is written as its number. -/
theorem plain_escapedChar (c : Char) : Plain (escapedChar c) := by
  by_cases isEscape : c = '\x1b'
  · rw [isEscape]
    decide
  · unfold escapedChar
    refine .ite (by decide) (.ite (by decide) (.ite (by decide) (.ite (by decide)
      (.ite (by decide) (.ite (by decide) (.ite (by decide) (.ite ?_ (.ite ?_ ?_))))))))
    · exact Plain.cons_iff.mpr ⟨isEscape, .nil⟩
    · exact plain_escapedUnit _
    · exact Plain.append_iff.mpr ⟨plain_escapedUnit _, plain_escapedUnit _⟩

theorem plain_quotedText (s : Text.Loose) : Plain (quotedText s) := by
  cases s with
  | whole s =>
    simp only [quotedText, Plain.append_iff, Plain.cons_iff]
    exact ⟨⟨by decide, .flatMap fun c _ => plain_escapedChar c⟩, by decide, .nil⟩
  | torn ps =>
    simp only [quotedText, Plain.append_iff, Plain.cons_iff]
    refine ⟨⟨by decide, .flatMap fun p _ => ?_⟩, by decide, .nil⟩
    cases p with
    | char c => exact plain_escapedChar c
    | half n => exact plain_escapedUnit n

theorem plain_ofInt (i : Int) : Plain (Numeral.ofInt i).toList := by
  intro member
  obtain same | digit := Numeral.eq_minus_or_isDigit_of_mem_ofInt member
  · cases same
  · cases digit

theorem plain_newline (level : Nat) : Plain (newline level) := by
  rw [newline, Plain.cons_iff]
  refine ⟨by decide, fun member => ?_⟩
  cases List.eq_of_mem_replicate member

/-- Items that are written plainly at every level are so in a list. -/
theorem plain_indentedItems {level : Nat} {vs : List Json}
    (all : ∀ v ∈ vs, ∀ level, Plain (indentedAt level v)) : Plain (indentedItems level vs) := by
  induction vs with
  | nil => exact .nil
  | cons v vs ih =>
    obtain ⟨first, later⟩ := List.forall_mem_cons.mp all
    cases vs with
    | nil => exact Plain.append_iff.mpr ⟨plain_newline level, first level⟩
    | cons w vs =>
      simp only [indentedItems, Plain.append_iff, Plain.cons_iff]
      exact ⟨⟨plain_newline level, first level⟩, by decide, ih later⟩

theorem plain_indentedFields {level : Nat} {fields : Fields}
    (all : ∀ f ∈ fields, ∀ level, Plain (indentedAt level f.2)) :
    Plain (indentedFields level fields) := by
  induction fields with
  | nil => exact .nil
  | cons f fields ih =>
    obtain ⟨first, later⟩ := List.forall_mem_cons.mp all
    have here : Plain (newline level ++ quotedText f.1 ++ ':' :: ' ' :: indentedAt level f.2) := by
      simp only [Plain.append_iff, Plain.cons_iff]
      exact ⟨⟨plain_newline level, plain_quotedText f.1⟩, by decide, by decide, first level⟩
    cases fields with
    | nil => exact here
    | cons g fields =>
      rw [indentedFields, Plain.append_iff, Plain.cons_iff]
      exact ⟨here, by decide, ih later⟩

theorem plain_arr {vs : List Json} (all : ∀ v ∈ vs, ∀ level, Plain (indentedAt level v))
    (level : Nat) : Plain (indentedAt level (.arr vs)) := by
  cases vs with
  | nil => exact (by decide : Plain ['[', ']'])
  | cons v vs =>
    simp only [indentedAt, Plain.append_iff, Plain.cons_iff]
    exact ⟨⟨⟨by decide, plain_indentedItems all⟩, plain_newline level⟩, by decide, .nil⟩

theorem plain_obj {fields : Fields} (all : ∀ f ∈ fields, ∀ level, Plain (indentedAt level f.2))
    (level : Nat) : Plain (indentedAt level (.obj fields)) := by
  cases fields with
  | nil => exact (by decide : Plain ['\x7b', '\x7d'])
  | cons f fields =>
    simp only [indentedAt, Plain.append_iff, Plain.cons_iff]
    exact ⟨⟨⟨by decide, plain_indentedFields all⟩, plain_newline level⟩, by decide, .nil⟩

end Json

theorem Result.plain_toJson (r : Result) (level : Nat) :
    Plain (Json.indentedAt level r.toJson) := by
  refine Json.plain_obj ?_ level
  have text (s : Text.Loose) (level : Nat) : Plain (Json.indentedAt level (.str s)) :=
    Json.plain_quotedText s
  simp only [List.forall_mem_cons]
  refine ⟨text _, text _, text _, text _, text _, ?_, nofun⟩
  intro level
  cases r.line with
  | none => exact (by decide : Plain "null".toList)
  | some i => exact Json.plain_ofInt i

/-- Of a JSON export nothing is left out. -/
theorem Export.withoutSequences_json (results : List Result) :
    Console.withoutSequences (text results .json ++ "\n") = text results .json ++ "\n" := by
  refine Console.withoutSequences_of_notMem ?_
  have plain : Plain (Json.indentedAt 0 (.arr (results.map Result.toJson))) := by
    refine Json.plain_arr (fun v among => ?_) 0
    obtain ⟨r, -, rfl⟩ := List.mem_map.mp among
    exact r.plain_toJson
  rw [String.toList_append, text, json, Json.indented, String.toList_ofList]
  exact Plain.append_iff.mpr ⟨plain, by decide⟩

end LeakScan
