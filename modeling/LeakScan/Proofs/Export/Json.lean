import LeakScan.Export.Basic
import LeakScan.Proofs.Json.Written

/-!
# Reading exports back

An export as JSON is a list of objects of six fields, and a readable one unless the number of a line
has too many digits (`Result.readable_toJson`). So its text is read as that list, and each object in
it as the result it was written for: nothing is lost of any text, severity or line, and the order is
kept.
-/

namespace LeakScan
set_option autoImplicit false

namespace Result

/-- The line of a result, if it has one, is no number of more than `Numeral.maxDigits` digits. -/
def HasShortLine (r : Result) : Prop :=
  ∀ i ∈ r.line, i.natAbs < 10 ^ Numeral.maxDigits

theorem readable_toJson {r : Result} (short : r.HasShortLine) (room : Nat) :
    Json.Readable (room + 1) r.toJson := by
  have line : Json.Readable room ((r.line.map Json.int).getD .null) := by
    unfold HasShortLine at short
    cases written : r.line with
    | none => exact .null
    | some i => exact .int (short i written)
  apply Json.Readable.obj
  · simp only [List.map_cons, List.map_nil]
    decide
  · simp only [List.forall_mem_cons]
    exact ⟨⟨_, rfl⟩, ⟨_, rfl⟩, ⟨_, rfl⟩, ⟨_, rfl⟩, ⟨_, rfl⟩, ⟨_, rfl⟩, nofun⟩
  · simp only [List.forall_mem_cons]
    exact ⟨.str _, .str _, .str _, .str _, .str _, line, nofun⟩

theorem severityOf_name (s : Severity) : severityOf (.str s.name) = .ok s := by
  simp only [severityOf, Text.Loose.whole?, Option.bind_some, Severity.ofName?_name]

theorem lineOf_written (line : Option Int) :
    lineOf ((line.map Json.int).getD .null) = .ok line := by
  cases line <;> rfl

/-- The object of a result is read as the result. -/
theorem ofJson_toJson (r : Result) : ofJson r.toJson = .ok r := by
  have severity := severityOf_name r.severity
  have line := lineOf_written r.line
  simp only [ofJson, toJson, field, Json.lookup, Text.Loose.whole.injEq, String.reduceEq, if_true,
    if_false, Option.getD_some, severity, line, bind, Except.bind]
  rfl

end Result

namespace Export

theorem ofItems_map_toJson (results : List Result) :
    ofItems (results.map Result.toJson) = .ok results := by
  induction results with
  | nil => rfl
  | cons r results ih => simp only [List.map_cons, ofItems, Result.ofJson_toJson, ih]

/-- **An export as JSON is read back as the results that were exported**, field for field and in
their order. -/
theorem ofJsonText_json {results : List Result} (short : ∀ r ∈ results, r.HasShortLine) :
    ofJsonText (json results) = .ok results := by
  have readable : Json.Readable Json.maxNesting (.arr (results.map Result.toJson)) := by
    refine @Json.Readable.arr (Json.maxNesting - 1) _ ?_
    intro v member
    obtain ⟨r, exported, rfl⟩ := List.mem_map.mp member
    exact Result.readable_toJson (short r exported) (Json.maxNesting - 2)
  rw [ofJsonText, json, Json.ofText_indented readable]
  exact ofItems_map_toJson results

theorem ofJsonText_json_escapes :
    let results : List Result :=
      [⟨"s-0", "a\"b\\.py", "Sensitive\n\x07", "🔑é\u007f", .critical, some (-12)⟩,
        ⟨"s-1", "", "", "", .low, none⟩]
    (∀ r ∈ results, r.HasShortLine) ∧ ofJsonText (json results) = .ok results := by
  intro results
  have short : ∀ r ∈ results, r.HasShortLine := by
    have twelve : (-12 : Int).natAbs < 10 ^ Numeral.maxDigits :=
      Nat.lt_of_lt_of_le (by decide : 12 < 10 ^ 2) (Nat.pow_le_pow_right (by decide) (by decide))
    simp only [results, List.forall_mem_cons, Result.HasShortLine]
    exact ⟨by rintro _ ⟨⟩; exact twelve, nofun, nofun⟩
  exact ⟨short, ofJsonText_json short⟩

end Export
end LeakScan
