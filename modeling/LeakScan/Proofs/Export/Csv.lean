import LeakScan.Export.Csv
import LeakScan.Proofs.Number.Numeral
import LeakScan.Proofs.Session.Report

/-!
# Reading comma-separated values

A reader of comma-separated values knows nothing of results: fields are separated by commas and
records by newlines, a field may stand between quotes, and a quote inside such a field is written
twice (`Csv.read`). It reads an export back as the headers and five cells a result
(`Csv.read_csv`), whatever quotes, commas and line breaks the texts hold. The cells tell what the
result says (`Result.contents_eq_of_cells_eq`), so an export tells apart whatever differs in more
than identifiers.
-/

namespace LeakScan
set_option autoImplicit false

namespace Export.Csv

/-- Where a reader stands: at the start of a field, inside a bare one, between the quotes of one, or
behind a quote that ends the field unless another follows. -/
inductive Place where
  | start
  | bare
  | quoted
  | closed
deriving DecidableEq

/-- Reads on. `records` and `fields` are those finished, of the text and of the record at hand;
`field` is what was read of the field at hand. A quote that stands in a bare field, or a character
that follows a closed one, is a fault, and so is an end between quotes. -/
def readFrom (place : Place) (records : List (List String)) (fields : List String)
    (field : List Char) : List Char → Option (List (List String))
  | [] =>
    if place = .quoted then none else some (records ++ [fields ++ [String.ofList field]])
  | c :: cs =>
    if place = .quoted then
      if c = '"' then readFrom .closed records fields field cs
      else readFrom .quoted records fields (field ++ [c]) cs
    else if c = ',' then readFrom .start records (fields ++ [String.ofList field]) [] cs
    else if c = '\n' then
      readFrom .start (records ++ [fields ++ [String.ofList field]]) [] [] cs
    else if c = '"' then
      match place with
      | .start => readFrom .quoted records fields [] cs
      | .closed => readFrom .quoted records fields (field ++ ['"']) cs
      | _ => none
    else if place = .closed then none
    else readFrom .bare records fields (field ++ [c]) cs

/-- Reads a text as records of fields. -/
def read (s : String) : Option (List (List String)) := readFrom .start [] [] [] s.toList

/-- A text is read as a field: the reader then stands at its end, wherever it started. -/
def IsField (text : List Char) (s : String) : Prop :=
  ∀ (records : List (List String)) (fields : List String) (rest : List Char),
    ∃ place, place ≠ .quoted ∧
      readFrom .start records fields [] (text ++ rest) =
        readFrom place records fields s.toList rest

section

variable {place : Place} {records : List (List String)} {fields : List String}
  {field : List Char}

theorem readFrom_comma (outside : place ≠ .quoted) (cs : List Char) :
    readFrom place records fields field (',' :: cs) =
      readFrom .start records (fields ++ [String.ofList field]) [] cs := by
  simp [readFrom, outside]

theorem readFrom_newline (outside : place ≠ .quoted) (cs : List Char) :
    readFrom place records fields field ('\n' :: cs) =
      readFrom .start (records ++ [fields ++ [String.ofList field]]) [] [] cs := by
  simp [readFrom, outside]

/-- Between quotes, doubled quotes and all other characters are read up to the closing quote. -/
theorem readFrom_doubled (cs rest : List Char) :
    readFrom .quoted records fields field
        (cs.flatMap (fun c => if c = '"' then ['"', '"'] else [c]) ++ '"' :: rest) =
      readFrom .closed records fields (field ++ cs) rest := by
  induction cs generalizing field with
  | nil => simp [readFrom]
  | cons c cs ih =>
    rw [List.flatMap_cons]
    by_cases quote : c = '"'
    · subst quote
      simp [readFrom, ih]
    · simp [readFrom, quote, ih]

end

theorem isField_quotedField (s : String) : IsField (quotedField s).toList s := by
  intro records fields rest
  refine ⟨.closed, by decide, ?_⟩
  rw [quotedField, String.toList_ofList, List.append_assoc, List.cons_append, List.singleton_append]
  simp only [readFrom, reduceCtorEq, if_false, Char.reduceEq, if_true]
  rw [readFrom_doubled, List.nil_append]

/-- Characters that a bare field may hold. -/
def IsBare (s : String) : Prop := ∀ c ∈ s.toList, c ≠ ',' ∧ c ≠ '\n' ∧ c ≠ '"'

theorem isField_of_isBare {s : String} (isBare : IsBare s) : IsField s.toList s := by
  intro records fields rest
  unfold IsBare at isBare
  -- The start of the field and the middle of a bare one differ only for a quote.
  have bare (field cs : List Char) (plain : ∀ c ∈ cs, c ≠ ',' ∧ c ≠ '\n' ∧ c ≠ '"') :
      readFrom .bare records fields field (cs ++ rest) =
        readFrom .bare records fields (field ++ cs) rest := by
    induction cs generalizing field with
    | nil => simp
    | cons c cs ih =>
      obtain ⟨⟨noComma, noBreak, noQuote⟩, others⟩ := List.forall_mem_cons.mp plain
      simp [readFrom, noComma, noBreak, noQuote, ih _ others]
  cases text : s.toList with
  | nil => exact ⟨.start, by decide, rfl⟩
  | cons c cs =>
    rw [text] at isBare
    obtain ⟨⟨noComma, noBreak, noQuote⟩, others⟩ := List.forall_mem_cons.mp isBare
    refine ⟨.bare, by decide, ?_⟩
    rw [← List.singleton_append (l := cs), ← bare _ _ others]
    simp [readFrom, noComma, noBreak, noQuote]

/-- A written field, and what it is read as. -/
abbrev Field := String × String

/-- The written form of a record: its fields with commas between them. -/
def written (row : List Field) : String := ",".intercalate (row.map Prod.fst)

/-- The fields of a record are read one after another; the reader then stands at the end of the
last of them. -/
theorem readFrom_written {row : List Field} (areFields : ∀ f ∈ row, IsField f.1.toList f.2)
    (nonempty : row ≠ []) (records : List (List String)) (fields : List String)
    (rest : List Char) :
    ∃ place before last, place ≠ .quoted ∧
      before ++ [String.ofList last] = fields ++ row.map Prod.snd ∧
      readFrom .start records fields [] ((written row).toList ++ rest) =
        readFrom place records before last rest := by
  induction row generalizing fields with
  | nil => exact absurd rfl nonempty
  | cons f row ih =>
    obtain ⟨first, others⟩ := List.forall_mem_cons.mp areFields
    cases row with
    | nil =>
      obtain ⟨place, outside, step⟩ := first records fields rest
      refine ⟨place, fields, f.2.toList, outside, by rw [String.ofList_toList]; rfl, ?_⟩
      rw [written, List.map_singleton, String.intercalate_singleton, step]
    | cons f' row =>
      obtain ⟨place, outside, step⟩ := first records fields
        (',' :: ((written (f' :: row)).toList ++ rest))
      obtain ⟨place', before, last, outside', cells, steps⟩ :=
        ih others (List.cons_ne_nil _ _) (fields ++ [f.2])
      refine ⟨place', before, last, outside', by rw [cells, List.append_assoc]; rfl, ?_⟩
      calc
        readFrom .start records fields [] ((written (f :: f' :: row)).toList ++ rest)
          = readFrom .start records fields []
              (f.1.toList ++ ',' :: ((written (f' :: row)).toList ++ rest)) := by
            simp [written, String.intercalate_cons_cons]
        _ = readFrom .start records (fields ++ [f.2]) []
              ((written (f' :: row)).toList ++ rest) := by
            rw [step, readFrom_comma outside, String.ofList_toList]
        _ = readFrom place' records before last rest := steps

/-- Records with newlines between them are read one after another, to the end of the text. -/
theorem readFrom_rows {rows : List (List Field)}
    (areRows : ∀ row ∈ rows, row ≠ [] ∧ ∀ f ∈ row, IsField f.1.toList f.2)
    (nonempty : rows ≠ []) (records : List (List String)) :
    readFrom .start records [] [] ("\n".intercalate (rows.map written)).toList =
      some (records ++ rows.map (List.map Prod.snd)) := by
  induction rows generalizing records with
  | nil => exact absurd rfl nonempty
  | cons row rows ih =>
    obtain ⟨⟨present, areFields⟩, others⟩ := List.forall_mem_cons.mp areRows
    cases rows with
    | nil =>
      obtain ⟨place, before, last, outside, cells, step⟩ :=
        readFrom_written areFields present records [] []
      rw [List.append_nil] at step
      rw [List.map_singleton, String.intercalate_singleton, step, readFrom, if_neg outside, cells]
      rfl
    | cons row' rows =>
      obtain ⟨place, before, last, outside, cells, step⟩ :=
        readFrom_written areFields present records []
          ('\n' :: ("\n".intercalate ((row' :: rows).map written)).toList)
      calc
        readFrom .start records [] [] ("\n".intercalate ((row :: row' :: rows).map written)).toList
          = readFrom .start records [] [] ((written row).toList ++
              '\n' :: ("\n".intercalate ((row' :: rows).map written)).toList) := by
            simp [String.intercalate_cons_cons]
        _ = readFrom .start (records ++ [row.map Prod.snd]) [] []
              ("\n".intercalate ((row' :: rows).map written)).toList := by
            rw [step, readFrom_newline outside, cells]
            rfl
        _ = some (records ++ (row :: row' :: rows).map (List.map Prod.snd)) := by
            rw [ih others (List.cons_ne_nil _ _)]
            simp

end Export.Csv

/-! ## Results -/

/-- The cells of a result. -/
def Result.cells (r : Result) : List String :=
  [r.file, r.kind, r.text, r.severity.name, (r.line.map Numeral.ofInt).getD ""]

/-- The cells of a result tell what the result says. -/
theorem Result.contents_eq_of_cells_eq {r s : Result} (same : r.cells = s.cells) :
    r.contents = s.contents := by
  obtain ⟨_, file, kind, text, severity, line⟩ := r
  obtain ⟨_, file', kind', text', severity', line'⟩ := s
  simp only [cells, List.cons.injEq, and_true] at same
  obtain ⟨rfl, rfl, rfl, names, lines⟩ := same
  have severities : severity = severity' := by
    have read := Severity.ofName?_name severity
    rw [names, Severity.ofName?_name] at read
    exact (Option.some.inj read).symm
  have numbers : line = line' := by
    cases line <;> cases line'
    · rfl
    · exact absurd lines.symm (Numeral.ofInt_ne_empty _)
    · exact absurd lines (Numeral.ofInt_ne_empty _)
    · exact congrArg some (Numeral.ofInt_inj lines)
  rw [severities, numbers]
  rfl

theorem Result.map_contents_eq_of_map_cells_eq {results others : List Result}
    (same : results.map cells = others.map cells) :
    results.map contents = others.map contents := by
  induction results generalizing others with
  | nil => rw [List.map_eq_nil_iff.mp same.symm]
  | cons r results ih =>
    cases others with
    | nil => cases same
    | cons s others =>
      obtain ⟨first, rest⟩ := List.cons.inj same
      rw [List.map_cons, List.map_cons, contents_eq_of_cells_eq first, ih rest]

namespace Export.Csv

/-- The cells of the headers. -/
def headerCells : List String := ["File", "Type", "Match", "Severity", "Line"]

/-- The written fields of the headers and of a result. -/
def headerFields : List Field := headerCells.map fun s => (s, s)

def fieldsOf (r : Result) : List Field :=
  [(quotedField r.file, r.file), (quotedField r.kind, r.kind), (quotedField r.text, r.text),
    (r.severity.name, r.severity.name),
    ((r.line.map Numeral.ofInt).getD "", (r.line.map Numeral.ofInt).getD "")]

theorem isBare_name (s : Severity) : IsBare s.name := by
  cases s <;> simp [IsBare, Severity.name]

theorem isBare_line (line : Option Int) : IsBare ((line.map Numeral.ofInt).getD "") := by
  intro c member
  cases line with
  | none => cases member
  | some i =>
    rcases Numeral.eq_minus_or_isDigit_of_mem_ofInt member with rfl | digit
    · decide
    · refine ⟨?_, ?_, ?_⟩ <;> · rintro rfl; cases digit

theorem isField_of_mem_fieldsOf {r : Result} : ∀ f ∈ fieldsOf r, IsField f.1.toList f.2 := by
  simp only [fieldsOf, List.forall_mem_cons]
  exact ⟨isField_quotedField _, isField_quotedField _, isField_quotedField _,
    isField_of_isBare (isBare_name _), isField_of_isBare (isBare_line _), nofun⟩

theorem isField_of_mem_headerFields : ∀ f ∈ headerFields, IsField f.1.toList f.2 := by
  have bare : ∀ s ∈ headerCells, IsBare s := by
    simp [headerCells, IsBare]
  intro f member
  obtain ⟨s, cell, rfl⟩ := List.mem_map.mp member
  exact isField_of_isBare (bare s cell)

/-- An export is read back as the headers and the cells of its results. -/
theorem read_csv (results : List Result) :
    read (csv results) = some (headerCells :: results.map Result.cells) := by
  have lines : csv results =
      "\n".intercalate ((headerFields :: results.map fieldsOf).map written) := by
    rw [csv, List.map_cons, List.map_map]
    rfl
  have cells : (headerFields :: results.map fieldsOf).map (List.map Prod.snd) =
      headerCells :: results.map Result.cells := by
    rw [List.map_cons, List.map_map]
    rfl
  have areRows : ∀ row ∈ headerFields :: results.map fieldsOf,
      row ≠ [] ∧ ∀ f ∈ row, IsField f.1.toList f.2 := by
    refine List.forall_mem_cons.mpr ⟨⟨by decide, isField_of_mem_headerFields⟩, ?_⟩
    rintro row member
    obtain ⟨r, -, rfl⟩ := List.mem_map.mp member
    exact ⟨List.cons_ne_nil _ _, isField_of_mem_fieldsOf⟩
  rw [read, lines, readFrom_rows areRows (List.cons_ne_nil _ _), List.nil_append, cells]

end Export.Csv

open Export in
/-- **An export as comma-separated values is unambiguous.** It is read back as the headers and the
cells of its results, so two lists of results have the same export exactly if they agree, one by
one, in file, kind, text, severity and line. -/
theorem csv_unambiguous :
    (∀ results, Csv.read (csv results) = some (Csv.headerCells :: results.map Result.cells)) ∧
    ∀ results others, csv results = csv others ↔
      results.map Result.contents = others.map Result.contents := by
  refine ⟨Csv.read_csv, fun results others => ⟨fun same => ?_, fun same => ?_⟩⟩
  · have read := congrArg Csv.read same
    rw [Csv.read_csv, Csv.read_csv] at read
    exact Result.map_contents_eq_of_map_cells_eq (List.cons.inj (Option.some.inj read)).2
  · have rows := congrArg
      (List.map fun c => row ⟨"", c.1, c.2.1, c.2.2.1, c.2.2.2.1, c.2.2.2.2⟩) same
    rw [List.map_map, List.map_map] at rows
    exact congrArg (fun rs => "\n".intercalate (headers :: rs)) rows

end LeakScan
