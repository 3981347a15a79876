import Mathlib.Algebra.Group.Nat.Defs
import LeakScan.Proofs.Json.Text
import LeakScan.Proofs.Number.Numeral

/-!
# Reading written values

The indented form of a value is read back as the value (`ofText_indented`) if its integers are not
too long to be read, its texts are whole, no object has a key twice, and lists and objects do not
stand too deep in one another (`Readable`). A value is read to its end and no further, whatever
follows that does not go on with a numeral; lists and objects are read item by item from there, and
every step of a reader takes at least one character, so their number suffices.
-/

namespace LeakScan.Json
set_option autoImplicit false

/-- What cannot be taken for more of a numeral that stands before it. -/
def Ends (rest : List Char) : Prop :=
  ∀ c ∈ rest.head?, c.isDigit = false ∧ c ≠ '.' ∧ c ≠ 'e' ∧ c ≠ 'E'

theorem ends_nil : Ends [] := nofun

theorem ends_cons {c : Char} (cs : List Char)
    (ends : c.isDigit = false ∧ c ≠ '.' ∧ c ≠ 'e' ∧ c ≠ 'E') : Ends (c :: cs) := by
  rintro _ ⟨⟩
  exact ends

/-! ## Numbers -/

section

variable {rest : List Char}

theorem splitWhole_toDigits (ends : Ends rest) (n : Nat) :
    splitWhole (Nat.toDigits 10 n ++ rest) = (Nat.toDigits 10 n, rest) := by
  have stop : rest.takeWhile Char.isDigit = [] ∧ rest.dropWhile Char.isDigit = rest := by
    cases rest with
    | nil => exact ⟨rfl, rfl⟩
    | cons c cs => simp [(ends c rfl).1]
  have digits : ∀ c ∈ Nat.toDigits 10 n, c.isDigit = true :=
    fun c member => Numeral.isDigit_of_mem_toDigits member
  obtain ⟨c, cs, first, isDigit, alone⟩ := Numeral.exists_toDigits_eq_cons n
  by_cases zero : c = '0'
  · rw [first, alone zero, zero]
    rfl
  · rw [first, List.cons_append, splitWhole, ← List.cons_append, ← first,
      List.takeWhile_append_of_pos digits, List.dropWhile_append_of_pos digits, stop.1, stop.2,
      List.append_nil]
    exact fun _ isZero => zero (List.cons.inj isZero).1

theorem splitFraction_of_ends (ends : Ends rest) : splitFraction rest = ([], rest) := by
  cases rest with
  | nil => rfl
  | cons c cs =>
    rw [splitFraction]
    exact fun _ isPoint => (ends c rfl).2.1 (List.cons.inj isPoint).1

theorem splitExponent_of_ends (ends : Ends rest) : splitExponent rest = ([], rest) := by
  cases rest with
  | nil => rfl
  | cons c cs => simp [splitExponent, (ends c rfl).2.2]

theorem number_toDigits (ends : Ends rest) {n : Nat} (short : n < 10 ^ Numeral.maxDigits)
    (negative : Bool) :
    number negative (Nat.toDigits 10 n ++ rest) =
      .ok (.int (if negative then -(n : Int) else n), rest) := by
  have size : (Nat.toDigits 10 n).length ≤ Numeral.maxDigits :=
    (Nat.length_toDigits_le_iff (by decide) (by decide)).mpr short
  have some : (Nat.toDigits 10 n).isEmpty = false := by simp
  simp only [number, splitWhole_toDigits ends, splitFraction_of_ends ends,
    splitExponent_of_ends ends, some, List.isEmpty_nil, Bool.and_self, if_true,
    if_neg (Nat.not_lt.mpr size), Numeral.value_toDigits]
  rfl

theorem after?_eq_none {w c : Char} (other : c ≠ w) (ws cs : List Char) :
    after? (w :: ws) (c :: cs) = none := by
  simp [after?, other.symm]

/-- What starts with no word is read as a number. -/
theorem scalar_of_noWord {c : Char} {cs : List Char}
    (words : ∀ w ∈ ['n', 't', 'f', 'N', 'I'], c ≠ w)
    (infinity : after? "-Infinity".toList (c :: cs) = none) :
    scalar (c :: cs) = if c = '-' then number true cs else number false (c :: cs) := by
  simp only [String.reduceToList] at infinity
  simp only [scalar, String.reduceToList, after?_eq_none (words 'n' (by decide)),
    after?_eq_none (words 't' (by decide)), after?_eq_none (words 'f' (by decide)),
    after?_eq_none (words 'N' (by decide)), after?_eq_none (words 'I' (by decide)), infinity]
  split
  · rename_i sign
    cases sign
    rfl
  · rename_i unsigned
    rw [if_neg fun minus => unsigned cs (by rw [minus])]

theorem scalar_ofInt (ends : Ends rest) {i : Int} (short : i.natAbs < 10 ^ Numeral.maxDigits) :
    scalar ((Numeral.ofInt i).toList ++ rest) = .ok (.int i, rest) := by
  obtain ⟨c, cs, first, digit, -⟩ := Numeral.exists_toDigits_eq_cons i.natAbs
  have other (d : Char) (noDigit : d.isDigit = false) : c ≠ d := by
    rintro rfl
    rw [digit] at noDigit
    cases noDigit
  have read (negative : Bool) := number_toDigits ends short negative
  rw [first, List.cons_append] at read
  rw [Numeral.toList_ofInt, first]
  split
  · have value : -(i.natAbs : Int) = i := by omega
    have infinity : after? "-Infinity".toList ('-' :: c :: (cs ++ rest)) = none := by
      simp [after?, (other 'I' rfl).symm]
    rw [List.singleton_append, List.cons_append, List.cons_append,
      scalar_of_noWord (by simp) infinity, if_pos rfl, read, if_pos rfl, value]
  · have value : (i.natAbs : Int) = i := by omega
    have words : ∀ w ∈ ['n', 't', 'f', 'N', 'I'], c ≠ w := by
      simp only [List.forall_mem_cons]
      exact ⟨other _ rfl, other _ rfl, other _ rfl, other _ rfl, other _ rfl, nofun⟩
    rw [List.nil_append, List.cons_append,
      scalar_of_noWord words (after?_eq_none (other '-' rfl) _ _), if_neg (other '-' rfl), read,
      if_neg nofun, value]

end

/-! ## Values -/

/-- Values whose written form is read back where lists and objects may stand `room` deep. -/
inductive Readable : (room : Nat) → Json → Prop
  | null {room : Nat} : Readable room .null
  | bool {room : Nat} (b : Bool) : Readable room (.bool b)
  | int {room : Nat} {i : Int} (short : i.natAbs < 10 ^ Numeral.maxDigits) : Readable room (.int i)
  | str {room : Nat} (s : String) : Readable room (.str (.whole s))
  | arr {room : Nat} {items : List Json} (all : ∀ v ∈ items, Readable room v) :
    Readable (room + 1) (.arr items)
  | obj {room : Nat} {fields : Fields} (distinct : (fields.map Prod.fst).Nodup)
    (keys : ∀ f ∈ fields, ∃ k, f.1 = .whole k) (all : ∀ f ∈ fields, Readable room f.2) :
    Readable (room + 1) (.obj fields)

/-- A value is read from its written form, at any level, and no further. -/
def ReadsBack (room : Nat) (v : Json) : Prop :=
  ∀ (level steps : Nat) (rest : List Char), Ends rest → (indentedAt level v).length ≤ steps →
    value room steps (indentedAt level v ++ rest) = .ok (v, rest)

/-- A written value starts with no blank and no closing bracket. -/
theorem exists_indentedAt_eq_cons {room : Nat} {v : Json} (readable : Readable room v)
    (level : Nat) :
    ∃ c cs, indentedAt level v = c :: cs ∧ isJsonBlank c = false ∧ c ≠ ']' ∧ c ≠ '\x7d' := by
  cases readable with
  | null => exact ⟨_, _, rfl, by decide, by decide, by decide⟩
  | bool b => cases b <;> exact ⟨_, _, rfl, by decide, by decide, by decide⟩
  | @int _ i short =>
    obtain ⟨c, cs, first, start⟩ := Numeral.exists_ofInt_eq_cons i
    refine ⟨c, cs, first, ?_⟩
    rcases start with rfl | digit
    · decide
    · refine ⟨?_, ?_, ?_⟩
      · simp only [isJsonBlank, Bool.or_eq_false_iff, decide_eq_false_iff_not]
        refine ⟨⟨⟨?_, ?_⟩, ?_⟩, ?_⟩ <;> · rintro rfl; cases digit
      all_goals rintro rfl; cases digit
  | str s => exact ⟨_, _, rfl, by decide, by decide, by decide⟩
  | @arr _ items all => cases items <;> exact ⟨_, _, rfl, by decide, by decide, by decide⟩
  | @obj _ fields distinct keys all =>
    cases fields <;> exact ⟨_, _, rfl, by decide, by decide, by decide⟩

theorem skipBlanks_cons {c : Char} (solid : isJsonBlank c = false) (cs : List Char) :
    skipBlanks (c :: cs) = c :: cs := by
  simp [skipBlanks, solid]

theorem skipBlanks_newline (level : Nat) (cs : List Char) :
    skipBlanks (newline level ++ cs) = skipBlanks cs := by
  have blanks : ∀ c ∈ newline level, isJsonBlank c = true := by
    simp [newline, isJsonBlank]
  exact List.dropWhile_append_of_pos blanks

theorem skipBlanks_indentedAt {room : Nat} {v : Json} (readable : Readable room v) (level : Nat)
    (cs : List Char) : skipBlanks (indentedAt level v ++ cs) = indentedAt level v ++ cs := by
  obtain ⟨c, cs', first, solid, -⟩ := exists_indentedAt_eq_cons readable level
  rw [first, List.cons_append, skipBlanks_cons solid]

theorem ends_newline (level : Nat) (cs : List Char) : Ends (newline level ++ cs) :=
  ends_cons _ (by decide)

/-- What starts with no quote and no opening bracket is no text, list or object. -/
theorem value_eq_scalar {c : Char} (plain : c ≠ '"' ∧ c ≠ '[' ∧ c ≠ '\x7b') (room steps : Nat)
    (cs : List Char) : value room (steps + 1) (c :: cs) = scalar (c :: cs) := by
  rw [value]
  · exact fun _ quote => plain.1 (List.cons.inj quote).1
  · exact fun _ bracket => plain.2.1 (List.cons.inj bracket).1
  · exact fun _ brace => plain.2.2 (List.cons.inj brace).1

/-! ## Lists and objects -/

section

variable {room steps : Nat} {v : Json} {cs after rest : List Char}

/-- An item before a comma is taken, and the next one is read. -/
theorem items_comma (read : value room steps cs = .ok (v, after))
    (comma : skipBlanks after = ',' :: rest) (acc : List Json) :
    items room (steps + 1) acc cs = items room steps (v :: acc) (skipBlanks rest) := by
  simp only [items, read, bind, Except.bind, comma]

/-- An item before a bracket ends the list. -/
theorem items_bracket (read : value room steps cs = .ok (v, after))
    (bracket : skipBlanks after = ']' :: rest) (acc : List Json) :
    items room (steps + 1) acc cs = .ok (.arr (acc.reverse ++ [v]), rest) := by
  simp only [items, read, bind, Except.bind, bracket, List.reverse_cons]
  rfl

end

/-- Written items are read one after another, up to the bracket that closes their list. -/
theorem items_indentedItems {room : Nat} {vs : List Json}
    (readable : ∀ v ∈ vs, Readable room v) (reads : ∀ v ∈ vs, ReadsBack room v)
    (nonempty : vs ≠ []) (level outer steps : Nat) (acc : List Json) (rest : List Char)
    (enough : (indentedItems level vs).length ≤ steps) :
    items room steps acc
        (skipBlanks (indentedItems level vs ++ (newline outer ++ ']' :: rest))) =
      .ok (.arr (acc.reverse ++ vs), rest) := by
  induction vs generalizing steps acc with
  | nil => exact absurd rfl nonempty
  | cons v vs ih =>
    obtain ⟨first, others⟩ := List.forall_mem_cons.mp readable
    obtain ⟨read, reads⟩ := List.forall_mem_cons.mp reads
    have indent : 0 < (newline level).length := Nat.succ_pos _
    cases vs with
    | nil =>
      rw [indentedItems, List.length_append] at enough
      obtain ⟨steps, rfl⟩ : ∃ n, steps = n + 1 := ⟨steps - 1, by omega⟩
      rw [indentedItems, List.append_assoc, skipBlanks_newline, skipBlanks_indentedAt first]
      apply items_bracket (read level steps _ (ends_newline outer _) (by omega))
      rw [skipBlanks_newline, skipBlanks_cons (by decide)]
    | cons w vs =>
      rw [indentedItems, List.length_append, List.length_append, List.length_cons] at enough
      obtain ⟨steps, rfl⟩ : ∃ n, steps = n + 1 := ⟨steps - 1, by omega⟩
      rw [indentedItems, List.append_assoc, List.append_assoc, skipBlanks_newline,
        skipBlanks_indentedAt first, List.cons_append,
        items_comma (read level steps _ (ends_cons _ (by decide)) (by omega))
          (skipBlanks_cons (by decide) _),
        ih others reads (List.cons_ne_nil _ _) _ _ (by omega)]
      simp

theorem quotedText_append (k : String) (cs : List Char) :
    quotedText (.whole k) ++ cs = '"' :: (k.toList.flatMap escapedChar ++ '"' :: cs) := by
  simp [quotedText]

section

variable {room steps : Nat} {v : Json} {after rest tail : List Char}

/-- A field before a comma is taken, and the next one is read. -/
theorem fields_comma (read : value room steps (skipBlanks after) = .ok (v, rest))
    (comma : skipBlanks rest = ',' :: tail) (k : String) (acc : Fields) :
    fields room (steps + 1) acc (quotedText (.whole k) ++ ':' :: ' ' :: after) =
      fields room steps (insert (.whole k) v acc) (skipBlanks tail) := by
  have colon : skipBlanks (':' :: ' ' :: after) = ':' :: ' ' :: after :=
    skipBlanks_cons (by decide) _
  have space : skipBlanks (' ' :: after) = skipBlanks after := rfl
  rw [quotedText_append]
  simp only [fields, text_flatMap_escapedChar, bind, Except.bind, colon, space, read, comma]

/-- A field before a brace ends the object. -/
theorem fields_brace (read : value room steps (skipBlanks after) = .ok (v, rest))
    (brace : skipBlanks rest = '\x7d' :: tail) (k : String) (acc : Fields) :
    fields room (steps + 1) acc (quotedText (.whole k) ++ ':' :: ' ' :: after) =
      .ok (.obj (insert (.whole k) v acc), tail) := by
  have colon : skipBlanks (':' :: ' ' :: after) = ':' :: ' ' :: after :=
    skipBlanks_cons (by decide) _
  have space : skipBlanks (' ' :: after) = skipBlanks after := rfl
  rw [quotedText_append]
  simp only [fields, text_flatMap_escapedChar, bind, Except.bind, colon, space, read, brace]
  rfl

end

theorem insert_of_notMem {key : Text.Loose} {acc : Fields} (new : key ∉ acc.map Prod.fst)
    (v : Json) : insert key v acc = acc ++ [(key, v)] := by
  induction acc with
  | nil => rfl
  | cons f acc ih =>
    rw [List.map_cons, List.mem_cons, not_or] at new
    rw [insert, if_neg (Ne.symm new.1), ih new.2, List.cons_append]

/-- Written fields are read one after another, up to the brace that closes their object. -/
theorem fields_indentedFields {room : Nat} {fs : Fields}
    (keys : ∀ f ∈ fs, ∃ k, f.1 = .whole k) (readable : ∀ f ∈ fs, Readable room f.2)
    (reads : ∀ f ∈ fs, ReadsBack room f.2) (nonempty : fs ≠ []) (level outer steps : Nat)
    (acc : Fields) (distinct : ((acc ++ fs).map Prod.fst).Nodup) (rest : List Char)
    (enough : (indentedFields level fs).length ≤ steps) :
    fields room steps acc
        (skipBlanks (indentedFields level fs ++ (newline outer ++ '\x7d' :: rest))) =
      .ok (.obj (acc ++ fs), rest) := by
  induction fs generalizing steps acc with
  | nil => exact absurd rfl nonempty
  | cons f fs ih =>
    obtain ⟨name, v⟩ := f
    obtain ⟨⟨k, whole⟩, names⟩ := List.forall_mem_cons.mp keys
    obtain rfl : name = .whole k := whole
    obtain ⟨first, others⟩ := List.forall_mem_cons.mp readable
    obtain ⟨read, reads⟩ := List.forall_mem_cons.mp reads
    have read : ReadsBack room v := read
    have indent : 0 < (newline level).length := Nat.succ_pos _
    have new : Text.Loose.whole k ∉ acc.map Prod.fst := by
      rw [List.map_append, List.map_cons] at distinct
      exact fun member => (List.nodup_append.mp distinct).2.2 _ member _ List.mem_cons_self rfl
    have key (cs : List Char) :
        skipBlanks (quotedText (.whole k) ++ cs) = quotedText (.whole k) ++ cs := by
      rw [quotedText_append, skipBlanks_cons (by decide)]
    cases fs with
    | nil =>
      simp only [indentedFields, List.length_append, List.length_cons] at enough
      obtain ⟨steps, rfl⟩ : ∃ n, steps = n + 1 := ⟨steps - 1, by omega⟩
      have value : value room steps
          (skipBlanks (indentedAt level v ++ (newline outer ++ '\x7d' :: rest))) =
          .ok (v, newline outer ++ '\x7d' :: rest) := by
        rw [skipBlanks_indentedAt first, read level steps _ (ends_newline outer _) (by omega)]
      have brace : skipBlanks (newline outer ++ '\x7d' :: rest) = '\x7d' :: rest := by
        rw [skipBlanks_newline, skipBlanks_cons (by decide)]
      simp only [indentedFields, List.append_assoc, List.cons_append, skipBlanks_newline, key]
      rw [fields_brace value brace, insert_of_notMem new]
    | cons g fs =>
      simp only [indentedFields, List.length_append, List.length_cons] at enough
      obtain ⟨steps, rfl⟩ : ∃ n, steps = n + 1 := ⟨steps - 1, by omega⟩
      have enough' : (indentedFields level (g :: fs)).length ≤ steps := by omega
      have value (tail : List Char) :
          value room steps (skipBlanks (indentedAt level v ++ ',' :: tail)) =
          .ok (v, ',' :: tail) := by
        rw [skipBlanks_indentedAt first,
          read level steps _ (ends_cons _ (by decide)) (by omega)]
      simp only [indentedFields, List.append_assoc, List.cons_append, skipBlanks_newline, key]
      rw [fields_comma (value _) (skipBlanks_cons (by decide) _), insert_of_notMem new,
        ih names others reads (List.cons_ne_nil _ _) _ _ _ enough']
      · simp
      · simpa using distinct

/-! ## Whole texts -/

/-- A value that is written as its scalar form is read back if a reader of scalars reads it. -/
theorem readsBack_of_scalar {room : Nat} {v : Json}
    (start : ∀ level, ∃ c cs, indentedAt level v = c :: cs ∧ c ≠ '"' ∧ c ≠ '[' ∧ c ≠ '\x7b')
    (read : ∀ level rest, Ends rest → scalar (indentedAt level v ++ rest) = .ok (v, rest)) :
    ReadsBack room v := by
  intro level steps rest ends enough
  obtain ⟨c, cs, first, plain⟩ := start level
  have read := read level rest ends
  rw [first] at enough
  obtain ⟨steps, rfl⟩ : ∃ n, steps = n + 1 := ⟨steps - 1, (Nat.sub_add_cancel (by
    rw [List.length_cons] at enough
    omega)).symm⟩
  rw [first, List.cons_append] at read ⊢
  rw [value_eq_scalar plain, read]

theorem value_list {cs : List Char} (some : ∀ ds, skipBlanks cs ≠ ']' :: ds) (room steps : Nat) :
    value (room + 1) (steps + 1) ('[' :: cs) = items room steps [] (skipBlanks cs) := by
  rw [value]
  split
  · rename_i ds none
    exact absurd none (some ds)
  · rfl

theorem value_object {cs : List Char} (some : ∀ ds, skipBlanks cs ≠ '\x7d' :: ds)
    (room steps : Nat) :
    value (room + 1) (steps + 1) ('\x7b' :: cs) = fields room steps [] (skipBlanks cs) := by
  rw [value]
  split
  · rename_i ds none
    exact absurd none (some ds)
  · rfl

theorem readsBack_arr {room : Nat} {vs : List Json} (readable : ∀ v ∈ vs, Readable room v)
    (reads : ∀ v ∈ vs, ReadsBack room v) : ReadsBack (room + 1) (.arr vs) := by
  intro level steps rest _ enough
  cases vs with
  | nil =>
    obtain ⟨steps, rfl⟩ : ∃ n, steps = n + 1 := ⟨steps - 1, by simp [indentedAt] at enough; omega⟩
    rfl
  | cons v vs =>
    simp only [indentedAt, List.length_append, List.length_cons] at enough
    obtain ⟨steps, rfl⟩ : ∃ n, steps = n + 1 := ⟨steps - 1, by omega⟩
    have some (ds : List Char) : skipBlanks (indentedItems (level + 1) (v :: vs) ++
        (newline level ++ ']' :: rest)) ≠ ']' :: ds := by
      obtain ⟨c, cs, first, solid, noBracket, -⟩ :=
        exists_indentedAt_eq_cons (List.forall_mem_cons.mp readable).1 (level + 1)
      have front : ∃ more, indentedItems (level + 1) (v :: vs) =
          newline (level + 1) ++ c :: more := by
        cases vs with
        | nil => exact ⟨_, by rw [indentedItems, first]⟩
        | cons w vs => exact ⟨_, by rw [indentedItems, first, List.append_assoc]; rfl⟩
      obtain ⟨more, front⟩ := front
      rw [front, List.append_assoc, skipBlanks_newline, List.cons_append, skipBlanks_cons solid]
      exact fun bracket => noBracket (List.cons.inj bracket).1
    simp only [indentedAt, List.cons_append, List.append_assoc, List.nil_append]
    rw [value_list some, items_indentedItems readable reads (List.cons_ne_nil _ _) _ _ _ _ _
      (by omega)]
    rfl

theorem readsBack_obj {room : Nat} {fs : Fields} (distinct : (fs.map Prod.fst).Nodup)
    (keys : ∀ f ∈ fs, ∃ k, f.1 = .whole k) (readable : ∀ f ∈ fs, Readable room f.2)
    (reads : ∀ f ∈ fs, ReadsBack room f.2) : ReadsBack (room + 1) (.obj fs) := by
  intro level steps rest _ enough
  cases fs with
  | nil =>
    obtain ⟨steps, rfl⟩ : ∃ n, steps = n + 1 := ⟨steps - 1, by simp [indentedAt] at enough; omega⟩
    rfl
  | cons f fs =>
    simp only [indentedAt, List.length_append, List.length_cons] at enough
    obtain ⟨steps, rfl⟩ : ∃ n, steps = n + 1 := ⟨steps - 1, by omega⟩
    have some (ds : List Char) : skipBlanks (indentedFields (level + 1) (f :: fs) ++
        (newline level ++ '\x7d' :: rest)) ≠ '\x7d' :: ds := by
      obtain ⟨k, name⟩ := (List.forall_mem_cons.mp keys).1
      have front : ∃ more, indentedFields (level + 1) (f :: fs) =
          newline (level + 1) ++ (quotedText (.whole k) ++ more) := by
        cases fs with
        | nil => exact ⟨_, by rw [indentedFields, ← name, List.append_assoc]⟩
        | cons g fs =>
          exact ⟨_, by rw [indentedFields, ← name, List.append_assoc, List.append_assoc]⟩
      obtain ⟨more, front⟩ := front
      rw [front, List.append_assoc, skipBlanks_newline, List.append_assoc, quotedText_append,
        skipBlanks_cons (by decide)]
      exact fun brace => absurd (List.cons.inj brace).1 (by decide)
    simp only [indentedAt, List.cons_append, List.append_assoc, List.nil_append]
    rw [value_object some, fields_indentedFields keys readable reads (List.cons_ne_nil _ _) _ _ _ _
      distinct _ (by omega)]
    rfl

/-- A readable value is read back from its written form. -/
theorem readsBack_of_readable {room : Nat} {v : Json} (readable : Readable room v) :
    ReadsBack room v := by
  induction readable with
  | null =>
    exact readsBack_of_scalar (fun _ => ⟨_, _, rfl, by decide⟩) fun _ _ _ => rfl
  | bool b =>
    cases b <;>
      exact readsBack_of_scalar (fun _ => ⟨_, _, rfl, by decide⟩) fun _ _ _ => rfl
  | @int _ i short =>
    refine readsBack_of_scalar (fun _ => ?_) fun _ _ ends => scalar_ofInt ends short
    obtain ⟨c, cs, first, start⟩ := Numeral.exists_ofInt_eq_cons i
    refine ⟨c, cs, first, ?_⟩
    rcases start with rfl | digit
    · decide
    · refine ⟨?_, ?_, ?_⟩ <;> · rintro rfl; cases digit
  | str s =>
    intro level steps rest _ enough
    obtain ⟨steps, rfl⟩ : ∃ n, steps = n + 1 := ⟨steps - 1, by
      simp [indentedAt, quotedText] at enough; omega⟩
    rw [indentedAt, quotedText_append, value, text_flatMap_escapedChar]
    rfl
  | arr readable reads => exact readsBack_arr readable reads
  | obj distinct keys readable reads => exact readsBack_obj distinct keys readable reads

/-- A readable value is read back from its indented text. -/
theorem ofText_indented {v : Json} (readable : Readable maxNesting v) :
    ofText v.indented = .ok v := by
  have read := readsBack_of_readable readable 0 ((indentedAt 0 v).length + 1) [] ends_nil
    (Nat.le_succ _)
  have start := skipBlanks_indentedAt readable 0 []
  rw [List.append_nil] at read start
  simp only [ofText, indented, String.toList_ofList, start, read, bind, Except.bind]
  rfl

end LeakScan.Json
