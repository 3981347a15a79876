import LeakScan.Proofs.Json.Written

/-!
# Values that are nested too deep

A reader has room for some lists and objects inside one another. Lists in lists that need more are
refused at the first that there is no room for, however the text goes on (`value_nested`), and so is
what has them in it (`value_field_nested`, `ofText_line_field`).
-/

namespace LeakScan.Json
set_option autoImplicit false

/-- An empty list inside `n` lists. -/
def nested : Nat → Json
  | 0 => .arr []
  | n + 1 => .arr [nested n]

theorem length_onLine_nested (n : Nat) : (onLine (nested n)).length = 2 * n + 2 := by
  induction n with
  | zero => rfl
  | succ n ih =>
    simp only [nested, onLine, onLineItems, List.length_append, List.length_cons, List.length_nil,
      ih]
    omega

/-- Written lists begin with a bracket. -/
theorem exists_onLine_nested_eq_cons (n : Nat) : ∃ cs, onLine (nested n) = '[' :: cs := by
  cases n <;> exact ⟨_, rfl⟩

/-- Lists that there is no room for are refused. -/
theorem value_nested {room n steps : Nat} (deep : room ≤ n) (enough : 2 * room < steps)
    (rest : List Char) :
    value room steps (onLine (nested n) ++ rest) = .error (.tooDeep false) := by
  induction room generalizing n steps rest with
  | zero =>
    obtain ⟨steps, rfl⟩ : ∃ k, steps = k + 1 := ⟨steps - 1, by omega⟩
    obtain ⟨cs, first⟩ := exists_onLine_nested_eq_cons n
    rw [first, List.cons_append, value]
  | succ room ih =>
    -- A list takes two steps, one for its bracket and one for its first item.
    obtain ⟨n, rfl⟩ : ∃ k, n = k + 1 := ⟨n - 1, by omega⟩
    obtain ⟨steps, rfl⟩ : ∃ k, steps = k + 2 := ⟨steps - 2, by omega⟩
    obtain ⟨cs, first⟩ := exists_onLine_nested_eq_cons n
    have inner : value room steps (onLine (nested n) ++ (']' :: rest)) = .error (.tooDeep false) :=
      ih (by omega) (by omega) _
    have solid : skipBlanks (onLine (nested n) ++ (']' :: rest)) =
        onLine (nested n) ++ (']' :: rest) := by
      rw [first, List.cons_append, skipBlanks_cons (by decide)]
    have outer : onLine (nested (n + 1)) ++ rest = '[' :: (onLine (nested n) ++ (']' :: rest)) := by
      simp [nested, onLine, onLineItems]
    have opens (ds : List Char) : skipBlanks (onLine (nested n) ++ (']' :: rest)) ≠ ']' :: ds := by
      rw [solid, first]
      simp
    rw [outer, value_list opens, solid]
    simp only [items, inner, bind, Except.bind]

/-- So is a list whose first item is an object that has them in its first field. -/
theorem value_field_nested {room n steps : Nat} (deep : room ≤ n) (enough : 2 * room + 4 < steps)
    (k : String) (rest : List Char) :
    value (room + 2) steps
      ('[' :: '\x7b' :: (quotedText (.whole k) ++ ':' :: ' ' :: (onLine (nested n) ++ rest))) =
        .error (.tooDeep false) := by
  obtain ⟨steps, rfl⟩ : ∃ k, steps = k + 4 := ⟨steps - 4, by omega⟩
  have read : value room steps (onLine (nested n) ++ rest) = .error (.tooDeep false) :=
    value_nested deep (by omega) rest
  have colon : skipBlanks (':' :: ' ' :: (onLine (nested n) ++ rest)) =
      ':' :: ' ' :: (onLine (nested n) ++ rest) := skipBlanks_cons (by decide) _
  have space : skipBlanks (' ' :: (onLine (nested n) ++ rest)) = onLine (nested n) ++ rest := by
    obtain ⟨cs, first⟩ := exists_onLine_nested_eq_cons n
    rw [first, List.cons_append]
    rfl
  have brace (cs : List Char) : skipBlanks ('\x7b' :: cs) = '\x7b' :: cs :=
    skipBlanks_cons (by decide) cs
  have quote (cs : List Char) : skipBlanks ('"' :: cs) = '"' :: cs :=
    skipBlanks_cons (by decide) cs
  rw [value_list (by simp [brace]), brace, items, quotedText_append, value_object (by simp [quote]),
    quote]
  simp only [fields, text_flatMap_escapedChar, bind, Except.bind, colon, space, read]

/-- A listing is refused if the first field of its first item holds such lists. -/
theorem ofText_line_field {n : Nat} (deep : maxNesting ≤ n + 2) (k : String) (fs : Fields)
    (vs : List Json) :
    ofText (line (.arr (.obj ((.whole k, nested n) :: fs) :: vs))) = .error (.tooDeep false) := by
  obtain ⟨rest, written⟩ : ∃ rest, onLine (.arr (.obj ((.whole k, nested n) :: fs) :: vs)) =
      '[' :: '\x7b' :: (quotedText (.whole k) ++ ':' :: ' ' :: (onLine (nested n) ++ rest)) := by
    cases fs <;> cases vs <;>
      exact ⟨_, by simp only [onLine, onLineItems, onLineFields, List.cons_append,
        List.append_assoc]; rfl⟩
  have enough : 2 * (maxNesting - 2) + 4 <
      (onLine (.arr (.obj ((.whole k, nested n) :: fs) :: vs))).length + 1 := by
    simp only [written, List.length_cons, List.length_append, length_onLine_nested]
    omega
  have refused := value_field_nested (show maxNesting - 2 ≤ n by omega) enough k rest
  rw [← written, show maxNesting - 2 + 2 = maxNesting from rfl] at refused
  have start : skipBlanks (onLine (.arr (.obj ((.whole k, nested n) :: fs) :: vs))) =
      onLine (.arr (.obj ((.whole k, nested n) :: fs) :: vs)) := by
    rw [written, skipBlanks_cons (by decide)]
  simp only [ofText, line, String.toList_ofList, start, refused, bind, Except.bind]

end LeakScan.Json
