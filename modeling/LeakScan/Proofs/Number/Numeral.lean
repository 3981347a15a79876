import LeakScan.Number.Numeral

/-!
# Numerals of integers

The text of an integer tells the integer: its digits have the integer's size for their value
(`value_toDigits`), a minus sign stands before them exactly if it is negative, and so two integers
with the same text are the same (`ofInt_inj`). The text holds digits and a sign only, and the first
digit is a zero for zero alone.
-/

namespace LeakScan.Numeral
set_option autoImplicit false

theorem value_toDigits (n : Nat) : value (Nat.toDigits 10 n) = n := by
  calc
    value (Nat.toDigits 10 n) = Nat.ofDigitChars 10 (Nat.toDigits 10 n) 0 :=
      Nat.ofDigitChars_eq_foldl.symm
    _ = n := Nat.ofDigitChars_ten_toDigits

theorem isDigit_of_mem_toDigits {n : Nat} {c : Char} (member : c ∈ Nat.toDigits 10 n) :
    c.isDigit = true :=
  Nat.isDigit_of_mem_toDigits (by decide) (by decide) member

/-- A numeral starts with a digit, which is a zero only if there is no other. -/
theorem exists_toDigits_eq_cons (n : Nat) :
    ∃ c cs, Nat.toDigits 10 n = c :: cs ∧ c.isDigit = true ∧ (c = '0' → cs = []) := by
  induction n using Nat.strongRecOn with
  | ind n ih =>
    by_cases small : n < 10
    · refine ⟨n.digitChar, [], Nat.toDigits_of_lt_base small, ?_, fun _ => rfl⟩
      rw [Nat.isDigit_digitChar, decide_eq_true small]
    · have large : 10 ≤ n := Nat.le_of_not_lt small
      obtain ⟨c, cs, digits, isDigit, zero⟩ := ih (n / 10) (by omega)
      refine ⟨c, cs ++ [(n % 10).digitChar], ?_, isDigit, ?_⟩
      · rw [Nat.toDigits_of_base_le (by decide) large, digits, List.cons_append]
      · -- A zero alone would be the numeral of `n / 10`, which is positive.
        rintro rfl
        have value := value_toDigits (n / 10)
        rw [digits, zero rfl] at value
        have : Numeral.value ['0'] = 0 := rfl
        omega

/-- The characters of the text of an integer. -/
theorem toList_ofInt (i : Int) :
    (ofInt i).toList =
      (if i < 0 then ['-'] else []) ++ Nat.toDigits 10 i.natAbs := by
  rw [ofInt, String.toList_ofList]
  split <;> rfl

theorem eq_minus_or_isDigit_of_mem_ofInt {i : Int} {c : Char} (member : c ∈ (ofInt i).toList) :
    c = '-' ∨ c.isDigit = true := by
  rw [toList_ofInt] at member
  rcases List.mem_append.mp member with sign | digit
  · split at sign
    · exact Or.inl (List.mem_singleton.mp sign)
    · cases sign
  · exact Or.inr (isDigit_of_mem_toDigits digit)

/-- The text of an integer starts with a minus or a digit. -/
theorem exists_ofInt_eq_cons (i : Int) :
    ∃ c cs, (ofInt i).toList = c :: cs ∧ (c = '-' ∨ c.isDigit = true) := by
  obtain ⟨c, cs, first, digit, -⟩ := exists_toDigits_eq_cons i.natAbs
  rw [toList_ofInt, first]
  split
  · exact ⟨'-', c :: cs, rfl, Or.inl rfl⟩
  · exact ⟨c, cs, rfl, Or.inr digit⟩

theorem ofInt_ne_empty (i : Int) : ofInt i ≠ "" := by
  intro empty
  have none := congrArg String.toList empty
  rw [toList_ofInt] at none
  exact Nat.toDigits_ne_nil (List.append_eq_nil_iff.mp none).2

/-- Integers with the same text are the same. -/
theorem ofInt_inj {i j : Int} (same : ofInt i = ofInt j) : i = j := by
  have texts := congrArg String.toList same
  rw [toList_ofInt, toList_ofInt] at texts
  have minus (n : Nat) : '-' ∉ Nat.toDigits 10 n := fun member =>
    absurd (isDigit_of_mem_toDigits member) (by decide)
  have size {m n : Nat} (digits : Nat.toDigits 10 m = Nat.toDigits 10 n) : m = n := by
    rw [← value_toDigits m, digits, value_toDigits]
  split at texts <;> split at texts
  · have := size (List.append_cancel_left texts)
    omega
  · rw [List.nil_append] at texts
    exact absurd (texts ▸ List.mem_append_left _ (List.mem_singleton_self _)) (minus _)
  · rw [List.nil_append] at texts
    exact absurd (texts.symm ▸ List.mem_append_left _ (List.mem_singleton_self _)) (minus _)
  · have := size texts
    omega

theorem ofInt?_natCast_of_large {n : Nat} (large : Nat.pow 10 maxDigits ≤ n) :
    ofInt? n = none :=
  if_pos large

/-- An integer that is no larger than the number of digits allowed has a text. -/
theorem ofInt?_of_small {i : Int} (small : i.natAbs ≤ maxDigits) : ofInt? i = some (ofInt i) := by
  have large (n : Nat) : n < Nat.pow 10 n := Nat.lt_pow_self (by decide)
  rw [ofInt?, if_neg (Nat.not_le_of_lt (Nat.lt_of_le_of_lt small (large maxDigits)))]

end LeakScan.Numeral
