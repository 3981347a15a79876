import Mathlib.Tactic.SplitIfs
import LeakScan.Json.Reader
import LeakScan.Json.Writer

/-!
# Reading written texts

A character is written as itself, as an escape, or as the escapes of its one or two UTF-16 units. In
whichever way, a reader takes its units from it (`units_escapedChar`), and the units of the
characters of a text are joined to those characters again (`joined_flatMap_charUnits`): a character
is no half of a pair, and every pair that was written is read as one. So a text is read back from
between its quotes, whatever follows them (`text_flatMap_escapedChar`).
-/

namespace LeakScan.Json
set_option autoImplicit false

open Text

theorem hexDigit?_hexDigit : ∀ d < 16, hexDigit? (hexDigit d) = some d := by decide

/-- Four hexadecimal digits hold a number of sixteen bits. -/
theorem exists_hexDigits_eq {n : Nat} (small : n < 0x10000) :
    ∃ a b c d, hexDigits 4 n = [a, b, c, d] ∧ unit? a b c d = some n := by
  refine ⟨_, _, _, _, rfl, ?_⟩
  have digit (m : Nat) : hexDigit? (hexDigit (m % 16)) = some (m % 16) :=
    hexDigit?_hexDigit _ (Nat.mod_lt _ (by decide))
  simp only [unit?, digit, Option.bind_eq_bind, Option.bind_some, Option.pure_def,
    Option.some.injEq]
  omega

theorem units_escapedUnit {n : Nat} (small : n < 0x10000) (acc : List Nat) (cs : List Char) :
    units acc (escapedUnit n ++ cs) = units (n :: acc) cs := by
  obtain ⟨a, b, c, d, digits, read⟩ := exists_hexDigits_eq small
  have step : units acc ('\\' :: 'u' :: a :: b :: c :: d :: cs) = units (n :: acc) cs := by
    rw [units, read]
  rw [escapedUnit, digits]
  exact step

/-- A character that needs no escape is read as itself. -/
theorem units_plain {c : Char} (quote : c ≠ '"') (backslash : c ≠ '\\') (low : 32 ≤ c.toNat)
    (acc : List Nat) (cs : List Char) : units acc (c :: cs) = units (c.toNat :: acc) cs := by
  rw [units]
  · rw [if_neg (by simp [backslash, low])]
  · exact quote
  · exact fun _ _ _ _ _ isBackslash => absurd isBackslash backslash
  · exact fun _ _ isBackslash => absurd isBackslash backslash

/-- The UTF-16 units of a character. -/
def charUnits (c : Char) : List Nat :=
  if c.toNat < 0x10000 then [c.toNat]
  else [0xD800 + (c.toNat - 0x10000) / 0x400, 0xDC00 + (c.toNat - 0x10000) % 0x400]

/-- A number of a character is below or above the halves of pairs. -/
theorem toNat_lt_or_lt (c : Char) :
    c.toNat < 0xD800 ∨ 0xDFFF < c.toNat ∧ c.toNat < 0x110000 := c.valid

/-- A written character is read as its units. -/
theorem units_escapedChar (c : Char) (acc : List Nat) (cs : List Char) :
    units acc (escapedChar c ++ cs) = units ((charUnits c).reverse ++ acc) cs := by
  unfold escapedChar
  split_ifs with quote backslash newline carriage tab backspace feed plain single
  · subst quote; rfl
  · subst backslash; rfl
  · subst newline; rfl
  · subst carriage; rfl
  · subst tab; rfl
  · subst backspace; rfl
  · subst feed; rfl
  · obtain ⟨low, high⟩ : 32 ≤ c.toNat ∧ c.toNat ≤ 126 := by simpa using plain
    rw [charUnits, if_pos (by omega), List.singleton_append, units_plain quote backslash low]
    rfl
  · rw [charUnits, if_pos single]
    exact units_escapedUnit single acc cs
  · rw [charUnits, if_neg single]
    have := toNat_lt_or_lt c
    rw [List.append_assoc, units_escapedUnit (by omega), units_escapedUnit (by omega)]
    rfl

/-- A written text is read as the units of its characters. -/
theorem units_flatMap_escapedChar (s : List Char) (acc : List Nat) (rest : List Char) :
    units acc (s.flatMap escapedChar ++ '"' :: rest) =
      .ok (acc.reverse ++ s.flatMap charUnits, rest) := by
  induction s generalizing acc with
  | nil =>
    have closed : units acc ('"' :: rest) = .ok (acc.reverse, rest) := rfl
    rw [List.flatMap_nil, List.nil_append, closed, List.flatMap_nil, List.append_nil]
  | cons c s ih =>
    rw [List.flatMap_cons, List.append_assoc, units_escapedChar, ih]
    simp

theorem ofNat_toNat (c : Char) : CodePoint.ofNat c.toNat = .char c := by
  have valid : c.toNat.isValidChar := c.valid
  rw [CodePoint.ofNat, if_pos valid, Char.ofNat_toNat]

/-- The units of characters are joined to the characters. -/
theorem joined_flatMap_charUnits (s : List Char) :
    CodePoint.joined (s.flatMap charUnits) = s.map .char := by
  induction s with
  | nil => rfl
  | cons c s ih =>
    have range := toNat_lt_or_lt c
    rw [List.flatMap_cons, List.map_cons, ← ih, ← ofNat_toNat, charUnits]
    split_ifs with single
    · -- A character is not the first half of a pair, so it stands for itself.
      rw [List.singleton_append]
      cases s.flatMap charUnits with
      | nil => rfl
      | cons m ns =>
        rw [CodePoint.joined, if_neg]
        simp only [Bool.and_eq_true, decide_eq_true_eq]
        omega
    · have whole : 0x10000 + (0xD800 + (c.toNat - 0x10000) / 0x400 - 0xD800) * 0x400 +
          (0xDC00 + (c.toNat - 0x10000) % 0x400 - 0xDC00) = c.toNat := by omega
      rw [List.cons_append, List.singleton_append, CodePoint.joined, if_pos, whole]
      simp only [Bool.and_eq_true, decide_eq_true_eq]
      omega

/-- A text is read back from between its quotes. -/
theorem text_flatMap_escapedChar (s : String) (rest : List Char) :
    text (s.toList.flatMap escapedChar ++ '"' :: rest) = .ok (.whole s, rest) := by
  rw [text, units_flatMap_escapedChar, List.reverse_nil, List.nil_append]
  simp only [bind, Except.bind, pure, Except.pure]
  rw [joined_flatMap_charUnits, Loose.ofPoints_map_char, String.ofList_toList]

end LeakScan.Json
