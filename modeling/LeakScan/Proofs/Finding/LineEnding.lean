import LeakScan.Proofs.Finding.Token
import LeakScan.Proofs.Pattern.Compare
import Mathlib.Data.List.Forall2

/-!
# Line endings

A scan sees of a content what its lines show (`scanContent_congr`). No signature reads a carriage
return or looks for one, so a line shows the same tokens with a carriage return at its end and
without. Hence it does not matter whether the lines of a content end in a newline alone or in a
carriage return and a newline (`scanContent_withReturns`), whatever else the content holds.
-/

namespace LeakScan
set_option autoImplicit false

namespace Text

/-- A text with a carriage return before every newline. -/
def withReturns (cs : List Char) : List Char :=
  cs.flatMap fun c => if c = '\n' then ['\r', '\n'] else [c]

theorem withReturns_of_notMem {cs : List Char} (unbroken : '\n' ∉ cs) : withReturns cs = cs := by
  unfold withReturns
  induction cs with
  | nil => rfl
  | cons c cs ih =>
    have other : c ≠ '\n' := fun same => unbroken (same ▸ List.mem_cons_self)
    have rest : '\n' ∉ cs := fun member => unbroken (List.mem_cons_of_mem c member)
    rw [List.flatMap_cons, if_neg other, ih rest]
    rfl

theorem withReturns_append_cons {a : List Char} (unbroken : '\n' ∉ a) (b : List Char) :
    withReturns (a ++ '\n' :: b) = a ++ ['\r'] ++ '\n' :: withReturns b := by
  have first := withReturns_of_notMem unbroken
  unfold withReturns at first ⊢
  rw [List.flatMap_append, first, List.flatMap_cons, if_pos rfl]
  simp

/-- With carriage returns before the newlines, a line is what it was or has one more character, the
carriage return at its end. -/
theorem lines_withReturns (cs : List Char) :
    List.Forall₂ (fun line line' => line' = line ∨ line' = line ++ ['\r']) (lines cs)
      (lines (withReturns cs)) := by
  rcases eq_or_eq_append_cons '\n' cs with whole | ⟨a, b, rfl, unbroken⟩
  · rw [withReturns_of_notMem whole, lines, split_of_notMem whole]
    exact .cons (Or.inl rfl) .nil
  · have unbroken' : '\n' ∉ a ++ ['\r'] := by
      simpa using unbroken
    have rest := lines_withReturns b
    rw [withReturns_append_cons unbroken, lines, lines, split_append_cons, split_append_cons,
      split_of_notMem unbroken, split_of_notMem unbroken']
    exact .cons (Or.inr rfl) rest
termination_by cs.length

end Text

/-- Two lines on which every signature finds the same. -/
def SameTokens (line line' : List Char) : Prop :=
  ∀ s ∈ Signature.known, s.pattern.occurrences line' = s.pattern.occurrences line

namespace Finding

theorem onLine_congr {line line' : List Char} (same : SameTokens line line') (file : String)
    (number : Nat) : onLine file number line' = onLine file number line := by
  unfold onLine ofSignature
  apply List.flatMap_congr
  intro s isKnown
  rw [same s isKnown]

theorem onLines_congr {lines lines' : List (List Char)}
    (same : List.Forall₂ SameTokens lines lines') (file : String) (start : Nat) :
    onLines file start lines' = onLines file start lines := by
  induction same generalizing start with
  | nil => rfl
  | cons first _ ih => rw [onLines_cons, onLines_cons, onLine_congr first, ih]

end Finding

/-- A scan sees of a content what the lines show. -/
theorem scanContent_congr (file : String) {content content' : String}
    (same : List.Forall₂ SameTokens (Text.lines content.toList) (Text.lines content'.toList)) :
    scanContent file content' = scanContent file content := by
  have found : Finding.inContent file content' = Finding.inContent file content := by
    rw [Finding.inContent_eq_onLines, Finding.inContent_eq_onLines]
    exact Finding.onLines_congr same file 1
  rw [scanContent_eq, scanContent_eq, found]

namespace Signature

theorem avoids_return : ∀ s ∈ known, s.pattern.avoids '\r' = true := by decide +kernel

end Signature

/-- A carriage return at the end of a line changes nothing that a signature finds there. -/
theorem sameTokens_append_return (line : List Char) : SameTokens line (line ++ ['\r']) := by
  intro s isKnown
  have greedy := Signature.isGreedy_pattern s isKnown
  have positive := Signature.least_pos s isKnown
  have avoided := Signature.avoids_return s isKnown
  exact Pattern.occurrences_append greedy positive avoided line (by simp)

/-- **Line endings do not matter.** With a carriage return before every newline of a content, a scan
reports what it reports without: the same findings on the same lines, in the same order. -/
theorem scanContent_withReturns (file content : String) :
    scanContent file (String.ofList (Text.withReturns content.toList)) =
      scanContent file content := by
  apply scanContent_congr
  rw [String.toList_ofList]
  apply (Text.lines_withReturns content.toList).imp
  rintro line line' (rfl | rfl)
  · exact fun _ _ => rfl
  · exact sameTokens_append_return line

end LeakScan
