import LeakScan.Finding.Result
import LeakScan.Proofs.Finding.Firsts
import LeakScan.Proofs.Number.Numeral

/-!
# Identifiers of results

The identifier of a result is one text, but it tells the scan and the number of the result apart. A
scan may be named by any text, with dashes and digits in it too; a number is written in digits only,
so the last dash of an identifier ends the name of the scan (`id_toResult_eq_iff`).
-/

namespace LeakScan
set_option autoImplicit false

/-- A text with a separator is cut in one way only where the separator comes last. -/
theorem append_cons_inj_of_last {c : Char} {a b x y : List Char} (hx : c ∉ x) (hy : c ∉ y)
    (same : a ++ c :: x = b ++ c :: y) : a = b ∧ x = y := by
  have turned : x.reverse ++ c :: a.reverse = y.reverse ++ c :: b.reverse := by
    simpa using congrArg List.reverse same
  obtain ⟨last, first⟩ := Finding.append_cons_inj (mt List.mem_reverse.mp hx)
    (mt List.mem_reverse.mp hy) turned
  exact ⟨List.reverse_inj.mp first, List.reverse_inj.mp last⟩

/-- A number that is not negative is written without a minus sign. -/
theorem Numeral.minus_notMem_ofInt_natCast (n : Nat) : '-' ∉ (ofInt n).toList := by
  rw [toList_ofInt, if_neg (by omega), List.nil_append]
  exact fun member => absurd (isDigit_of_mem_toDigits member) (by decide)

/-- The scan and the number of a result can be read back from its identifier. -/
theorem Finding.id_toResult_eq_iff {f g : Finding} {s s' : String} {i i' : Nat} :
    (f.toResult s i).id = (g.toResult s' i').id ↔ s = s' ∧ i = i' := by
  constructor
  · intro same
    have chars := congrArg String.toList same
    simp only [toResult, String.toList_append, List.append_assoc] at chars
    obtain ⟨scan, number⟩ := append_cons_inj_of_last (Numeral.minus_notMem_ofInt_natCast i)
      (Numeral.minus_notMem_ofInt_natCast i') chars
    have index := Numeral.ofInt_inj (String.toList_inj.mp number)
    exact ⟨String.toList_inj.mp scan, Int.ofNat.inj index⟩
  · rintro ⟨rfl, rfl⟩
    rfl

/-- The identifier of a scan may go on where that of another ends. -/
example (f : Finding) : (f.toResult "a" 12).id = "a-12" ∧ (f.toResult "a-1" 2).id = "a-1-2" :=
  ⟨rfl, rfl⟩

namespace Result

variable {scanId scanId' : String} {fs gs : List Finding} {i i' : Nat} {r r' : Result}

theorem getElem?_ofFindings (scanId : String) (fs : List Finding) (i : Nat) :
    (ofFindings scanId fs)[i]? = fs[i]?.map (Finding.toResult scanId i) := by
  rw [ofFindings, List.getElem?_map, List.getElem?_zipIdx, Option.map_map, Nat.zero_add]
  rfl

/-- Results of numbered findings share an identifier only if scan and number are the same. -/
theorem id_eq_iff_of_ofFindings (here : (ofFindings scanId fs)[i]? = some r)
    (there : (ofFindings scanId' gs)[i']? = some r') :
    r.id = r'.id ↔ scanId = scanId' ∧ i = i' := by
  rw [getElem?_ofFindings, Option.map_eq_some_iff] at here there
  obtain ⟨f, -, rfl⟩ := here
  obtain ⟨g, -, rfl⟩ := there
  exact Finding.id_toResult_eq_iff

end Result
end LeakScan
