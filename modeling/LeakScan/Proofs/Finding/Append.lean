import LeakScan.Proofs.Finding.Coverage

/-!
# Appending lines

A scan of two contents with a newline between them reports what a scan of the first reports, and
then what a scan of the second finds on its lines, further down by the lines of the first, less what
the first shows already (`scanContent_append`). So a file can grow at its end without any effect on
the findings that it has.
-/

namespace LeakScan
set_option autoImplicit false

namespace Finding

/-- A finding some lines further down. -/
def lowered (count : Nat) (f : Finding) : Finding :=
  { f with line := f.line + count }

theorem onLine_add (file : String) (number count : Nat) (line : List Char) :
    onLine file (number + count) line = (onLine file number line).map (lowered count) := by
  unfold onLine ofSignature
  rw [List.map_flatMap]
  simp only [List.map_map]
  rfl

/-- Lines that are numbered from further down have their findings further down. -/
theorem onLines_add (file : String) (start count : Nat) (lines : List (List Char)) :
    onLines file (start + count) lines = (onLines file start lines).map (lowered count) := by
  induction lines generalizing start with
  | nil => rfl
  | cons line lines ih =>
    have next : start + count + 1 = start + 1 + count := by omega
    rw [onLines_cons, onLines_cons, List.map_append, next, ih, onLine_add]

/-- The hits of two contents with a newline between them. -/
theorem inContent_append (file a b : String) :
    inContent file (a ++ "\n" ++ b) = inContent file a ++
      (inContent file b).map (lowered (1 + a.toList.count '\n')) := by
  have text : (a ++ "\n" ++ b).toList = a.toList ++ '\n' :: b.toList := by
    rw [String.toList_append, String.toList_append, List.append_assoc]
    rfl
  have cut : Text.lines (a ++ "\n" ++ b).toList = Text.lines a.toList ++ Text.lines b.toList := by
    rw [text]
    exact Text.split_append_cons '\n' a.toList b.toList
  have count : (Text.lines a.toList).length = 1 + a.toList.count '\n' := by
    rw [Text.length_lines, Nat.add_comm]
  rw [inContent_eq_onLines, inContent_eq_onLines, inContent_eq_onLines, cut, onLines_append, count,
    onLines_add]

/-- The kinds and texts that a scan reports beside the sensitive names are those of its hits. -/
theorem pair_mem_scanContent_iff {file content : String} {f : Finding}
    (other : f.kind ≠ sensitiveKind) :
    f.pair ∈ (scanContent file content).map pair ↔
      ∃ g ∈ inContent file content, f.pair = g.pair := by
  rw [List.mem_map]
  constructor
  · rintro ⟨g, reported, same⟩
    have kind : g.kind = f.kind := (Prod.mk.inj same).1
    have found := mem_inContent_of_mem_scanContent reported (kind ▸ other)
    exact ⟨g, found, same.symm⟩
  · rintro ⟨g, found, same⟩
    obtain ⟨h, kept, same'⟩ := exists_mem_firsts pair found
    refine ⟨h, ?_, same'.trans same.symm⟩
    rw [scanContent_eq]
    exact List.mem_append_right _ kept

/-- Of a scan, what is no sensitive name and new to another content. -/
theorem filter_scanContent (file a b : String) :
    ((scanContent file b).filter fun f => f.kind ≠ sensitiveKind ∧
        f.pair ∉ (scanContent file a).map pair) =
      (firsts pair (inContent file b)).filter fun f => ∀ g ∈ inContent file a, f.pair ≠ g.pair := by
  rw [scanContent_eq file b, List.filter_append]
  have noName : (inName file).filter (fun f => f.kind ≠ sensitiveKind ∧
      f.pair ∉ (scanContent file a).map pair) = [] := by
    rw [List.filter_eq_nil_iff]
    intro f named keeps
    have both := of_decide_eq_true keeps
    exact both.1 (kind_of_mem_inName named)
  rw [noName, List.nil_append]
  apply List.filter_congr
  intro f kept
  have other := kind_ne_of_mem_inContent ((firsts_sublist _ _).subset kept)
  simp [pair_mem_scanContent_iff other, other]

end Finding

open Finding in
/-- **Appended lines only add findings.** Of two contents with a newline between them a scan reports
the findings of the first, unchanged, and then the findings on the lines of the second whose kind
and text the first does not have, in their order, each further down by the lines of the first. -/
theorem scanContent_append (file a b : String) :
    scanContent file (a ++ "\n" ++ b) = scanContent file a ++
        ((scanContent file b).filter fun f => f.kind ≠ sensitiveKind ∧
          f.pair ∉ (scanContent file a).map pair).map (lowered (1 + a.toList.count '\n')) ∧
      scanContent file a <+: scanContent file (a ++ "\n" ++ b) := by
  refine (and_iff_left_of_imp fun law => ?_).mpr ?_
  · rw [law]
    exact List.prefix_append _ _
  · rw [filter_scanContent]
    calc scanContent file (a ++ "\n" ++ b)
      _ = inName file ++ firsts pair (inContent file a ++
            (inContent file b).map (lowered (1 + a.toList.count '\n'))) := by
          rw [scanContent_eq, inContent_append]
      _ = inName file ++ firsts pair (inContent file a) ++
            (firsts pair ((inContent file b).map (lowered (1 + a.toList.count '\n')))).filter
              fun f => ∀ g ∈ inContent file a, f.pair ≠ g.pair := by
          rw [firsts_append, List.append_assoc]
      _ = _ := by
          -- Neither the kind nor the text of a finding depends on its line.
          rw [scanContent_eq, firsts_map, List.filter_map]
          rfl

end LeakScan
