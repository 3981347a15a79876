import LeakScan.Proofs.Finding.Coverage
import LeakScan.Proofs.Service.Upload

/-!
# Critical findings

A scan reports a critical finding in a text exactly if a signature of critical severity matches on
one of its lines (`exists_critical_iff`): a sensitive name is of high severity, what is found on a
line has the severity of its signature, and of the findings that are left out for repeating a kind
and a text one was kept. So the count of critical findings in a batch tells whether some file of it
has such a line (`Upload.count_critical_pos_iff`).
-/

namespace LeakScan
set_option autoImplicit false

/-- A signature of critical severity matches on a line of a text. -/
def HoldsCritical (content : String) : Prop :=
  ∃ line ∈ Text.lines content.toList, ∃ s ∈ Signature.known, s.severity = .critical ∧
    ∃ i found, s.pattern.MatchesAt line i found

/-- What is reported as critical was found on a line. -/
theorem mem_inContent_of_critical {file content : String} {f : Finding}
    (reported : f ∈ scanContent file content) (critical : f.severity = .critical) :
    f ∈ Finding.inContent file content := by
  refine mem_inContent_of_mem_scanContent reported fun sensitive => ?_
  rw [scanContent_eq] at reported
  obtain named | kept := List.mem_append.mp reported
  · obtain ⟨name, -, -, rfl⟩ := Finding.mem_inName_iff.mp named
    cases critical
  · exact Finding.kind_ne_of_mem_inContent ((firsts_sublist _ _).subset kept) sensitive

/-- A scan reports a critical finding exactly in a text with a line on which a critical signature
matches. -/
theorem exists_critical_iff (file content : String) :
    (∃ f ∈ scanContent file content, f.severity = .critical) ↔ HoldsCritical content := by
  constructor
  · rintro ⟨f, reported, critical⟩
    obtain ⟨n, line, here, found⟩ :=
      Finding.mem_inContent_iff.mp (mem_inContent_of_critical reported critical)
    obtain ⟨s, known, o, occurs, rfl⟩ := Finding.mem_onLine_iff.mp found
    exact ⟨line, List.mem_of_getElem? here, s, known, critical, o.start, o.text,
      Pattern.matchesAt_of_mem_occurrences occurs⟩
  · rintro ⟨line, member, s, known, critical, i, found, isMatch⟩
    obtain ⟨n, here⟩ := List.mem_iff_getElem?.mp member
    obtain ⟨o, occurs, -⟩ := Pattern.exists_occurrence_over (Signature.least_pos s known) isMatch
    have onLine : (⟨file, s.name, String.ofList o.text, (n + 1 : Nat), s.severity⟩ : Finding) ∈
        Finding.inContent file content :=
      Finding.mem_inContent_iff.mpr
        ⟨n, line, here, Finding.mem_onLine_iff.mpr ⟨s, known, o, occurs, rfl⟩⟩
    obtain ⟨g, reported, -, -, severity⟩ := exists_mem_scanContent_of_inContent onLine
    exact ⟨g, reported, severity.trans critical⟩

/-- Results are as critical as the findings that they come from. -/
theorem Result.countP_ofFindings (scanId : String) (fs : List Finding) (severity : Severity) :
    (ofFindings scanId fs).countP (·.severity = severity) =
      fs.countP (·.severity = severity) := by
  have counted := congrArg (List.countP fun c => c.2.2.2.1 = severity)
    (contents_ofFindings scanId fs)
  rw [List.countP_map, List.countP_map] at counted
  exact counted

namespace Upload

/-- A file has a text with a line on which a critical signature matches. -/
def HoldsCritical (u : Upload) : Prop :=
  ∃ content, u.content.text? = some content ∧ LeakScan.HoldsCritical content

theorem exists_critical_iff (u : Upload) :
    (∃ f ∈ u.findings, f.severity = .critical) ↔ u.HoldsCritical := by
  cases text : u.content.text? with
  | none => simp [findings_eq_nil text, HoldsCritical, text]
  | some content =>
    rw [findings_eq_scanContent text, LeakScan.exists_critical_iff, HoldsCritical]
    simp [text]

/-- Critical findings are counted exactly in a batch with a file on a line of which a critical
signature matches. -/
theorem count_critical_pos_iff (scanId : String) (batch : List Upload) (files : Int) :
    0 < (Stats.ofResults (Result.ofFindings scanId (batch.flatMap findings)) files).critical ↔
      ∃ u ∈ batch, u.HoldsCritical := by
  simp only [Stats.ofResults, Result.countP_ofFindings, List.countP_pos_iff, List.mem_flatMap,
    decide_eq_true_eq, ← exists_critical_iff]
  constructor
  · rintro ⟨f, ⟨u, member, found⟩, critical⟩
    exact ⟨u, member, f, found, critical⟩
  · rintro ⟨u, member, f, found, critical⟩
    exact ⟨f, ⟨u, member, found⟩, critical⟩

end Upload
end LeakScan
