import LeakScan.Session.Basic

/-!
# Reports of findings

A session that has ended with findings (`Session.Found`) reports them in their order, numbered from
zero behind its own identifier, and counts them. Identifiers apart, two such sessions with the same
findings in the same number of files report the same (`Found.report_contents`). A session that has
failed (`Session.Failed`) reports the reason, no findings and no files.
-/

namespace LeakScan
set_option autoImplicit false

/-- What a result says: file, kind, text, severity and line. -/
def Result.contents (r : Result) : String × String × String × Severity × Option Int :=
  (r.file, r.kind, r.text, r.severity, r.line)

/-- What a finding says, as a result of it does. -/
def Finding.contents (f : Finding) : String × String × String × Severity × Option Int :=
  (f.file, f.kind, f.text, f.severity, some f.line)

/-- What a report says, identifiers left out. -/
def Report.contents (r : Report) :
    Bool × List (String × String × String × Severity × Option Int) × Stats × String :=
  (r.success, r.results.map Result.contents, r.stats, r.message)

namespace Result

theorem length_ofFindings (scanId : String) (fs : List Finding) :
    (ofFindings scanId fs).length = fs.length := by
  rw [ofFindings, List.length_map, List.length_zipIdx]

theorem contents_ofFindings (scanId : String) (fs : List Finding) :
    (ofFindings scanId fs).map contents = fs.map Finding.contents := by
  conv => rhs; rw [← List.zipIdx_map_fst 0 fs]
  simp only [ofFindings, List.map_map]
  rfl

theorem id_ofFindings (scanId : String) (fs : List Finding) :
    (ofFindings scanId fs).map id =
      (List.range fs.length).map fun i => scanId ++ "-" ++ toString i := by
  rw [List.range_eq_range', ← List.zipIdx_map_snd 0 fs, ofFindings, List.map_map, List.map_map]
  rfl

end Result

/-- Statistics count what results say, not their identifiers. -/
theorem Stats.ofResults_congr {results others : List Result}
    (same : results.map Result.contents = others.map Result.contents) (totalFiles : Int) :
    ofResults results totalFiles = ofResults others totalFiles := by
  have size : results.length = others.length := by
    simpa only [List.length_map] using congrArg List.length same
  have count (severity : Severity) :
      results.countP (·.severity = severity) = others.countP (·.severity = severity) := by
    have counted := congrArg (List.countP fun c => c.2.2.2.1 = severity) same
    rw [List.countP_map, List.countP_map] at counted
    exact counted
  simp only [ofResults, size, count]

namespace Session

variable {T : Type} {s : Session T} {fs : List Finding} {files : Nat}

/-- A session is complete with some findings in a number of files. -/
structure Found (s : Session T) (fs : List Finding) (files : Nat) : Prop where
  complete : s.state = .complete
  totalFiles : s.stats.totalFiles = files
  /-- The results are the findings, in their order. -/
  contents : s.results.map Result.contents = fs.map Finding.contents
  ids : s.results.map Result.id =
    (List.range s.results.length).map fun i => s.id ++ "-" ++ toString i
  stats : s.stats = .ofResults s.results files

theorem found_of_phase {now : T}
    (ended : s.phase = .complete (Result.ofFindings s.id fs) files now) : s.Found fs files := by
  have results : s.results = Result.ofFindings s.id fs := by rw [Session.results, ended]
  have stats : s.stats = .ofResults s.results files := by rw [results, Session.stats, ended]
  constructor
  · rw [state, ended]
  · rw [stats]
    rfl
  · rw [results, Result.contents_ofFindings]
  · rw [results, Result.length_ofFindings, Result.id_ofFindings]
  · exact stats

/-- A report tells the findings and the number of files, and nothing else but identifiers. -/
theorem Found.report_contents (found : s.Found fs files) :
    s.report.contents =
      (true, fs.map Finding.contents, .ofResults (Result.ofFindings "" fs) files,
        "Scan completed successfully") := by
  have same : s.results.map Result.contents = (Result.ofFindings "" fs).map Result.contents := by
    rw [found.contents, Result.contents_ofFindings]
  have stats : s.stats = .ofResults (Result.ofFindings "" fs) files := by
    rw [found.stats, Stats.ofResults_congr same]
  simp only [Report.contents, report, found.contents, stats, found.complete]
  rfl

/-- A session has failed for a reason. -/
structure Failed (s : Session T) (reason : String) : Prop where
  failed : s.state = .failed
  status : s.status = "Scan failed: " ++ reason
  results : s.results = []
  stats : s.stats = .none
  report : s.report = ⟨false, [], .none, "Scan failed: " ++ reason⟩

theorem failed_of_phase {reason : String} {now : T} (ended : s.phase = .failed reason now) :
    s.Failed reason := by
  obtain ⟨id, kind, source, phase⟩ := s
  cases ended
  exact ⟨rfl, rfl, rfl, rfl, rfl⟩

end Session
end LeakScan
