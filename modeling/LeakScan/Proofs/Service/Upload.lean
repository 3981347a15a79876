import LeakScan.Proofs.Finding.Scan
import LeakScan.Proofs.Service.Job
import LeakScan.Proofs.Session.Report

/-!
# Scans of uploaded files

A scan of uploaded files ends complete with what it finds in the files that have a text, one after
another. A file of bytes has the text whose UTF-8 form the bytes are (`Content.text?_eq_some_iff`);
bytes that are no such form have none, and then the file adds a warning and nothing else. So the
report depends on the names and texts of the files only, not on the form that a text came in, nor
does a file without a text touch what is reported of the others.
-/

namespace LeakScan
set_option autoImplicit false

theorem Text.Utf8.decode_eq_ok_iff {bytes : ByteArray} {s : String} :
    Text.Utf8.decode bytes = .ok s ↔ bytes = s.toUTF8 := by
  unfold decode String.fromUTF8?
  constructor
  · intro decoded
    split at decoded
    · rename_i valid
      split at valid
      · cases valid
        cases decoded
        rfl
      · cases valid
    · cases decoded
  · rintro rfl
    rw [String.toUTF8_eq_toByteArray, dif_pos s.isValidUTF8]
    rfl

theorem eq_ok_of_toOption {ε α : Type} {x : Except ε α} {a : α} (found : x.toOption = some a) :
    x = .ok a := by
  cases x with
  | error e => cases found
  | ok b => exact congrArg _ (Option.some.inj found)

/-- The text of what an uploaded file holds, if it has one. -/
def Content.text? : Content → Option String
  | .text s => some s
  | .bytes b => (Text.Utf8.decode b).toOption
  | .absent => none

theorem Content.text?_eq_some_iff {c : Content} {s : String} :
    c.text? = some s ↔ c = .text s ∨ c = .bytes s.toUTF8 := by
  cases c with
  | text t => simp [text?]
  | bytes b =>
    simp only [text?, reduceCtorEq, false_or, bytes.injEq, ← Text.Utf8.decode_eq_ok_iff]
    cases Text.Utf8.decode b <;> simp [Except.toOption]
  | absent => simp [text?]

namespace Upload

/-- What a scan finds in an uploaded file: nothing if the file has no text. -/
def findings (f : Upload) : List Finding :=
  match f.content.text? with
  | some s => scanContent f.name s
  | none => []

/-- The warning that an uploaded file adds, if any. -/
def warning? (f : Upload) : Option String :=
  match f.content with
  | .bytes b =>
    match Text.Utf8.decode b with
    | .ok _ => none
    | .error e => some (Course.fileWarning f.name e.message)
  | _ => none

/-- The same file with the UTF-8 form of its text in place of the text. -/
def asBytes (f : Upload) : Upload :=
  match f.content with
  | .text s => ⟨f.name, .bytes s.toUTF8⟩
  | _ => f

theorem findings_eq_scanContent {f : Upload} {s : String} (text : f.content.text? = some s) :
    f.findings = scanContent f.name s := by
  rw [findings, text]

theorem findings_eq_nil {f : Upload} (textless : f.content.text? = none) : f.findings = [] := by
  rw [findings, textless]

theorem findings_asBytes (f : Upload) : f.asBytes.findings = f.findings := by
  obtain ⟨name, content⟩ := f
  cases content with
  | text s =>
    have text : (Content.bytes s.toUTF8).text? = some s :=
      Content.text?_eq_some_iff.mpr (Or.inr rfl)
    exact findings_eq_scanContent text
  | bytes b => rfl
  | absent => rfl

theorem asBytes_scannable {f : Upload} (scannable : f.content ≠ .absent) :
    f.asBytes.content ≠ .absent := by
  obtain ⟨name, content⟩ := f
  cases content <;> simp_all [asBytes]

theorem isSome_warning? {f : Upload} (scannable : f.content ≠ .absent) :
    f.warning?.isSome = true ↔ f.content.text? = none := by
  obtain ⟨name, content⟩ := f
  cases content with
  | text s => simp [warning?, Content.text?]
  | bytes b => cases decoded : Text.Utf8.decode b <;>
      simp [warning?, Content.text?, decoded, Except.toOption]
  | absent => exact absurd rfl scannable

end Upload

namespace Course

/-- One file adds its warning and its findings. -/
theorem ofUploadsFrom_cons (total i : Nat) {f : Upload} (scannable : f.content ≠ .absent)
    (files : List Upload) :
    let rest := ofUploadsFrom total (i + 1) files
    (ofUploadsFrom total i (f :: files)).requests = rest.requests ∧
      (ofUploadsFrom total i (f :: files)).warnings = f.warning?.toList ++ rest.warnings ∧
      (ofUploadsFrom total i (f :: files)).ending = rest.ending.preceded f.findings := by
  obtain ⟨name, content⟩ := f
  cases content with
  | text s => exact ⟨rfl, rfl, rfl⟩
  | bytes b =>
    cases decoded : Text.Utf8.decode b with
    | ok s =>
      simp [ofUploadsFrom, announcing, finding, decoded, Upload.findings, Upload.warning?,
        Content.text?, Except.toOption]
    | error e =>
      simp [ofUploadsFrom, announcing, warning, decoded, Upload.findings, Upload.warning?,
        Content.text?, Except.toOption]
  | absent => exact absurd rfl scannable

/-- A course of uploaded files makes no request, warns of every file without a text and ends with
the findings in the others. -/
theorem ofUploadsFrom_eq (total i : Nat) {files : List Upload}
    (scannable : ∀ f ∈ files, f.content ≠ .absent) :
    (ofUploadsFrom total i files).requests = [] ∧
      (ofUploadsFrom total i files).warnings = files.flatMap (fun f => f.warning?.toList) ∧
      (ofUploadsFrom total i files).ending = .found (files.flatMap Upload.findings) total := by
  induction files generalizing i with
  | nil => exact ⟨rfl, rfl, rfl⟩
  | cons f files ih =>
    obtain ⟨first, others⟩ := List.forall_mem_cons.mp scannable
    obtain ⟨requests, warnings, ending⟩ := ih (i + 1) others
    obtain ⟨requests', warnings', ending'⟩ := ofUploadsFrom_cons total i first files
    refine ⟨requests'.trans requests, ?_, ?_⟩
    · rw [warnings', warnings, List.flatMap_cons]
    · rw [ending', ending, List.flatMap_cons]
      rfl

end Course

/-! ## The end of a scan -/

/-- How the session of an uploaded batch ends, and what is shown of its run. -/
structure UploadOutcome {T : Type} (id : String) (files : List Upload) (ended : Session T)
    (trace : Trace) : Prop where
  identified : ended.id = id
  /-- The findings are those in the files that have a text, in the order of the batch. -/
  found : ended.Found (files.flatMap Upload.findings) files.length
  requests : trace.requests = []
  warnings : trace.logs = (files.flatMap fun f => f.warning?.toList).map .warning

namespace Service

variable {T : Type}

/-- The session at `place` after the job at `index` was run. -/
def sessionAfter (s : Service T) (host : Host) (now : T) (listings index place : Nat) :
    Option (Session T) :=
  (s.run host now listings index).1.sessions[place]?

/-- A session that a run of the job of an uploaded batch left, in any service, at any time. -/
inductive Uploaded (files : List Upload) (ended : Session T) : Prop where
  | run {s : Service T} {index place : Nat} {session : Session T}
      (awaits : s.Awaits index place session (.upload files)) (host : Host) (now : T)
      (listings : Nat) (left : s.sessionAfter host now listings index place = some ended)

variable {s : Service T} {index place : Nat} {session ended : Session T} {files : List Upload}

theorem sessionAfter_upload (awaits : s.Awaits index place session (.upload files))
    (scannable : ∀ f ∈ files, f.content ≠ .absent) (host : Host) (now : T) (listings : Nat) :
    s.sessionAfter host now listings index place = some { session with
      phase := .complete (Result.ofFindings session.id (files.flatMap Upload.findings))
        files.length now } := by
  obtain ⟨-, -, ending⟩ := Course.ofUploadsFrom_eq files.length 0 scannable
  have going : session.isTerminal = false := by
    simp [Session.isTerminal, Session.state, awaits.pending, ScanState.isTerminal]
  rw [sessionAfter, (run_awaiting awaits host now listings).1]
  exact congrArg some (Session.follow_found going now ending)

theorem uploadOutcome (awaits : s.Awaits index place session (.upload files))
    (scannable : ∀ f ∈ files, f.content ≠ .absent) (host : Host) (now : T) (listings : Nat) :
    UploadOutcome session.id files { session with
      phase := .complete (Result.ofFindings session.id (files.flatMap Upload.findings))
        files.length now } (s.run host now listings index).2 := by
  obtain ⟨requests, warnings, ending⟩ := Course.ofUploadsFrom_eq files.length 0 scannable
  obtain ⟨-, requests', logs⟩ := run_awaiting awaits host now listings
  constructor
  · rfl
  · exact Session.found_of_phase rfl
  · exact requests'.trans requests
  · rw [logs]
    simp only [Course.ofTask, Course.ofUploads, Course.logs, warnings, ending, Ending.logs,
      List.append_nil]

theorem Uploaded.found (uploaded : Uploaded files ended)
    (scannable : ∀ f ∈ files, f.content ≠ .absent) :
    ended.Found (files.flatMap Upload.findings) files.length := by
  obtain ⟨awaits, host, now, listings, left⟩ := uploaded
  rw [sessionAfter_upload awaits scannable host now listings] at left
  cases left
  exact Session.found_of_phase rfl

/-- A file without a text changes nothing of what is reported of the others. -/
theorem Uploaded.contents_insert {before after : List Upload} {bad : Upload}
    {others : Session T} (uploaded : Uploaded (before ++ bad :: after) ended)
    (without : Uploaded (before ++ after) others)
    (scannable : ∀ f ∈ before ++ bad :: after, f.content ≠ .absent)
    (textless : bad.content.text? = none) :
    ended.results.map Result.contents = others.results.map Result.contents := by
  have rest : ∀ f ∈ before ++ after, f.content ≠ .absent := by
    intro f member
    obtain first | last := List.mem_append.mp member
    · exact scannable f (List.mem_append_left _ first)
    · exact scannable f (List.mem_append_right _ (List.mem_cons_of_mem _ last))
  rw [(uploaded.found scannable).contents, (without.found rest).contents]
  simp [Upload.findings_eq_nil textless]

/-- Texts and their UTF-8 forms give the same report. -/
theorem Uploaded.report_asBytes {encoded : Session T} (uploaded : Uploaded files ended)
    (again : Uploaded (files.map Upload.asBytes) encoded)
    (scannable : ∀ f ∈ files, f.content ≠ .absent) :
    encoded.report.contents = ended.report.contents := by
  have scannable' : ∀ f ∈ files.map Upload.asBytes, f.content ≠ .absent := by
    intro f member
    obtain ⟨g, original, rfl⟩ := List.mem_map.mp member
    exact Upload.asBytes_scannable (scannable g original)
  rw [(uploaded.found scannable).report_contents, (again.found scannable').report_contents]
  simp only [List.flatMap_map, Upload.findings_asBytes, List.length_map]

/-- **A scan of uploaded files completes** with what it finds in the files that have a text, in
the order of the batch. The request is accepted whatever else the service holds, and its job may
be run from any service in which it waits. A file without a text adds a warning and changes
nothing of what is reported of the others, and texts and their UTF-8 forms give the same report. -/
theorem upload_scan_completes [Time T] (nonempty : files ≠ [])
    (scannable : ∀ f ∈ files, f.content ≠ .absent) :
    (∀ (s : Service T) (now : T) (id : String), s.nextId now = .ok id →
      ∃ accepted, s.start now (.upload files) = .ok (accepted, id) ∧
        accepted.Awaits s.queue.length s.sessions.length
          (.create id "upload" (Task.source (.upload files))) (.upload files)) ∧
    (∀ (s : Service T) (index place : Nat) (session : Session T),
      s.Awaits index place session (.upload files) →
      ∀ (host : Host) (now : T) (listings : Nat), ∃ ended,
        s.sessionAfter host now listings index place = some ended ∧
        UploadOutcome session.id files ended (s.run host now listings index).2) ∧
    (∀ ended : Session T, Uploaded files ended →
      (∀ before bad after, files = before ++ bad :: after → bad.content.text? = none →
        ∀ others : Session T, Uploaded (before ++ after) others →
          ended.results.map Result.contents = others.results.map Result.contents) ∧
      ∀ encoded : Session T, Uploaded (files.map Upload.asBytes) encoded →
        encoded.report.contents = ended.report.contents) ∧
    (∀ (c : Content) (t : String), c.text? = some t ↔ c = .text t ∨ c = .bytes t.toUTF8) ∧
    ∀ f ∈ files, f.warning?.isSome = true ↔ f.content.text? = none := by
  refine ⟨?_, ?_, ?_, fun _ _ => Content.text?_eq_some_iff,
    fun f member => Upload.isSome_warning? (scannable f member)⟩
  · intro s now id named
    have asked : Task.ofRequest s.limit (.upload files) = .ok (.upload files) := by
      simp [Task.ofRequest, nonempty]
    exact start_awaits asked named
  · intro s index place session awaits host now listings
    exact ⟨_, sessionAfter_upload awaits scannable host now listings,
      uploadOutcome awaits scannable host now listings⟩
  · intro ended uploaded
    constructor
    · rintro before bad after rfl textless others without
      exact uploaded.contents_insert without scannable textless
    · intro encoded again
      exact uploaded.report_asBytes again scannable

theorem millis_zero : Time.millis Double.zero = .ok 0 :=
  eq_ok_of_toOption (by decide +kernel)

theorem upload_scan_completes_mixed :
    let files : List Upload :=
      [⟨"a.py", .text "b"⟩, ⟨"c.bin", .bytes ⟨#[0xff]⟩⟩, ⟨".env", .bytes "b".toUTF8⟩]
    ∃ accepted, (create 50 (.create "" .never) Double.zero none []).start Double.zero
        (.upload files) = .ok (accepted, scanId 0 1) ∧
      ∃ ended, accepted.sessionAfter (fun _ _ => .unreachable "") Double.zero 0 0 0 = some ended ∧
        ended.state = .complete ∧ ended.stats.totalFiles = 3 ∧
        ended.results.map Result.contents = [(".env", "Sensitive File", ".env", .high, some 1)] ∧
        (accepted.run (fun _ _ => .unreachable "") Double.zero 0 0).2.logs.length = 1 := by
  intro files
  have nonempty : files ≠ [] := by simp [files]
  have scannable : ∀ f ∈ files, f.content ≠ .absent := by simp [files]
  have clock : (create 50 (.create "" .never) Double.zero none []).nextId Double.zero =
      .ok (scanId 0 1) := by
    rw [nextId, millis_zero]
    rfl
  obtain ⟨starts, runs, -⟩ := @upload_scan_completes Double files _ nonempty scannable
  obtain ⟨accepted, started, awaits⟩ :=
    starts (create 50 (.create "" .never) .zero none []) .zero (scanId 0 1) clock
  obtain ⟨ended, left, outcome⟩ := runs accepted 0 0 _ awaits (fun _ _ => .unreachable "") .zero 0
  have first : (⟨"a.py", .text "b"⟩ : Upload).findings = [] := by
    rw [Upload.findings_eq_scanContent rfl, scanContent_eq]
    decide +kernel
  have second : (⟨"c.bin", .bytes ⟨#[0xff]⟩⟩ : Upload).findings = [] :=
    Upload.findings_eq_nil (by decide +kernel)
  have third : (⟨".env", .bytes "b".toUTF8⟩ : Upload).findings =
      [⟨".env", "Sensitive File", ".env", 1, .high⟩] := by
    rw [Upload.findings_eq_scanContent (Content.text?_eq_some_iff.mpr (Or.inr rfl)),
      scanContent_eq]
    decide +kernel
  refine ⟨accepted, started, ended, left, outcome.found.complete, outcome.found.totalFiles, ?_, ?_⟩
  · rw [outcome.found.contents]
    simp only [files, List.flatMap_cons, List.flatMap_nil, first, second, third]
    rfl
  · rw [outcome.warnings]
    decide +kernel

end Service
end LeakScan
