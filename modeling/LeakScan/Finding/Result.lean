import LeakScan.Finding.Basic
import LeakScan.Json.Basic

/-!
# Results

A result is a finding with an identifier of its own: the scan's identifier and the finding's
place in the report. As JSON it is an object of six fields. Reading one back takes any value for
its texts, shown plainly, but insists on a severity and on a line that is a number.
-/

set_option autoImplicit false

namespace LeakScan

/-- A finding of a scan, with its identifier. -/
structure Result where
  id : String
  file : String
  kind : String
  text : String
  severity : Severity
  line : Option Int
deriving DecidableEq, Repr

/-- The result that a finding becomes as number `index` of a scan's report. -/
def Finding.toResult (scanId : String) (index : Nat) (f : Finding) : Result where
  id := scanId ++ "-" ++ Numeral.ofInt index
  file := f.file
  kind := f.kind
  text := f.text
  severity := f.severity
  line := some f.line

namespace Result

/-- The results that the findings of a scan become, numbered from zero. -/
def ofFindings (scanId : String) (fs : List Finding) : List Result :=
  fs.zipIdx.map fun f => f.1.toResult scanId f.2

/-- A result as a JSON object. -/
def toJson (r : Result) : Json :=
  .obj [("id", .str r.id), ("file", .str r.file), ("type", .str r.kind), ("match", .str r.text),
    ("severity", .str r.severity.name), ("line", (r.line.map Json.int).getD .null)]

/-- Why a JSON value is not a result. -/
inductive Fault where
  | notAnObject
  | missing (key : String)
  | unknownSeverity (value : Json)
  | lineNotANumber (value : Json)
  | lineMalformed (text : Text.Loose)
  | lineTooLong (digits : Nat)
  | lineNotWhole (fault : Double.WholeFault)
deriving Repr

/-- The number that a line field stands for. -/
def lineOf : Json → Except Fault (Option Int)
  | .null => .ok none
  | .bool b => .ok (some (if b then 1 else 0))
  | .int i => .ok (some i)
  | .num d =>
    match d.truncate with
    | .ok i => .ok (some i)
    | .error e => .error (.lineNotWhole e)
  | .str s =>
    match Numeral.toInt s.repaired with
    | .ok i => .ok (some i)
    | .error .malformed => .error (.lineMalformed s)
    | .error (.tooLong n) => .error (.lineTooLong n)
  | v => .error (.lineNotANumber v)

/-- The severity that a field stands for. -/
def severityOf : Json → Except Fault Severity
  | .str s =>
    match s.whole?.bind Severity.ofName? with
    | some v => .ok v
    | none => .error (.unknownSeverity (.str s))
  | v => .error (.unknownSeverity v)

/-- A required field. -/
def field (key : String) (fields : Json.Fields) : Except Fault Json :=
  match Json.lookup key fields with
  | some v => .ok v
  | none => .error (.missing key)

/-- Reads a result. The faults are looked for in the order of the fields, the line's last. -/
def ofJson : Json → Except Fault Result
  | .obj fields => do
    let line := (Json.lookup "line" fields).getD .null
    let id ← field "id" fields
    let file ← field "file" fields
    let kind ← field "type" fields
    let text ← field "match" fields
    let severity ← severityOf (← field "severity" fields)
    let line ← lineOf line
    return ⟨id.plain, file.plain, kind.plain, text.plain, severity, line⟩
  | _ => .error .notAnObject

end Result

/-- How many files a scan took in and how many leaks of each severity it found. -/
structure Stats where
  totalFiles : Int
  totalLeaks : Nat
  critical : Nat
  high : Nat
  medium : Nat
  low : Nat
deriving DecidableEq, Repr

namespace Stats

/-- The statistics of a scan that has found nothing yet. -/
def none : Stats := ⟨0, 0, 0, 0, 0, 0⟩

/-- The statistics of some results. -/
def ofResults (results : List Result) (totalFiles : Int) : Stats where
  totalFiles := totalFiles
  totalLeaks := results.length
  critical := results.countP (·.severity = .critical)
  high := results.countP (·.severity = .high)
  medium := results.countP (·.severity = .medium)
  low := results.countP (·.severity = .low)

/-- Statistics as a JSON object. -/
def toJson (s : Stats) : Json :=
  .obj [("total_files", .int s.totalFiles), ("total_leaks", .int s.totalLeaks),
    ("critical_leaks", .int s.critical), ("high_leaks", .int s.high),
    ("medium_leaks", .int s.medium), ("low_leaks", .int s.low)]

end Stats
end LeakScan
