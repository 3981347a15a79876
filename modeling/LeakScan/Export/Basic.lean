import LeakScan.Export.Csv
import LeakScan.Json.Reader
import LeakScan.Json.Writer

/-!
# Exporting results

Results are exported as an indented JSON list or as comma-separated values. The JSON form can be
read back.
-/

set_option autoImplicit false

namespace LeakScan

/-- A form in which results are exported. -/
inductive ExportFormat where
  | json
  | csv
deriving DecidableEq, Repr

namespace ExportFormat

/-- Every format. -/
def all : List ExportFormat := [json, csv]

def name : ExportFormat → String
  | json => "json"
  | csv => "csv"

/-- The format of a name. -/
def ofName? (s : String) : Option ExportFormat :=
  all.find? (·.name = s)

end ExportFormat

namespace Export

/-- Results as an indented JSON list. -/
def json (results : List Result) : String :=
  (Json.arr (results.map Result.toJson)).indented

/-- Results in a format. -/
def text (results : List Result) : ExportFormat → String
  | .json => json results
  | .csv => csv results

/-- A format that no export knows. -/
structure UnknownFormat where
  format : String
deriving DecidableEq, Repr

def UnknownFormat.message (e : UnknownFormat) : String :=
  "Unsupported export format: " ++ Text.quoted e.format

/-- Results in the format of a name. -/
def named (results : List Result) (format : String) : Except UnknownFormat String :=
  match ExportFormat.ofName? format with
  | some f => .ok (text results f)
  | none => .error ⟨format⟩

/-- Why a text is not an export. -/
inductive Fault where
  | unreadable (fault : Json.Fault)
  | notAList
  | badResult (fault : Result.Fault)
deriving Repr

/-- What is said of a fault, where something is said. -/
def Fault.message : Fault → Option String
  | unreadable fault => fault.message
  | notAList => some "Expected a JSON array of scan results"
  | badResult .notAnObject => none
  | badResult (.missing key) => some (Text.quoted key)
  | badResult (.unknownSeverity v) => some (v.shown ++ " is not a valid Severity")
  | badResult (.lineNotANumber _) => none
  | badResult (.lineMalformed s) => some (Numeral.malformedMessage 10 s)
  | badResult (.lineTooLong n) => some (Numeral.tooLongMessage n)
  | badResult (.lineNotWhole fault) => some fault.message

/-- Reads the items of an export. -/
def ofItems : List Json → Except Fault (List Result)
  | [] => .ok []
  | v :: vs =>
    match Result.ofJson v with
    | .error e => .error (.badResult e)
    | .ok r =>
      match ofItems vs with
      | .error e => .error e
      | .ok rs => .ok (r :: rs)

/-- Reads the JSON form back. -/
def ofJsonText (s : String) : Except Fault (List Result) :=
  match Json.ofText s with
  | .error e => .error (.unreadable e)
  | .ok (.arr vs) => ofItems vs
  | .ok _ => .error .notAList

end Export
end LeakScan
