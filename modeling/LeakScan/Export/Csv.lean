import LeakScan.Finding.Result

/-!
# Results as comma-separated values

One line of headers, then a line a result. The file, the kind and the text stand between double
quotes, a quote inside them written twice; the severity stands bare, and so does the line, which
is empty when there is none. Lines are separated by a newline and the last one ends without.
-/

set_option autoImplicit false

namespace LeakScan.Export

/-- A field between quotes, a quote inside it doubled. -/
def quotedField (s : String) : String :=
  String.ofList ('"' :: s.toList.flatMap (fun c => if c = '"' then ['"', '"'] else [c]) ++ ['"'])

/-- The names of the columns. -/
def headers : String := "File,Type,Match,Severity,Line"

/-- The line of one result. -/
def row (r : Result) : String :=
  ",".intercalate [quotedField r.file, quotedField r.kind, quotedField r.text, r.severity.name,
    (r.line.map Numeral.ofInt).getD ""]

/-- Results as comma-separated values. -/
def csv (results : List Result) : String :=
  "\n".intercalate (headers :: results.map row)

end LeakScan.Export
