import LeakScan.Finding.Signature
import LeakScan.Pattern.Search
import LeakScan.Text.Part
import Std.Data.HashSet.Basic

/-!
# Finding leaks in a file

The hits of a file are the sensitive names its path holds, then every occurrence of every
signature on every line: by line, then in the order of the signatures, then from left to right.
A scan reports the hits in that order and leaves out a hit whose kind and text were reported
before.
-/

set_option autoImplicit false

namespace LeakScan

/-- A leak in a file: the kind of credential, the text that gave it away, and its line. -/
structure Finding where
  file : String
  kind : String
  text : String
  line : Int
  severity : Severity
deriving DecidableEq, Repr

namespace Finding

/-- The kind of finding that a sensitive name is. -/
def sensitiveKind : String := "Sensitive File"

/-- What two findings of one file share when they are reported once. -/
def key (f : Finding) : String := f.kind ++ ":" ++ f.text

/-- The sensitive names that a path holds, each as a finding on the first line. -/
def inName (file : String) : List Finding :=
  (sensitiveNames.filter fun name => Text.holds name.toList file.toList).map fun name =>
    ⟨file, sensitiveKind, name, 1, .high⟩

/-- The occurrences of one signature on one line. -/
def ofSignature (file : String) (number : Nat) (line : List Char) (s : Signature) : List Finding :=
  (s.pattern.occurrences line).map fun o =>
    ⟨file, s.name, String.ofList o.text, number, s.severity⟩

/-- The occurrences of the known signatures on one line. -/
def onLine (file : String) (number : Nat) (line : List Char) : List Finding :=
  Signature.known.flatMap (ofSignature file number line)

/-- The occurrences of the known signatures in a content, with lines counted from one. -/
def inContent (file content : String) : List Finding :=
  ((Text.lines content.toList).zipIdx 1).flatMap fun l => onLine file l.2 l.1

/-- Findings reported so far, last first, and the keys that are not reported again. -/
structure Ledger where
  seen : Std.HashSet String
  reported : List Finding

/-- Reports a finding unless its key was seen. -/
def Ledger.record (l : Ledger) (f : Finding) : Ledger :=
  if l.seen.contains f.key then l else ⟨l.seen.insert f.key, f :: l.reported⟩

/-- The findings of a list that are new to a set of keys, and the keys then seen. -/
def fresh (seen : Std.HashSet String) (found : List Finding) : List Finding × Std.HashSet String :=
  let l := found.foldl Ledger.record ⟨seen, []⟩
  (l.reported.reverse, l.seen)

end Finding

/-- The sensitive names of a path that are new to a set of keys, and the keys then seen. -/
def detectSensitiveName (file : String) (seen : Std.HashSet String) :
    List Finding × Std.HashSet String :=
  Finding.fresh seen (Finding.inName file)

/-- The leaks of one file. -/
def scanContent (file content : String) : List Finding :=
  (Finding.fresh ∅ (Finding.inName file ++ Finding.inContent file content)).1

end LeakScan
