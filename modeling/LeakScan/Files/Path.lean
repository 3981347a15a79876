import LeakScan.Text.Part

/-!
# Paths

A path leads from the current folder, or from the top of all folders, through names to a file or
folder. Empty names and names of a single dot lead nowhere and are left out of it; a name of two
dots leads to the folder above and stays.
-/

set_option autoImplicit false

namespace LeakScan

/-- A path. `root` is the text it starts with: nothing, or one or two slashes. -/
structure FilePath where
  root : String
  parts : List String
deriving DecidableEq, Repr

namespace FilePath

/-- The slashes that a path starts with: two slashes stay two, three or more are one. -/
def rootOf : List Char → String
  | '/' :: '/' :: '/' :: _ => "/"
  | '/' :: '/' :: _ => "//"
  | '/' :: _ => "/"
  | _ => ""

/-- The pieces of a text between its slashes. -/
def pieces (s : String) : List String :=
  (Text.split '/' s.toList).map String.ofList

/-- The path that a text describes. -/
def ofText (s : String) : FilePath where
  root := rootOf s.toList
  parts := (pieces s).filter fun p => p != "" && p != "."

/-- A path as text; the current folder is a dot. -/
def text (p : FilePath) : String :=
  if p.root = "" && p.parts.isEmpty then "." else p.root ++ "/".intercalate p.parts

/-- The path of a name below a path. -/
def child (p : FilePath) (name : String) : FilePath := { p with parts := p.parts ++ [name] }

/-- The last name of a path, or nothing. -/
def name (p : FilePath) : String := p.parts.getLast?.getD ""

/-- The names of a path with its slashes in front. -/
def steps (p : FilePath) : List String :=
  if p.root = "" then p.parts else p.root :: p.parts

/-- The last two steps of a path, with a slash between them. -/
def ending (p : FilePath) : String :=
  "/".intercalate (p.steps.drop (p.steps.length - 2))

end FilePath
end LeakScan
