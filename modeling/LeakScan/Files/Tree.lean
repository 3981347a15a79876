import LeakScan.Files.Path
import LeakScan.Text.Quoted

/-!
# Trees of files

A folder holds files, symbolic links and folders under names. All that there is stands below one
topmost folder, and the current folder is one of those below it. A path is followed from either of
them through the names; a link on the way is followed to its target, at most `maxLinks` times. Above
the topmost folder is that folder itself. Neither a path nor a name in it may be too long, and a
path may not hold the character zero.
-/

set_option autoImplicit false

namespace LeakScan

/-- What stands under a name in a folder. -/
inductive Node where
  | file (content : ByteArray) (readable : Bool)
  | link (target : String)
  | folder (entries : List (String × Node))

/-- Why a file cannot be had. -/
inductive FileFault where
  | missing
  | denied
  | notAFolder
  | isAFolder
  | tooLong
  | tooManyLinks
  | holdsZero
deriving DecidableEq, Repr

namespace FileFault

/-- The number of a fault. -/
def number : FileFault → Nat
  | missing => 2
  | denied => 13
  | notAFolder => 20
  | isAFolder => 21
  | tooLong => 36
  | tooManyLinks => 40
  | holdsZero => 22

/-- The words for a fault. -/
def words : FileFault → String
  | missing => "No such file or directory"
  | denied => "Permission denied"
  | notAFolder => "Not a directory"
  | isAFolder => "Is a directory"
  | tooLong => "File name too long"
  | tooManyLinks => "Too many levels of symbolic links"
  | holdsZero => "embedded null byte"

/-- What is said of a fault with a file. A path that holds the character zero is no path, so
nothing but that is said of it. -/
def message (e : FileFault) (path : String) : String :=
  if e = holdsZero then e.words
  else "[Errno " ++ toString e.number ++ "] " ++ e.words ++ ": " ++ Text.quoted path

/-- Whether a fault only says that nothing is there. -/
def isAbsence : FileFault → Bool
  | missing | notAFolder | tooManyLinks | holdsZero => true
  | denied | isAFolder | tooLong => false

end FileFault

/-- What stands in the topmost folder, and the names that lead from there to the current folder. A
current folder that is gone is empty. -/
structure FileTree where
  top : List (String × Node)
  names : List String

namespace FileTree

/-- What stands under a name among some entries. -/
def entry? (name : String) : List (String × Node) → Option Node
  | [] => none
  | (n, node) :: es => if n = name then some node else entry? name es

/-- Puts an entry in place of the one of its name, or at the end. -/
def put (name : String) (node : Node) : List (String × Node) → List (String × Node)
  | [] => [(name, node)]
  | (n, old) :: es => if n = name then (n, node) :: es else (n, old) :: put name node es

/-- The entries of the folder of a name; there are none where no folder is. -/
def inner (name : String) (entries : List (String × Node)) : List (String × Node) :=
  match entry? name entries with
  | some (.folder below) => below
  | _ => []

/-- Puts a node under some names, in folders that are made where they are missing. A folder that
is there stays when a folder is put. -/
def place (node : Node) : (names : List String) → List (String × Node) → List (String × Node)
  | [], entries => entries
  | [name], entries =>
    match node, entry? name entries with
    | .folder _, some (.folder _) => entries
    | node, _ => put name node entries
  | name :: names, entries => put name (.folder (place node names (inner name entries))) entries

/-- How many links a path may lead through. -/
def maxLinks : Nat := 40

/-- How many bytes a name may have. -/
def maxNameBytes : Nat := 255

/-- How many bytes a path has too many. -/
def maxPathBytes : Nat := 4096

/-- A folder that is being followed through: its entries, and those of the folders above it. -/
structure Position where
  here : List (String × Node)
  above : List (List (String × Node))

namespace Position

/-- The folder above; the topmost folder stays. -/
def up (p : Position) : Position :=
  match p.above with
  | [] => p
  | here :: above => ⟨here, above⟩

/-- The folder with some entries below. -/
def down (p : Position) (entries : List (String × Node)) : Position :=
  ⟨entries, p.here :: p.above⟩

/-- The folder that some names of folders lead to. -/
def through (p : Position) : (names : List String) → Position
  | [] => p
  | name :: names => (p.down (inner name p.here)).through names

/-- The topmost folder. -/
def root (p : Position) : Position := ⟨p.above.getLast?.getD p.here, []⟩

/-- The folder that a text leads from: the topmost one if the text begins with a slash. -/
def startOf (p : Position) (s : String) : Position :=
  if FilePath.rootOf s.toList = "" then p else p.root

end Position

/-- Follows names from a position. -/
def follow (links : Nat) (p : Position) : (names : List String) → Except FileFault Node
  | [] => .ok (.folder p.here)
  | name :: names =>
    if name = "" || name = "." then follow links p names
    else if name = ".." then follow links p.up names
    else if maxNameBytes < name.utf8ByteSize then .error .tooLong
    else match entry? name p.here with
      | none => .error .missing
      | some (.folder entries) => follow links (p.down entries) names
      | some (.file content readable) =>
        if names.isEmpty then .ok (.file content readable) else .error .notAFolder
      | some (.link target) =>
        match links with
        | 0 => .error .tooManyLinks
        | links + 1 => follow links (p.startOf target) (FilePath.pieces target ++ names)
termination_by names => (links, names.length)

/-- The position of the current folder. -/
def current (t : FileTree) : Position := (Position.mk t.top []).through t.names

/-- What stands at the place that a text names; a text that is empty names nothing. -/
def at? (t : FileTree) (s : String) : Except FileFault Node :=
  if s.toList.contains '\x00' then .error .holdsZero
  else if s = "" then .error .missing
  else if maxPathBytes ≤ s.utf8ByteSize then .error .tooLong
  else follow maxLinks (t.current.startOf s) (FilePath.pieces s)

/-- What stands at a path. -/
def find (t : FileTree) (p : FilePath) : Except FileFault Node := t.at? p.text

/-- The entries of the folder at a path, if a folder is there. -/
def folder? (t : FileTree) (p : FilePath) : Except FileFault (Option (List (String × Node))) :=
  match t.find p with
  | .ok (.folder entries) => .ok (some entries)
  | .ok _ => .ok none
  | .error e => if e.isAbsence then .ok none else .error e

/-- Whether a file is at a path. -/
def isFile (t : FileTree) (p : FilePath) : Except FileFault Bool :=
  match t.find p with
  | .ok (.file ..) => .ok true
  | .ok _ => .ok false
  | .error e => if e.isAbsence then .ok false else .error e

/-- The size of what is at a path; a folder has none. -/
def size? (t : FileTree) (p : FilePath) : Except FileFault Nat :=
  match t.find p with
  | .ok (.file content _) => .ok content.size
  | .ok _ => .ok 0
  | .error e => .error e

/-- Reads the file at a path. -/
def read (t : FileTree) (p : FilePath) : Except FileFault ByteArray :=
  match t.find p with
  | .ok (.file content readable) => if readable then .ok content else .error .denied
  | .ok _ => .error .isAFolder
  | .error e => .error e

end FileTree
end LeakScan
