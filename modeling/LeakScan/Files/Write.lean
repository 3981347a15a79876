import LeakScan.Files.Tree

/-!
# Writing files

A file is written where its path leads, through links; it is made if it is missing and its folder
is there.
-/

set_option autoImplicit false

namespace LeakScan.FileTree

/-- A folder that is being followed through to write below it: its position, and the names that
lead to it from the topmost folder, last first. -/
structure Way where
  position : Position
  names : List String

namespace Way

/-- The way to the folder above; the topmost folder stays. -/
def up (w : Way) : Way := ⟨w.position.up, w.names.tail⟩

/-- The way to the folder of a name with some entries. -/
def down (w : Way) (name : String) (entries : List (String × Node)) : Way :=
  ⟨w.position.down entries, name :: w.names⟩

/-- The way that a text leads from. -/
def startOf (w : Way) (s : String) : Way :=
  if FilePath.rootOf s.toList = "" then w else ⟨w.position.root, []⟩

/-- The names that lead from the topmost folder to a name in the folder of a way. -/
def spot (w : Way) (name : String) : List String := (name :: w.names).reverse

end Way

/-- The spot that names lead to, by the names from the topmost folder to it, without links. -/
def spotFrom (links : Nat) (w : Way) : (names : List String) → Except FileFault (List String)
  | [] => .error .isAFolder
  | name :: names =>
    if name = "" || name = "." then spotFrom links w names
    else if name = ".." then spotFrom links w.up names
    else if maxNameBytes < name.utf8ByteSize then .error .tooLong
    else match entry? name w.position.here with
      | none => if names.isEmpty then .ok (w.spot name) else .error .missing
      | some (.folder entries) => spotFrom links (w.down name entries) names
      | some (.file ..) => if names.isEmpty then .ok (w.spot name) else .error .notAFolder
      | some (.link target) =>
        match links with
        | 0 => .error .tooManyLinks
        | links + 1 => spotFrom links (w.startOf target) (FilePath.pieces target ++ names)
termination_by names => (links, names.length)

/-- The spot at which the file of a path is written. -/
def spot (t : FileTree) (p : FilePath) : Except FileFault (List String) :=
  let w : Way := ⟨t.current, t.names.reverse⟩
  if maxPathBytes ≤ p.text.utf8ByteSize then .error .tooLong
  else spotFrom maxLinks (w.startOf p.text) p.parts

/-- Puts a file where the path of a file leads. -/
def putFile (t : FileTree) (p : FilePath) (file : Node) : Except FileFault FileTree :=
  match t.spot p with
  | .ok names => .ok { t with top := place file names t.top }
  | .error e => .error e

/-- Writes a file in place of what it held. -/
def write (t : FileTree) (p : FilePath) (content : ByteArray) : Except FileFault FileTree :=
  t.putFile p (.file content true)

/-- Makes the folders that some names lead through, from the folder of other names on. -/
def makeFolders (t : FileTree) (above : List String) : (names : List String) → FileTree
  | [] => t
  | name :: names =>
    if name = ".." then t.makeFolders above.dropLast names
    else
      let here := above ++ [name]
      { t with top := place (.folder []) here t.top }.makeFolders here names

mutual

/-- The paths of the files below a node, each with what the file holds. -/
def filesOf (p : FilePath) : Node → List (FilePath × ByteArray)
  | .file content _ => [(p, content)]
  | .link _ => []
  | .folder entries => filesOfEntries p entries

/-- The paths of the files below some entries, each with what the file holds. -/
def filesOfEntries (p : FilePath) : List (String × Node) → List (FilePath × ByteArray)
  | [] => []
  | (name, node) :: es => filesOf (p.child name) node ++ filesOfEntries p es

end

/-- The files of a tree, each with its path from the topmost folder and what it holds. -/
def files (t : FileTree) : List (FilePath × ByteArray) := filesOfEntries (.ofText "/") t.top

/-- The files below the current folder of a tree, each with its path from there and what it
holds. -/
def filesHere (t : FileTree) : List (FilePath × ByteArray) :=
  filesOfEntries (.ofText "") t.current.here

/-- The files below the current folder of a tree that another has not. -/
def filesBeyond (t old : FileTree) : List (FilePath × ByteArray) :=
  let known := old.filesHere.map (·.1)
  t.filesHere.filter fun f => !known.contains f.1

/-- A tree with a file at a path, and with the folders on the way to it. -/
def having (t : FileTree) (p : FilePath) (file : Node) : FileTree :=
  let above := if p.root = "" then t.names else []
  match (t.makeFolders above p.parts.dropLast).putFile p file with
  | .ok t => t
  | .error _ => t

end LeakScan.FileTree
