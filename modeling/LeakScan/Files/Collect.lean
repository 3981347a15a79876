import LeakScan.Files.Tree
import LeakScan.Finding.Basic
import LeakScan.Repository.FileName
import LeakScan.Service.Request

/-!
# Collecting files for an upload

The files below a folder are collected in a fixed order, whatever order the folder lists them in:
its own files by name, then those of its folders, by name. Links to folders are not followed, and
neither are folders of build output or hidden ones, except those that hold sensitive files. A file
goes into the batch when its name says that it may hold a secret and it is not too large.
-/

set_option autoImplicit false

namespace LeakScan

/-- The folders that hold a sensitive file by name; they are walked through though hidden. -/
def sensitiveFolders : List String :=
  sensitiveNames.filterMap fun name =>
    match FilePath.pieces name with
    | folder :: _ :: _ => some folder
    | _ => none

/-- The most bytes a file of an upload may have. -/
def maxUploadSize : Nat := 10 * 1024 * 1024

/-- Whether a walk goes through a folder of a name. -/
def isWalked (name : String) : Bool :=
  sensitiveFolders.contains name || !FileName.isSkipped name

/-- Whether the name of a file says that it may hold a secret. -/
def mayHoldSecret (p : FilePath) : Bool :=
  let name := Text.lowered p.name.toList
  FileName.endsWithAny FileName.sourceEndings name || ".env".toList.isPrefixOf name ||
    !(Finding.inName p.ending).isEmpty

namespace FileTree

/-- Whether what is at a path goes into an upload. -/
def isUploadable (t : FileTree) (p : FilePath) : Except FileFault Bool :=
  if mayHoldSecret p then
    match t.size? p with
    | .ok n => .ok (n ≤ maxUploadSize)
    | .error .holdsZero => .error .holdsZero
    | .error _ => .ok false
  else .ok false

/-- Puts what has a name in the order of the names. -/
def byName {α : Type} (items : List (String × α)) : List (String × α) :=
  items.mergeSort fun a b => decide (a.1 ≤ b.1)

/-- Whether an entry of the folder at a path is listed as a file: a link is, unless it leads to a
folder. -/
def isListed (t : FileTree) (p : FilePath) (e : String × Node) : Bool :=
  match e.2 with
  | .file .. => true
  | .link _ =>
    match t.folder? (p.child e.1) with
    | .ok (some _) => false
    | _ => true
  | .folder _ => false

/-- The files of the folder at a path, by name. -/
def ownFiles (t : FileTree) (p : FilePath) (entries : List (String × Node)) : List FilePath :=
  (byName (entries.filter (t.isListed p))).map fun e => p.child e.1

mutual

/-- The files below the folder at a path, in the order of a walk. -/
def filesBelow (t : FileTree) (p : FilePath) : Node → List FilePath
  | .folder entries =>
    t.ownFiles p entries ++ (byName (t.filesInFolders p entries)).flatMap (·.2)
  | _ => []

/-- The folders among some entries that are walked through, each with the files below it. -/
def filesInFolders (t : FileTree) (p : FilePath) :
    List (String × Node) → List (String × List FilePath)
  | [] => []
  | (name, node) :: es =>
    let rest := t.filesInFolders p es
    match node with
    | .folder _ =>
      if isWalked name then (name, t.filesBelow (p.child name) node) :: rest else rest
    | _ => rest

end

/-- The paths that a path stands for: those of the files below a folder, or the path itself. -/
def candidates (t : FileTree) (p : FilePath) : Except FileFault (List FilePath) :=
  match t.folder? p with
  | .ok (some entries) => .ok (t.filesBelow p (.folder entries))
  | .ok none => .ok [p]
  | .error e => .error e

end FileTree

/-- What came of collecting files: the warnings about files that cannot be read, and the uploads, or
the fault that ended it with the path it is about. -/
structure Collection where
  warnings : List String
  outcome : Except (FileFault × FilePath) (List Upload)

namespace Collection

/-- A collection that a fault ended at once. -/
def ended (e : FileFault) (p : FilePath) : Collection := ⟨[], .error (e, p)⟩

/-- A collection before which an upload was taken. -/
def taking (u : Upload) (c : Collection) : Collection :=
  { c with outcome := c.outcome.map (u :: ·) }

/-- A collection before which a warning was given. -/
def warning (w : String) (c : Collection) : Collection := { c with warnings := w :: c.warnings }

/-- One collection after another, unless a fault ended the first. -/
def andThen (c d : Collection) : Collection :=
  match c.outcome with
  | .ok us => ⟨c.warnings ++ d.warnings, d.outcome.map (us ++ ·)⟩
  | .error _ => c

end Collection

namespace FileTree

/-- Reads candidates: those that are files to upload. -/
def take (t : FileTree) : List FilePath → Collection
  | [] => ⟨[], .ok []⟩
  | p :: ps =>
    match t.isUploadable p with
    | .error e => .ended e p
    | .ok false => t.take ps
    | .ok true =>
      match t.read p with
      | .ok content => (t.take ps).taking ⟨p.text, .bytes content⟩
      | .error e => (t.take ps).warning ("Skipping " ++ p.text ++ ": " ++ e.message p.text)

/-- The uploads that a path brings. -/
def gather (t : FileTree) (p : FilePath) : Collection :=
  match t.candidates p with
  | .error e => .ended e p
  | .ok ps => t.take ps

/-- The uploads that some paths bring. -/
def collect (t : FileTree) : List String → Collection
  | [] => ⟨[], .ok []⟩
  | path :: paths => (t.gather (.ofText path)).andThen (t.collect paths)

end FileTree
end LeakScan
