import LeakScan.Text.Blank
import LeakScan.Text.Quoted

/-!
# References to repositories

A repository is named by an owner and a name. A reference to it is either a text with
`github.com/owner/name` in it, possibly followed by a slash and more of the line, or just
`owner/name`. In the first form a final `.git` is taken off a longer name.
-/

set_option autoImplicit false

namespace LeakScan

/-- A repository: its owner and its name. -/
structure RepoRef where
  owner : String
  name : String
deriving DecidableEq, Repr

namespace RepoRef

/-- The reference as `owner/name`. -/
def toText (r : RepoRef) : String := r.owner ++ "/" ++ r.name

/-- The host that a long reference names. -/
def hostMark : List Char := "github.com/".toList

/-- The suffix that a long reference may add to the name. -/
def gitSuffix : List Char := ".git".toList

/-- Takes a final `.git` off a name that is longer than it. -/
def withoutGit (name : List Char) : List Char :=
  if gitSuffix.isSuffixOf name && gitSuffix.length < name.length then
    name.take (name.length - gitSuffix.length)
  else name

/-- Reads what follows the host: an owner, a slash, a name, and nothing or a slash and the rest
of a line. -/
def afterHost? (cs : List Char) : Option RepoRef :=
  let owner := cs.takeWhile (· != '/')
  match cs.dropWhile (· != '/') with
  | [] => none
  | _ :: rest =>
    let name := rest.takeWhile (· != '/')
    if owner.isEmpty || name.isEmpty || (rest.dropWhile (· != '/')).contains '\n' then none
    else some ⟨String.ofList owner, String.ofList (withoutGit name)⟩

/-- Reads the first place of a text that names the host and is followed by a repository. -/
def long? : List Char → Option RepoRef
  | [] => none
  | c :: cs =>
    let here :=
      if hostMark.isPrefixOf (c :: cs) then afterHost? ((c :: cs).drop hostMark.length) else none
    here.orElse fun _ => long? cs

/-- Reads `owner/name`. -/
def short? (cs : List Char) : Option RepoRef :=
  let owner := cs.takeWhile (· != '/')
  match cs.dropWhile (· != '/') with
  | [] => none
  | _ :: name =>
    if owner.isEmpty || name.isEmpty || name.contains '/' then none
    else some ⟨String.ofList owner, String.ofList name⟩

/-- Reads a reference, with blanks around it. -/
def ofText? (s : String) : Option RepoRef :=
  let cs := Text.strip s.toList
  (long? cs).orElse fun _ => short? cs

end RepoRef
end LeakScan
