import LeakScan.Repository.FileName
import LeakScan.Repository.Listing

/-!
# Walking a repository

A walk collects the text files of a repository, directory by directory: those found first are
listed first, starting at the root, until enough files are collected or no directory is left. A
directory whose listing fails is passed over with a warning, unless it is the root. The walk may
meet the same directory again and again, so it is given a number of listings after which it is
given up.
-/

set_option autoImplicit false

namespace LeakScan

/-- What a walk came to: the requests it made, the warnings it gave, and the files it collected
or what ended it. -/
structure Walk where
  requests : List Request
  warnings : List String
  outcome : Except HostFault (List Entry)

namespace Walk

/-- Whether an entry is a file to collect; a name that is no text is a mishap. -/
def wanted (e : Entry) : Except Mishap Bool :=
  if e.isOf "file" then
    match e.name with
    | .str name => .ok (FileName.isText name.repaired)
    | v => .error (.notText v "lower")
  else .ok false

/-- Whether an entry is a directory to list; a name that is no text is a mishap. -/
def entered (e : Entry) : Except Mishap Bool :=
  if e.isOf "dir" then
    match e.name with
    | .str name => .ok (!FileName.isSkipped name.repaired)
    | v => if v.isKey then .error (.notText v "startswith") else .error (.notAKey v)
  else .ok false

/-- Goes through a listing until `cap` files are collected. `files` and `pending` are what was
collected and what is to be listed so far. -/
def takeEntries (cap : Int) (files : List Entry) (pending : List Json) :
    List Entry → Except Mishap (List Entry × List Json)
  | [] => .ok (files, pending)
  | e :: es =>
    if cap ≤ files.length then .ok (files, pending)
    else match wanted e with
      | .error m => .error m
      | .ok true => takeEntries cap (files ++ [e]) pending es
      | .ok false =>
        match entered e with
        | .error m => .error m
        | .ok true => takeEntries cap files (pending ++ [e.path]) es
        | .ok false => takeEntries cap files pending es

/-- The warning about a directory that could not be listed. -/
def listingWarning (path : Json) (fault : RepositoryFault) : String :=
  "Failed to list directory " ++ path.plain ++ ": " ++ fault.message

/-- Walks on from the directories `pending`. `past` are the requests the host got before, `made`
those of this walk, `warnings` those given so far; nothing comes of it if `listings` more
listings do not end it. -/
def explore (host : Host) (client : Client) (owner repo : String) (cap : Int)
    (past : List Request) :
    (listings : Nat) → (made : List Request) → (warnings : List String) → (files : List Entry) →
    (pending : List Json) → Option Walk
  | _, made, warnings, files, [] => some ⟨made, warnings, .ok files⟩
  | listings, made, warnings, files, path :: pending =>
    if cap ≤ files.length then some ⟨made, warnings, .ok files⟩
    else match listings with
      | 0 => none
      | listings + 1 =>
        let request := client.listingRequest owner repo path
        let reply := host (past ++ made) request
        let made := made ++ [request]
        match Client.listingOf reply with
        | .error (.repository fault) =>
          if path.isPresent then
            explore host client owner repo cap past listings made
              (warnings ++ [listingWarning path fault]) files pending
          else some ⟨made, warnings, .error (.repository fault)⟩
        | .error e => some ⟨made, warnings, .error e⟩
        | .ok entries =>
          match takeEntries cap files pending entries with
          | .error m => some ⟨made, warnings, .error (.mishap m)⟩
          | .ok (files, pending) =>
            explore host client owner repo cap past listings made warnings files pending

end Walk

/-- Collects up to `cap` text files of a repository, within a number of listings. -/
def Client.collect (client : Client) (host : Host) (past : List Request) (owner repo : String)
    (cap : Int) (listings : Nat) : Option Walk :=
  Walk.explore host client owner repo cap past listings [] [] [] [.str ""]

end LeakScan
