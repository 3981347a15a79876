import LeakScan.Repository.Reference
import LeakScan.Session.Basic
import LeakScan.Text.Utf8

/-!
# Requests for scans

A request asks for a scan of uploaded files or of a repository. A request that is neither, that
brings no file, that names no repository or that asks for more files than allowed is rejected;
what is accepted becomes a task.
-/

set_option autoImplicit false

namespace LeakScan

/-- What an uploaded file holds: a text, bytes that should be UTF-8, or nothing that can be
scanned. -/
inductive Content where
  | text (s : String)
  | bytes (b : ByteArray)
  | absent

/-- An uploaded file. -/
structure Upload where
  name : String
  content : Content

/-- A request for a scan. -/
inductive ScanRequest where
  | upload (files : List Upload)
  | repository (reference : Text.Loose) (maxFiles : Option Int)
  | other (value : Json)

/-- What an accepted request asks for: a scan of files, or of a repository up to a number of
files. -/
inductive Task where
  | upload (files : List Upload)
  | repository (repo : RepoRef) (cap : Int)

/-- Why a request is rejected. -/
inductive Rejection where
  | noFiles
  | notARepository (reference : Text.Loose)
  | capOutOfRange (limit : Int)
  | unsupported (value : Json)
deriving Repr

namespace Rejection

def message : Rejection → String
  | noFiles => "No files to scan"
  | notARepository reference => "Invalid GitHub repository URL: " ++ reference.quoted
  | capOutOfRange limit => "max_files must be between 1 and " ++ Numeral.ofInt limit
  | unsupported v => "Unsupported scan request: " ++ v.shown

/-- Whether every integer that the message speaks of has a text. -/
def isSpeakable : Rejection → Bool
  | capOutOfRange limit => (Numeral.ofInt? limit).isSome
  | unsupported v => v.isShowable
  | _ => true

end Rejection

namespace Task

/-- The word for what a task scans. -/
def kind : Task → String
  | upload _ => "upload"
  | repository .. => "github"

/-- What a task scans, in words. -/
def source : Task → String
  | upload files => Numeral.ofInt files.length ++ " file(s)"
  | repository repo _ => repo.toText

/-- The number of files that a request may take, where `limit` is the most that is allowed and
taken when the request does not say. -/
def capOf (limit : Int) : Option Int → Except Rejection Int
  | none => .ok limit
  | some n => if 1 ≤ n ∧ n ≤ limit then .ok n else .error (.capOutOfRange limit)

/-- Accepts or rejects a request. -/
def ofRequest (limit : Int) : ScanRequest → Except Rejection Task
  | .upload files => if files.isEmpty then .error .noFiles else .ok (.upload files)
  | .repository reference maxFiles =>
    match RepoRef.ofText? reference.repaired with
    | none => .error (.notARepository reference)
    | some repo =>
      match capOf limit maxFiles with
      | .ok cap => .ok (.repository repo cap)
      | .error e => .error e
  | .other v => .error (.unsupported v)

end Task
end LeakScan
