import LeakScan.Json.Reader

/-!
# The host of repositories

A host answers requests. Its answer may depend on the requests it got before, so a host is a
function of the past requests and the one at hand. An answer is a response, a failure of the
transport, or a failure nobody expects. Failures to get something from a repository are causes
of their own; they end a listing or a fetch and nothing else.
-/

set_option autoImplicit false

namespace LeakScan

/-- How long to wait for an answer: for ever, or for a number of seconds. -/
inductive Timeout where
  | never
  | whole (seconds : Int)
  | seconds (d : Double)
deriving DecidableEq, Repr

/-- A request for what stands at an address. An address that a listing gave is any JSON value. -/
structure Request where
  url : Json
  timeout : Timeout
deriving Repr

/-- What a host answers. -/
inductive Reply where
  | response (status : Int) (body : String)
  | unreachable (message : String)
  | broken (kind message : String)
deriving Repr

/-- A host: what it answers to a request after some requests. -/
abbrev Host := List Request → Request → Reply

/-- Why something of a repository is not available. -/
inductive RepositoryFault where
  | notFound
  | listingStatus (status : Int)
  | listingUnreachable (message : String)
  | listingMalformed
  | fileStatus (status : Int)
  | fileUnreachable (message : String)
  | nothingToScan
deriving DecidableEq, Repr

def RepositoryFault.message : RepositoryFault → String
  | notFound => "Repository not found or is private"
  | listingStatus n => "GitHub API error: " ++ Numeral.ofInt n
  | listingUnreachable m => "Failed to fetch repository contents: " ++ m
  | listingMalformed => "GitHub API returned malformed JSON"
  | fileStatus n => "Failed to fetch file: " ++ Numeral.ofInt n
  | fileUnreachable m => "Failed to fetch file: " ++ m
  | nothingToScan => "No scannable files found in repository"

/-- What goes wrong outside every rule: a failure nobody expects, a listing that goes too deep, or a
value of a listing that is no text where one is used. -/
inductive Mishap where
  | broken (kind message : String)
  | tooDeep (isObject : Bool)
  | notText (value : Json) (use : String)
  | notAKey (value : Json)
deriving Repr

namespace Json

/-- The word for the kind of a value. -/
def kindName : Json → String
  | null => "NoneType"
  | bool _ => "bool"
  | int _ => "int"
  | num _ => "float"
  | str _ => "str"
  | arr _ => "list"
  | obj _ => "dict"

/-- Whether a value can stand as a member of a set: a list or an object cannot. -/
def isKey : Json → Bool
  | arr _ | obj _ => false
  | _ => true

end Json

/-- The word for the kind of a mishap. -/
def Mishap.kind : Mishap → String
  | broken kind _ => kind
  | tooDeep _ => "RecursionError"
  | notText .. => "AttributeError"
  | notAKey _ => "TypeError"

def Mishap.message : Mishap → String
  | broken _ m => m
  | tooDeep isObject => ((Json.Fault.tooDeep isObject).message).getD ""
  | notText v use => "'" ++ v.kindName ++ "' object has no attribute '" ++ use ++ "'"
  | notAKey v => "unhashable type: '" ++ v.kindName ++ "'"

/-- The reason a failed scan gives: the message, or the kind where there is none. -/
def Mishap.reason (m : Mishap) : String :=
  if m.message = "" then m.kind else m.message

/-- Why a listing, a fetch or a walk ended without what it was to get. -/
inductive HostFault where
  | repository (fault : RepositoryFault)
  | mishap (mishap : Mishap)
deriving Repr

/-- Whether a status says that the response is what was asked for. -/
def isOk (status : Int) : Bool :=
  !(400 ≤ status && status < 600)

end LeakScan
