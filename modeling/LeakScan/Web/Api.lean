import LeakScan.Json.Reader
import LeakScan.Service.Basic
import LeakScan.Text.Encoding
import LeakScan.Web.Address
import LeakScan.Web.Form

/-!
# The web interface

A service is used over the web by five kinds of request: to start a scan, and for the progress,
the results or the export of a scan. An answer has a status and a JSON value, a list of what is
wrong with a form, the text of a file, or the fault of a handler that did not come to its end.
-/

set_option autoImplicit false

namespace LeakScan.Web

/-- What a path leads to. -/
inductive Route where
  | scans
  | progress (id : String)
  | results (id : String)
  | exported (id : String)
deriving DecidableEq, Repr

namespace Route

/-- What the steps of a path lead to. -/
def ofSteps : List String → Option Route
  | ["", "api", "scans"] => some .scans
  | ["", "api", "scans", id, "progress"] => if id = "" then none else some (.progress id)
  | ["", "api", "scans", id, "results"] => if id = "" then none else some (.results id)
  | ["", "api", "scans", id, "export"] => if id = "" then none else some (.exported id)
  | _ => none

/-- Takes a newline off the end of a path, where it does not count. -/
def withoutNewline (cs : List Char) : List Char :=
  if cs.getLast? = some '\n' then cs.dropLast else cs

/-- What a path leads to. -/
def ofPath (path : String) : Option Route :=
  ofSteps ((Text.split '/' (withoutNewline path.toList)).map String.ofList)

/-- The method of the requests for what a path leads to. -/
def method : Route → String
  | scans => "POST"
  | _ => "GET"

end Route

/-- A request over the web. -/
structure Call where
  method : String
  target : String
  body : Option String
deriving Repr

/-- What an answer holds: a value, what is wrong with a form, a file, or the fault that a handler
died of. -/
inductive Payload where
  | json (v : Json)
  | faults (fs : List FormFault)
  | file (type disposition text : String)
  | fault (fault : StartFault)
deriving Repr

/-- An answer to a request over the web. -/
structure Answer where
  status : Nat
  payload : Payload
deriving Repr

namespace Answer

/-- An answer that only says what is wrong. -/
def detail (status : Nat) (text : String) : Answer :=
  ⟨status, .json (.obj [("detail", .str text)])⟩

def noPage : Answer := detail 404 "Not Found"
def noMethod : Answer := detail 405 "Method Not Allowed"
def noScan : Answer := detail 404 "Scan not found"
def noBody : Answer := detail 400 "There was an error parsing the body"

/-- The answer to a form with faults. -/
def refused (fs : List FormFault) : Answer := ⟨422, .faults fs⟩

/-- The answer to a start that its handler died of: only a rejection is caught there, and the server
answers what no handler catches as an error of its own. -/
def died (e : StartFault) : Answer := ⟨500, .fault e⟩

/-- The answer with a value of a scan, or that there is no such scan. -/
def ofFound {α : Type} (encode : α → Json) : Except NotFound α → Answer
  | .ok a => ⟨200, .json (encode a)⟩
  | .error _ => noScan

end Answer

/-- The media type of an export. -/
def mediaType : ExportFormat → String
  | .json => "application/json"
  | .csv => "text/csv; charset=utf-8"

/-- The answer with the export of a scan. -/
def fileAnswer (id : String) (f : ExportFormat) (text : String) : Answer :=
  ⟨200, .file (mediaType f) ("attachment; filename=\"" ++ id ++ "." ++ f.name ++ "\"") text⟩

/-- The characters of a JSON text: half of a surrogate pair is written as its escape. -/
def jsonChars : Text.CodePoint → List Char
  | .char c => [c]
  | .half n => Json.escapedUnit n

/-- The JSON text that a body holds in the encoding it shows, without a byte order mark. -/
def textOfBody? (body : String) : Option String :=
  let bytes := body.toUTF8
  match Text.Encoding.ofBytes (bytes.extract 0 4).toList with
  | .utf8 =>
    let cs := body.toList
    some (String.ofList (if cs.head? = some '\ufeff' then cs.tail else cs))
  | e => (e.decode? bytes).map fun ps => String.ofList (ps.flatMap jsonChars)

/-- Reads a form from a JSON text, or says what answers it. -/
def formOfText (text : String) : Except Answer Form :=
  match Json.ofText text with
  | .error .malformed => .error (.refused [⟨.notJson, Form.root⟩])
  | .error _ => .error .noBody
  | .ok v =>
    match Form.ofJson v with
    | .ok f => .ok f
    | .error fs => .error (.refused fs)

/-- Reads a form from the body of a request: the form, or the answer if there is none. -/
def formOfBody (body : Option String) : Except Answer Form :=
  match body with
  | none | some "" => .error (.refused [⟨.missing, Form.root⟩])
  | some body =>
    match textOfBody? body with
    | none => .error .noBody
    | some text => formOfText text

variable {T : Type} [Time T]

/-- Starts the scan that a request asks for. A rejection is answered with what it says. -/
def startScan (s : Service T) (now : T) (request : ScanRequest) : Service T × Answer :=
  match s.start now request with
  | .ok (s, id) => (s, ⟨200, .json (.obj [("scan_id", .str id)])⟩)
  | .error (.rejected e) => (s, .detail 400 e.message)
  | .error e => (s, .died e)

/-- Answers a request for the export of a scan. An unknown format is refused first. -/
def exportScan (s : Service T) (now : T) (id format : String) : Service T × Answer :=
  match ExportFormat.ofName? format with
  | none => (s, .detail 400 ("Unsupported export format: " ++ format))
  | some f =>
    let (s, found) := s.ask now id Session.results
    match found with
    | .ok rs => (s, fileAnswer id f (Export.text rs f))
    | .error _ => (s, .noScan)

/-- Answers a request for what its path leads to. -/
def serve (s : Service T) (now : T) (query : Address) (body : Option String) :
    Route → Service T × Answer
  | .scans =>
    match formOfBody body with
    | .error a => (s, a)
    | .ok f => startScan s now f.request
  | .progress id =>
    let (s, found) := s.progress now id
    (s, .ofFound Progress.toJson found)
  | .results id =>
    let (s, found) := s.report now id
    (s, .ofFound Report.toJson found)
  | .exported id => exportScan s now id ((query.value? "format").getD "json")

/-- Answers a request. -/
def respond (s : Service T) (now : T) (c : Call) : Service T × Answer :=
  let address := Address.ofTarget c.target
  match Route.ofPath address.path with
  | none => (s, .noPage)
  | some route =>
    if c.method = route.method then serve s now address c.body route else (s, .noMethod)

end LeakScan.Web
