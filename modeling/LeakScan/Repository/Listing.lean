import LeakScan.Repository.Host

/-!
# Listings and files

A client asks a host for the listing of a directory and for the content of a file. A listing is
a JSON list of entries, or one entry; what is no object in it is passed over, and what an entry
does not say is empty. The values of an entry are passed on as the host gave them.
-/

set_option autoImplicit false

namespace LeakScan

/-- An item of a directory listing. -/
structure Entry where
  name : Json
  path : Json
  type : Json
  downloadUrl : Json
deriving Repr

namespace Entry

/-- The entry that an object's fields describe. -/
def ofFields (fields : Json.Fields) : Entry where
  name := (Json.lookup "name" fields).getD (.str "")
  path := (Json.lookup "path" fields).getD (.str "")
  type := (Json.lookup "type" fields).getD (.str "")
  downloadUrl := (Json.lookup "download_url" fields).getD .null

/-- Whether an entry is of a type. -/
def isOf (type : String) (e : Entry) : Bool :=
  match e.type with
  | .str s => s = .whole type
  | _ => false

/-- The entries of a listing. -/
def ofListing (v : Json) : List Entry :=
  let items := match v with
    | .arr items => items
    | v => [v]
  items.filterMap fun v =>
    match v with
    | .obj fields => some (ofFields fields)
    | _ => none

end Entry

/-- Where a client sends its requests and how long it waits. -/
structure Client where
  base : String
  timeout : Timeout
deriving Repr

namespace Client

/-- Where a client sends its requests unless told otherwise. -/
def defaultBase : String := "https://api.github.com"

/-- How long a client waits unless told otherwise. -/
def defaultTimeout : Timeout := .seconds (.ofInt 10)

/-- How many files a client collects unless told otherwise. -/
def defaultCap : Int := 50

/-- A client of a base address, from which the slashes at the end are taken off. -/
def create (base : String) (timeout : Timeout) : Client where
  base := String.ofList (base.toList.reverse.dropWhile (· = '/')).reverse
  timeout := timeout

/-- The request for the listing of a directory. -/
def listingRequest (c : Client) (owner repo : String) (path : Json) : Request where
  url := .str (c.base ++ "/repos/" ++ owner ++ "/" ++ repo ++ "/contents/" ++ path.plain)
  timeout := c.timeout

/-- The request for the content of a file. -/
def fileRequest (c : Client) (url : Json) : Request := ⟨url, c.timeout⟩

/-- The entries that a reply lists. -/
def listingOf : Reply → Except HostFault (List Entry)
  | .unreachable m => .error (.repository (.listingUnreachable m))
  | .broken kind m => .error (.mishap (.broken kind m))
  | .response status body =>
    if status = 404 then .error (.repository .notFound)
    else if !isOk status then .error (.repository (.listingStatus status))
    else match Json.ofText body with
      | .error (.tooDeep isObject) => .error (.mishap (.tooDeep isObject))
      | .error _ => .error (.repository .listingMalformed)
      | .ok v => .ok (Entry.ofListing v)

/-- The content that a reply holds. -/
def contentOf : Reply → Except HostFault String
  | .unreachable m => .error (.repository (.fileUnreachable m))
  | .broken kind m => .error (.mishap (.broken kind m))
  | .response status body =>
    if isOk status then .ok body else .error (.repository (.fileStatus status))

/-- The headers that a client sends with every request. -/
def headers : List (String × String) :=
  [("User-Agent", "keysweep/0.1.0"), ("Accept", "application/vnd.github+json")]

end Client
end LeakScan
