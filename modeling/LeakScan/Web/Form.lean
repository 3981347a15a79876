import LeakScan.Json.Basic
import LeakScan.Service.Request

/-!
# The form of a scan request

A request for a scan comes as a JSON object: what is to be scanned, the files or the repository,
and how many files at most. Every fault of the object is reported, with the place where it is, in
the order of the fields.
-/

set_option autoImplicit false

namespace LeakScan.Web

/-- A step on the way to a place in a JSON value. -/
inductive Step where
  | field (name : String)
  | item (index : Nat)
deriving DecidableEq, Repr

/-- What is wrong with a value. -/
inductive Complaint where
  | missing
  | notAnOption
  | notAnObject
  | notAList
  | notText
  | torn
  | notAnInt
  | malformedInt
  | fractionalInt
  | infiniteInt
  | oversizedInt
  | notJson
deriving DecidableEq, Repr

/-- The code of a complaint. -/
def Complaint.code : Complaint → String
  | missing => "missing"
  | notAnOption => "literal_error"
  | notAnObject => "model_attributes_type"
  | notAList => "list_type"
  | notText => "string_type"
  | torn => "string_unicode"
  | notAnInt => "int_type"
  | malformedInt => "int_parsing"
  | fractionalInt => "int_from_float"
  | infiniteInt => "finite_number"
  | oversizedInt => "int_parsing_size"
  | notJson => "json_invalid"

/-- A complaint and its place. -/
structure FormFault where
  complaint : Complaint
  place : List Step
deriving DecidableEq, Repr

/-- A value that was read, or all that is wrong with it. -/
abbrev Checked (α : Type) := Except (List FormFault) α

/-- Puts two checked values together; what is wrong with either is kept. -/
def both {α β γ : Type} (f : α → β → γ) : Checked α → Checked β → Checked γ
  | .ok a, .ok b => .ok (f a b)
  | .ok _, .error e => .error e
  | .error e, .ok _ => .error e
  | .error d, .error e => .error (d ++ e)

def refuse {α : Type} (c : Complaint) (place : List Step) : Checked α := .error [⟨c, place⟩]

/-- Reads a text. -/
def checkText (place : List Step) : Json → Checked Text.Loose
  | .str s => .ok s
  | _ => refuse .notText place

/-- Reads a field that must be there. -/
def required {α : Type} (name : String) (place : List Step) (check : List Step → Json → Checked α)
    (fields : Json.Fields) : Checked α :=
  let place := place ++ [.field name]
  match Json.lookup name fields with
  | some v => check place v
  | none => refuse .missing place

/-- Reads a field that may be left out. -/
def optional {α : Type} (name : String) (place : List Step) (default : α)
    (check : List Step → Json → Checked α) (fields : Json.Fields) : Checked α :=
  match Json.lookup name fields with
  | some v => check (place ++ [.field name]) v
  | none => .ok default

/-! ## Numbers -/

/-- Whether a character is blank at the ends of a number: Unicode's separators of words and lines,
without the four of ASCII that separate information. -/
def isNumberBlank (c : Char) : Bool :=
  Text.isBlank c && !(28 ≤ c.toNat && c.toNat ≤ 31)

/-- The integer of a numeral: a minus if it is negative, and digits that do not start with a
zero, unless it is zero. -/
def plainInt? (cs : List Char) : Option Int :=
  let (negative, ds) := match cs with
    | '-' :: ds => (true, ds)
    | ds => (false, ds)
  if ds.isEmpty || !ds.all Char.isDigit || (ds.head? = some '0' && ds.length != 1) then none
  else some (if negative then -(Numeral.value ds : Int) else Numeral.value ds)

/-- Takes zeros, and underscores after them, off the front of a number: the last of them stays
where no digit follows. A number that starts otherwise than with a digit or minus is none. -/
def withoutZeros? : List Char → Option (List Char)
  | '0' :: cs => afterZero '0' cs
  | c :: cs => if c.isDigit || c = '-' then some (c :: cs) else none
  | [] => none
where
  /-- What is left after a zero or underscore. -/
  afterZero (last : Char) : List Char → Option (List Char)
    | [] => some [last]
    | c :: cs =>
      if c = '0' || c = '_' then afterZero c cs
      else if c.isDigit || c = '-' then some (c :: cs)
      else if c = '.' then some (last :: c :: cs)
      else none

/-- Takes a point with nothing but zeros after it off. -/
def withoutFraction (cs : List Char) : List Char :=
  if ((cs.dropWhile (· != '.')).drop 1).all (· = '0') then cs.takeWhile (· != '.') else cs

/-- Whether an underscore follows another. -/
def hasDoubleBar : List Char → Bool
  | '_' :: '_' :: _ => true
  | _ :: cs => hasDoubleBar cs
  | [] => false

/-- Whether an underscore stands before the digits of a number. -/
def startsWithBar : List Char → Bool
  | '-' :: '_' :: _ => true
  | c :: _ => c = '_'
  | [] => false

/-- Takes single underscores inside a number out. -/
def withoutBars (cs : List Char) : List Char :=
  if startsWithBar cs || cs.getLast? = some '_' || hasDoubleBar cs then cs
  else cs.filter (· != '_')

/-- Takes a plus off; it may not stand before a minus. -/
def withoutPlus? : List Char → Option (List Char)
  | '+' :: '-' :: _ => none
  | '+' :: cs => some cs
  | cs => some cs

/-- A number without what may be written besides its numeral. -/
def cleaned? (cs : List Char) : Option (List Char) := do
  let cs ← withoutPlus? (Text.stripWhile isNumberBlank cs)
  return withoutBars (withoutFraction (← withoutZeros? cs))

/-- The integer that a text stands for. -/
def intOfText (place : List Step) (s : String) : Checked Int :=
  let cs := s.toList
  match (plainInt? cs).orElse fun _ => (cleaned? cs).bind plainInt? with
  | none => refuse .malformedInt place
  | some i =>
    if Numeral.maxDigits < (cs.filter Char.isDigit).length then refuse .oversizedInt place
    else .ok i

/-- The integer that a floating-point value stands for: a whole number of 64 bits. -/
def intOfDouble (place : List Step) (d : Double) : Checked Int :=
  match d.truncate? with
  | none => refuse .infiniteInt place
  | some i =>
    if !d.isWhole then refuse .fractionalInt place
    else if i.natAbs < Nat.pow 2 63 then .ok i
    else refuse .oversizedInt place

/-- Reads an integer. -/
def checkInt (place : List Step) : Json → Checked Int
  | .bool b => .ok (if b then 1 else 0)
  | .int i => .ok i
  | .num d => intOfDouble place d
  | .str s =>
    match s.whole? with
    | some s => intOfText place s
    | none => refuse .torn place
  | _ => refuse .notAnInt place

/-- Reads an integer or null. -/
def checkOptionalInt (place : List Step) : Json → Checked (Option Int)
  | .null => .ok none
  | v => (checkInt place v).map some

/-! ## Scans -/

/-- What a form asks to be scanned. -/
inductive FormKind where
  | upload
  | repository
deriving DecidableEq, Repr

/-- The form of a scan request. -/
structure Form where
  kind : FormKind
  files : List (String × String)
  reference : Text.Loose
  maxFiles : Option Int
deriving Repr

/-- Reads what is to be scanned. -/
def checkKind (place : List Step) : Json → Checked FormKind
  | .str (.whole "upload") => .ok .upload
  | .str (.whole "github") => .ok .repository
  | .str (.torn _) => refuse .torn place
  | _ => refuse .notAnOption place

/-- Reads the name and content of a file. -/
def checkFile (place : List Step) : Json → Checked (String × String)
  | .obj fields =>
    both (fun name content => (name.repaired, content.repaired))
      (required "name" place checkText fields) (required "content" place checkText fields)
  | _ => refuse .notAnObject place

/-- Reads files, of which the first is item number `i`. -/
def checkFilesFrom (place : List Step) : (i : Nat) → List Json → Checked (List (String × String))
  | _, [] => .ok []
  | i, v :: vs =>
    both List.cons (checkFile (place ++ [.item i]) v) (checkFilesFrom place (i + 1) vs)

/-- Reads a list of files. -/
def checkFiles (place : List Step) : Json → Checked (List (String × String))
  | .arr items => checkFilesFrom place 0 items
  | _ => refuse .notAList place

namespace Form

/-- The place of the form itself. -/
def root : List Step := [.field "body"]

/-- Reads a form. -/
def ofJson : Json → Checked Form
  | .null => refuse .missing root
  | .obj fields =>
    both (fun (kf : FormKind × List (String × String)) (rm : Text.Loose × Option Int) =>
        ⟨kf.1, kf.2, rm.1, rm.2⟩)
      (both Prod.mk (required "type" root checkKind fields)
        (optional "files" root [] checkFiles fields))
      (both Prod.mk (optional "repo_url" root (.whole "") checkText fields)
        (optional "max_files" root none checkOptionalInt fields))
  | _ => refuse .notAnObject root

/-- The request that a form makes. -/
def request (f : Form) : ScanRequest :=
  match f.kind with
  | .upload => .upload (f.files.map fun file => ⟨file.1, .text file.2⟩)
  | .repository => .repository f.reference f.maxFiles

end Form
end LeakScan.Web
