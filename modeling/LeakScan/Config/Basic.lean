import LeakScan.Files.Tree
import LeakScan.Repository.Listing
import LeakScan.Text.Utf8
import LeakScan.Yaml.Reader

/-!
# Configurations

A configuration has five settings that a file may give, some of which the environment may give
too. A value is converted to the type of its setting and then checked: no number may be negative,
and the cap on files and the timeout may not be zero.
-/

set_option autoImplicit false

namespace LeakScan

/-- What a file may set. -/
inductive Setting where
  | maxRepoFiles
  | requestTimeout
  | sessionTtl
  | apiBase
  | webPort
deriving DecidableEq, Repr

namespace Setting

def all : List Setting := [maxRepoFiles, requestTimeout, sessionTtl, apiBase, webPort]

/-- The key of a setting in a file. -/
def key : Setting → String
  | maxRepoFiles => "max_repo_files"
  | requestTimeout => "request_timeout"
  | sessionTtl => "session_ttl"
  | apiBase => "github_api_base"
  | webPort => "web_port"

/-- The setting of a key. -/
def ofKey? (s : String) : Option Setting := all.find? (·.key = s)

/-- Whether a setting must be greater than zero. -/
def isPositive : Setting → Bool
  | maxRepoFiles | requestTimeout => true
  | _ => false

end Setting

/-- A configuration. -/
structure Config where
  folder : FilePath
  maxRepoFiles : Int
  requestTimeout : Double
  sessionTtl : Double
  apiBase : String
  webHost : String
  webPort : Int
  verbose : Bool
deriving Repr

namespace Config

/-- What is reported of a configuration, together with where it comes from. -/
inductive Problem where
  | unreadable (fault : FileFault) (path : String)
  | malformed
  | notAMapping
  | unknownKeys (keys : List String)
  | invalid (setting : Setting) (shown : String)
  | negative (setting : Setting)
  | zero (setting : Setting)

def Problem.message : Problem → String
  | unreadable fault path => "Cannot read config file: " ++ fault.message path
  | malformed => "Invalid YAML"
  | notAMapping => "Config YAML must be a mapping"
  | unknownKeys keys => "Unknown config keys: " ++ ", ".intercalate keys
  | invalid setting shown => "Invalid value for " ++ setting.key ++ ": " ++ shown
  | negative setting => setting.key ++ " must not be negative"
  | zero setting => setting.key ++ " must be greater than zero"

/-- A message with the place it speaks of, if there is one. -/
def located (message source : String) : String :=
  if source = "" then message else message ++ " (config: " ++ source ++ ")"

/-- Why no configuration was loaded: a problem that is reported, or something that went wrong
outside the rules for files and settings. -/
inductive Fault where
  | reported (problem : Problem) (source : String)
  | file (fault : FileFault) (path : String)
  | notUtf8 (fault : Text.Utf8.Fault)
  | badScalar (fault : Yaml.Fault)
  | keyNotText
  | infinite
  | tooLarge
  | unshown (fault : Yaml.Unshown)
  | noHome

/-- What is said of a fault, where something is said. -/
def Fault.message : Fault → Option String
  | reported problem source => some (located problem.message source)
  | file fault path => some (fault.message path)
  | notUtf8 fault => some fault.message
  | badScalar fault => fault.message
  | keyNotText => none
  | infinite => some Double.WholeFault.infinite.message
  | tooLarge => some Yaml.tooLargeMessage
  | unshown fault => some fault.message
  | noHome => some "Could not determine home directory."

/-- Why a value is not converted: it is invalid for a setting, or out of every range. -/
inductive Refusal where
  | invalid
  | infinite
  | tooLarge
deriving DecidableEq, Repr

/-- The text that bytes are, if all of them are ASCII. -/
def asciiText? (b : List UInt8) : Option String :=
  if b.all (· < 128) then some (String.ofList (b.map fun x => Char.ofNat x.toNat)) else none

/-- The integer that a text stands for. -/
def intOfText (s : String) : Except Refusal Int :=
  match Numeral.toInt s with
  | .ok i => .ok i
  | .error _ => .error .invalid

/-- The text that a value holds, if it is a text or bytes. -/
def textOf? : Yaml.Value → Option String
  | .text s => some s.repaired
  | .bytes b => asciiText? b
  | _ => none

/-- The integer that a value stands for. -/
def intOf : Yaml.Value → Except Refusal Int
  | .bool b => .ok (if b then 1 else 0)
  | .int i => .ok i
  | .real d =>
    match d.truncate with
    | .ok i => .ok i
    | .error .infinite => .error .infinite
    | .error .undefined => .error .invalid
  | v =>
    match textOf? v with
    | some s => intOfText s
    | none => .error .invalid

/-- The floating-point value that an integer stands for. -/
def realOfInt (i : Int) : Except Refusal Double :=
  match Double.ofInt i with
  | .inf _ => .error .tooLarge
  | d => .ok d

/-- The floating-point value that a text stands for. -/
def realOfText (s : String) : Except Refusal Double :=
  match Numeral.toDouble? s with
  | some d => .ok d
  | none => .error .invalid

/-- The floating-point value that a value stands for. -/
def realOf : Yaml.Value → Except Refusal Double
  | .bool b => realOfInt (if b then 1 else 0)
  | .int i => realOfInt i
  | .real d => .ok d
  | .nan _ => .ok .nan
  | v =>
    match textOf? v with
    | some s => realOfText s
    | none => .error .invalid

/-- What is wrong with a number for a setting. -/
def problemOf (s : Setting) (isNegative isZero : Bool) : Option Problem :=
  if isNegative then some (.negative s)
  else if s.isPositive && isZero then some (.zero s)
  else none

/-- Checks an integer for a setting. -/
def checkedInt (s : Setting) (i : Int) : Except Problem Int :=
  match problemOf s (i < 0) (i = 0) with
  | some p => .error p
  | none => .ok i

/-- Checks a floating-point value for a setting. -/
def checkedReal (s : Setting) (d : Double) : Except Problem Double :=
  match problemOf s d.isNegative d.isZero with
  | some p => .error p
  | none => .ok d

/-- The fault of a value that is invalid for a setting. -/
def invalidFault (s : Setting) (value : Yaml) (source : String) : Fault :=
  match value.shown with
  | .ok shown => .reported (.invalid s shown) source
  | .error e => .unshown e

/-- The fault of a conversion. -/
def refusalFault (s : Setting) (value : Yaml) (source : String) : Refusal → Fault
  | .invalid => invalidFault s value source
  | .infinite => .infinite
  | .tooLarge => .tooLarge

/-- Converts and checks a value for a setting. -/
def convert {α : Type} (s : Setting) (value : Yaml) (source : String)
    (conversion : Yaml.Value → Except Refusal α) (check : Setting → α → Except Problem α) :
    Except Fault α :=
  match conversion value.root with
  | .error r => .error (refusalFault s value source r)
  | .ok a =>
    match check s a with
    | .error p => .error (.reported p source)
    | .ok a => .ok a

/-- Gives a setting a value that comes from `source`. -/
def set (c : Config) (s : Setting) (value : Yaml) (source : String) : Except Fault Config :=
  match s with
  | .maxRepoFiles => do
    return { c with maxRepoFiles := ← convert s value source intOf checkedInt }
  | .requestTimeout => do
    return { c with requestTimeout := ← convert s value source realOf checkedReal }
  | .sessionTtl => do
    return { c with sessionTtl := ← convert s value source realOf checkedReal }
  | .apiBase =>
    match value.plain with
    | .ok base => .ok { c with apiBase := base }
    | .error e => .error (.unshown e)
  | .webPort => do
    return { c with webPort := ← convert s value source intOf checkedInt }

/-- Gives settings their values, one after another. -/
def setAll (source : String) : Config → List (Setting × Yaml) → Except Fault Config
  | c, [] => .ok c
  | c, (s, value) :: rest =>
    match c.set s value source with
    | .ok c => setAll source c rest
    | .error e => .error e

/-- The configuration of a folder in which nothing is set. -/
def standard (folder : FilePath) : Config where
  folder := folder
  maxRepoFiles := Client.defaultCap
  requestTimeout := .ofInt 10
  sessionTtl := .ofInt 3600
  apiBase := Client.defaultBase
  webHost := "127.0.0.1"
  webPort := 8471
  verbose := false

/-- The client that a configuration describes. -/
def client (c : Config) : Client := .create c.apiBase (.seconds c.requestTimeout)

end Config
end LeakScan
