import LeakScan.Config.Basic
import LeakScan.Service.Basic

/-!
# Loading a configuration

A configuration starts from what is standard. A file that is named, or the one of the
configuration's folder if it is there, sets what it names; the environment comes last. The first
fault ends the loading.
-/

set_option autoImplicit false

namespace LeakScan

/-- The variables of the environment, each with its value. -/
abbrev Environment := List (String × String)

namespace Config

/-- The value of a variable that is there and not empty. -/
def given? (env : Environment) (name : String) : Option String :=
  (env.lookup name).filter (· != "")

/-- The folder of the user: what the environment says, unless that is a name to be looked up. -/
def home (env : Environment) : Except Fault FilePath :=
  let cs := Text.dropEndWhile (· = '/') ((env.lookup "HOME").getD "/root").toList
  if "~".toList.isPrefixOf cs then .error .noHome
  else .ok (.ofText (if cs.isEmpty then "/" else String.ofList cs))

/-- The folder of the configuration. -/
def folderOf (env : Environment) : Except Fault FilePath :=
  match given? env "XDG_CONFIG_HOME" with
  | some base => .ok ((FilePath.ofText base).child "keysweep")
  | none => do return ((← home env).child ".config").child "keysweep"

/-- The setting that a key names, if it names one. -/
def settingOf? : Yaml.Value → Option Setting
  | .text key => key.whole?.bind Setting.ofKey?
  | _ => none

/-- The text of a key, if it is one. -/
def keyText? : Yaml.Value → Option String
  | .text s => some s.repaired
  | _ => none

/-- Sets what the fields of a mapping name, if they name nothing else. -/
def setFields (c : Config) (fields : List (Yaml.Value × Yaml)) (source : String) :
    Except Fault Config :=
  let unknown := (fields.map (·.1)).filter fun k => (settingOf? k).isNone
  match unknown.mapM keyText? with
  | none => .error .keyNotText
  | some [] =>
    c.setAll source (fields.filterMap fun f => (settingOf? f.1).map fun s => (s, f.2))
  | some keys =>
    .error (.reported (.unknownKeys (keys.mergeSort fun a b => decide (a ≤ b))) source)

/-- Sets what a YAML text says. -/
def setText (c : Config) (text source : String) : Except Fault Config :=
  match Yaml.ofText text with
  | .error .malformed => .error (.reported .malformed source)
  | .error e => .error (.badScalar e)
  | .ok y =>
    match y.root, y.fields? with
    | .null, _ => .ok c
    | _, some fields => c.setFields fields source
    | _, none => .error (.reported .notAMapping source)

/-- Sets what a file says. -/
def setFile (c : Config) (t : FileTree) (path : FilePath) : Except Fault Config :=
  match t.read path with
  | .error .holdsZero => .error (.file .holdsZero path.text)
  | .error e => .error (.reported (.unreadable e path.text) path.text)
  | .ok bytes =>
    match Text.Utf8.decode bytes with
    | .error e => .error (.notUtf8 e)
    | .ok text => c.setText text path.text

/-- The settings that the environment may give, in order, each with the name of its variable. -/
def environmentSettings : List (String × Setting) :=
  [("KEYSWEEP_MAX_REPO_FILES", .maxRepoFiles), ("KEYSWEEP_REQUEST_TIMEOUT", .requestTimeout),
    ("KEYSWEEP_SESSION_TTL", .sessionTtl), ("KEYSWEEP_WEB_PORT", .webPort)]

/-- Sets what the environment says in some variables. -/
def setVariables (env : Environment) : Config → List (String × Setting) → Except Fault Config
  | c, [] => .ok c
  | c, (name, s) :: rest =>
    match given? env name with
    | none => setVariables env c rest
    | some value =>
      match c.set s (.ofString value) name with
      | .ok c => setVariables env c rest
      | .error e => .error e

/-- Sets what the file of a configuration says: one that is named must be there. -/
def setNamedFile (c : Config) (t : FileTree) (path : Option String) : Except Fault Config :=
  match path with
  | some p => c.setFile t (.ofText p)
  | none =>
    let p := c.folder.child "config.yaml"
    match t.isFile p with
    | .ok true => c.setFile t p
    | .ok false => .ok c
    | .error e => .error (.file e p.text)

/-- Loads a configuration. -/
def load (t : FileTree) (env : Environment) (path : Option String) : Except Fault Config := do
  let c := standard (← folderOf env)
  let c ← c.setNamedFile t path
  setVariables env c environmentSettings

/-- The service that a configuration describes, before its first use. -/
def service (c : Config) : Service Double :=
  .create c.maxRepoFiles c.client c.sessionTtl none []

end Config
end LeakScan
