import LeakScan.Command.Arguments
import LeakScan.Files.Tree

/-!
# What a command line asks for

A command line asks for the version, for help, or for a command with its settings. The values of the
switches are checked in the order in which the switches are first used, then the operands. Files
that are named must be there, those that are written must not be folders, and what is there must be
readable in either case.
-/

set_option autoImplicit false

namespace LeakScan.Command

/-- The values of the switches. -/
structure Settings where
  config : Option String
  verbose : Bool
  format : ReportFormat
  output : Option String
  maxFiles : Option Int
  port : Option Int
deriving DecidableEq, Repr

namespace Settings

/-- The values of switches that are not used. -/
def standard : Settings := ⟨none, false, .table, none, none, none⟩

/-- The number that a value stands for. -/
def integerOf (value : String) : Except ValueFault Int :=
  match Numeral.toInt value with
  | .ok n => .ok n
  | .error _ => .error (.notAnInteger value)

/-- The positive number that a value stands for. -/
def countOf (value : String) : Except ValueFault Int :=
  match Numeral.toInt value with
  | .ok n => if n < 1 then .error (.tooSmall n) else .ok n
  | .error _ => .error (.notACount value)

/-- The format that a value names. -/
def formatOf (value : String) : Except ValueFault ReportFormat :=
  match ReportFormat.ofName? value with
  | some f => .ok f
  | none => .error (.notAFormat value)

/-- The name of a file, where no folder is and what is there can be read; `there` says that the file
must be there. -/
def fileOf (t : FileTree) (there : Bool) (value : String) : Except ValueFault String :=
  match t.at? value with
  | .ok (.folder _) => .error (.aFolder value)
  | .ok (.file _ false) => .error (.fileDenied value)
  | .ok _ => .ok value
  | .error .holdsZero => .error (.notAPath .holdsZero value)
  | .error _ => if there then .error (.noFile value) else .ok value

/-- Sets a switch to a value. -/
def set (t : FileTree) (x : Settings) (s : Switch) (value : String) :
    Except ValueFault Settings :=
  match s with
  | .config => (fileOf t true value).map fun v => { x with config := some v }
  | .output => (fileOf t false value).map fun v => { x with output := some v }
  | .format => (formatOf value).map fun v => { x with format := v }
  | .maxFiles => (countOf value).map fun v => { x with maxFiles := some v }
  | .port => (integerOf value).map fun v => { x with port := some v }
  | .verbose => .ok { x with verbose := true }
  | .version | .help => .ok x

/-- Sets some switches to the values that arguments give them. -/
def setAll (t : FileTree) (p : Page) (a : Arguments) (x : Settings) :
    List Switch → Except UsageFault Settings
  | [] => .ok x
  | s :: ss =>
    match x.set t s ((a.value? s).getD "") with
    | .ok x => setAll t p a x ss
    | .error e => .error (.badValue p (.switch s) e)

end Settings

/-- What a command is to do. -/
inductive Order where
  | github (reference : String) (maxFiles : Option Int)
  | scan (paths : List String)
  | server (port : Option Int)
deriving DecidableEq, Repr

/-- Where the report of a scan goes: in which form, and into which file if any. -/
structure Destination where
  format : ReportFormat
  output : Option String
deriving DecidableEq, Repr

/-- What a command line asks for. -/
inductive Demand where
  | version
  | help (p : Page)
  | command (config : Option String) (verbose : Bool) (order : Order) (destination : Destination)
deriving DecidableEq, Repr

namespace Order

/-- What is wrong with a path, which must be there and readable. -/
def pathFault? (t : FileTree) (path : String) : Option ValueFault :=
  match t.at? path with
  | .ok (.file _ false) => some (.pathDenied path)
  | .ok _ => none
  | .error .holdsZero => some (.notAPath .holdsZero path)
  | .error _ => some (.noPath path)

/-- Checks every path. -/
def checkPaths (t : FileTree) : List String → Except UsageFault Unit
  | [] => .ok ()
  | path :: paths =>
    match pathFault? t path with
    | none => checkPaths t paths
    | some fault => .error (.badValue (.verb .scan) (.operand "PATHS...") fault)

/-- The order that a command is given by its settings and operands. -/
def ofOperands (t : FileTree) (x : Settings) (v : Verb) (operands : List String) :
    Except UsageFault Order :=
  match v, operands with
  | .github, [] => .error (.operandMissing (.verb v) "REPO")
  | .github, [reference] => .ok (.github reference x.maxFiles)
  | .github, _ :: more => .error (.tooMany (.verb v) more)
  | .scan, [] => .error (.operandMissing (.verb v) "PATHS...")
  | .scan, paths => (checkPaths t paths).map fun _ => .scan paths
  | .server, [] => .ok (.server x.port)
  | .server, more => .error (.tooMany (.verb v) more)

end Order

namespace Demand

/-- What a switch asks for that is answered at once. -/
def ofPrompt (p : Page) : Switch → Demand
  | .version => .version
  | _ => .help p

/-- What the arguments of a command ask for, after the settings of the program. -/
def ofVerb (t : FileTree) (top : Settings) (v : Verb) (arguments : List String) :
    Except UsageFault Demand := do
  let p := Page.verb v
  let a ← Arguments.read p arguments
  match a.prompt? with
  | some s => return ofPrompt p s
  | none =>
    let x ← Settings.standard.setAll t p a a.switches
    let order ← Order.ofOperands t x v a.operands
    return .command top.config top.verbose order ⟨x.format, x.output⟩

/-- What a word asks for that is no command: if it looks like a switch, it is read as one, for what
that brings up. -/
def ofUnknown (t : FileTree) (name : String) (rest : List String) : Except UsageFault Demand := do
  let a ← Arguments.read .program (name :: rest)
  match a.prompt? with
  | some s => return ofPrompt .program s
  | none =>
    let _ ← Settings.standard.setAll t .program a a.switches
    throw (.noCommand name)

/-- What a command line asks for. -/
def ofArguments (t : FileTree) (arguments : List String) : Except UsageFault Demand := do
  if arguments.isEmpty then throw .nothingGiven
  let a ← Arguments.read .program arguments
  match a.prompt? with
  | some s => return ofPrompt .program s
  | none =>
    let top ← Settings.standard.setAll t .program a a.switches
    match a.operands with
    | [] => throw .commandMissing
    | name :: rest =>
      match Verb.ofName? name with
      | some v => ofVerb t top v rest
      | none => ofUnknown t name rest

end Demand
end LeakScan.Command
