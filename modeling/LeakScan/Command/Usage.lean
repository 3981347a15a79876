import LeakScan.Command.Page
import LeakScan.Command.Similar
import LeakScan.Files.Tree
import LeakScan.Text.Quoted

/-!
# What is wrong with a command line

A command line that cannot be followed is answered with how the page is used that it was read
against, and with what is wrong. A switch that lacks its value, or has one it does not take, is
answered without the usage. An empty command line is answered with help, and a path that is none
ends the program without an answer.
-/

set_option autoImplicit false

namespace LeakScan.Command

/-- What is wrong with a value. -/
inductive ValueFault where
  | notAFormat (value : String)
  | noFile (value : String)
  | noPath (value : String)
  | aFolder (value : String)
  | fileDenied (value : String)
  | pathDenied (value : String)
  | notAPath (fault : FileFault) (value : String)
  | notAnInteger (value : String)
  | notACount (value : String)
  | tooSmall (n : Int)
deriving DecidableEq, Repr

namespace ValueFault

def message : ValueFault → String
  | notAFormat s => Text.quoted s ++ " is not one of " ++
      ", ".intercalate (ReportFormat.all.map fun f => Text.quoted f.name) ++ "."
  | noFile s => "File " ++ Text.quoted s ++ " does not exist."
  | noPath s => "Path " ++ Text.quoted s ++ " does not exist."
  | aFolder s => "File " ++ Text.quoted s ++ " is a directory."
  | fileDenied s => "File " ++ Text.quoted s ++ " is not readable."
  | pathDenied s => "Path " ++ Text.quoted s ++ " is not readable."
  | notAPath fault s => fault.message s
  | notAnInteger s => Text.quoted s ++ " is not a valid integer."
  | notACount s => Text.quoted s ++ " is not a valid integer range."
  | tooSmall n => Numeral.ofInt n ++ " is not in the range x>=1."

end ValueFault

/-- What takes a value: a switch, or an operand of a name. -/
inductive Taker where
  | switch (s : Switch)
  | operand (name : String)
deriving DecidableEq, Repr

/-- The names of what takes a value. -/
def Taker.label : Taker → String
  | switch s => " / ".intercalate (s.names.map Text.quoted)
  | operand name => Text.quoted name

/-- What is wrong with a command line. -/
inductive UsageFault where
  | nothingGiven
  | noSwitch (page : Page) (name : String)
  | valueMissing (name : String)
  | valueUnwanted (name : String)
  | noCommand (name : String)
  | commandMissing
  | operandMissing (page : Page) (name : String)
  | tooMany (page : Page) (arguments : List String)
  | badValue (page : Page) (taker : Taker) (fault : ValueFault)
deriving DecidableEq, Repr

namespace UsageFault

/-- The page whose usage is shown with a fault. -/
def page? : UsageFault → Option Page
  | noSwitch p _ | operandMissing p _ | tooMany p _ | badValue p _ _ => some p
  | noCommand _ | commandMissing => some .program
  | nothingGiven | valueMissing _ | valueUnwanted _ => none

/-- The question whether one of some similar names was meant. -/
def suggestion : List String → String
  | [] => ""
  | [name] => " Did you mean " ++ Text.quoted name ++ "?"
  | names => " (Did you mean one of: " ++ ", ".intercalate (names.map Text.quoted) ++ "?)"

def message : UsageFault → String
  | nothingGiven => ""
  | noSwitch p name => "No such option " ++ Text.quoted name ++ "." ++
      suggestion (similarTo name (p.switches.map (·.longName)))
  | valueMissing name => "Option " ++ Text.quoted name ++ " requires an argument."
  | valueUnwanted name => "Option " ++ Text.quoted name ++ " does not take a value."
  | noCommand name => "No such command " ++ Text.quoted name ++ "." ++
      suggestion (similarTo name (Verb.all.map (·.name)))
  | commandMissing => "Missing command."
  | operandMissing _ name => "Missing argument " ++ Text.quoted name ++ "."
  | tooMany _ [a] => "Got unexpected extra argument (" ++ a ++ ")"
  | tooMany _ as => "Got unexpected extra arguments (" ++ " ".intercalate as ++ ")"
  | badValue _ taker fault => "Invalid value for " ++ taker.label ++ ": " ++ fault.message

/-- The fault that ends the program at once, where it is one: a value that should be a path is
none. -/
def crash? : UsageFault → Option (FileFault × String)
  | badValue _ _ (.notAPath fault value) => some (fault, value)
  | _ => none

/-- The usage that is shown with a fault. -/
def usage (e : UsageFault) : String :=
  match e.page? with
  | some p => p.usage ++ "\nTry '" ++ p.title ++ " --help' for help.\n\n"
  | none => ""

/-- The answer to a command line with a fault. -/
def text (e : UsageFault) : String :=
  if e = nothingGiven then Page.help .program
  else e.usage ++ "Error: " ++ e.message ++ "\n"

end UsageFault
end LeakScan.Command
