import LeakScan.Command.Usage

/-!
# Reading arguments

An argument that begins with a dash, and is more than that, names switches: a long name with two
dashes, to which an equals sign may attach a value, or letters after a single dash, the last of
which may take what follows as its value. A value that is not attached is the next argument,
whatever that looks like. Two dashes alone end the switches. On the page of the program, the first
argument that names no switch ends them too.
-/

set_option autoImplicit false

namespace LeakScan.Command

/-- The use of a switch, with its value if it takes one. -/
structure Use where
  switch : Switch
  value : String
deriving DecidableEq, Repr

/-- What arguments say: the uses of switches, in order, and the operands. -/
structure Arguments where
  uses : List Use
  operands : List String
deriving DecidableEq, Repr

/-- What a single argument says: the uses of switches, and the switch that awaits its value with
the name it was called by. -/
structure Opening where
  uses : List Use
  awaiting : Option (Switch × String)
deriving DecidableEq, Repr

/-- What letters after a single dash say. -/
def Opening.ofLetters (p : Page) : List Char → Except UsageFault Opening
  | [] => .ok ⟨[], none⟩
  | c :: cs =>
    match p.ofLetter? c with
    | none => .error (.noSwitch p (Switch.shortName c))
    | some s =>
      if s.takesValue then
        .ok (if cs.isEmpty then ⟨[], some (s, Switch.shortName c)⟩
          else ⟨[⟨s, String.ofList cs⟩], none⟩)
      else match ofLetters p cs with
        | .ok o => .ok { o with uses := ⟨s, ""⟩ :: o.uses }
        | .error e => .error e

/-- The value that an equals sign attaches to a name. -/
def attached? (cs : List Char) : Option String :=
  match cs.dropWhile (· != '=') with
  | _ :: value => some (String.ofList value)
  | [] => none

/-- What an argument that begins with a dash says. -/
def Opening.ofArgument (p : Page) (cs : List Char) : Except UsageFault Opening :=
  let name := String.ofList (cs.takeWhile (· != '='))
  match p.ofLongName? name with
  | some s =>
    match s.takesValue, attached? cs with
    | true, some value => .ok ⟨[⟨s, value⟩], none⟩
    | true, none => .ok ⟨[], some (s, name)⟩
    | false, none => .ok ⟨[⟨s, ""⟩], none⟩
    | false, some _ => .error (.valueUnwanted name)
  | none =>
    if "--".toList.isPrefixOf cs then .error (.noSwitch p name) else ofLetters p (cs.drop 1)

/-- Whether an argument names switches. -/
def namesSwitches (argument : String) : Bool :=
  match argument.toList with
  | '-' :: _ :: _ => true
  | _ => false

namespace Arguments

/-- Arguments after the uses of some switches. -/
def after (uses : List Use) (a : Arguments) : Arguments := { a with uses := uses ++ a.uses }

/-- Reads arguments against a page. -/
def read (p : Page) : List String → Except UsageFault Arguments
  | [] => .ok ⟨[], []⟩
  | argument :: rest =>
    if argument = "--" then .ok ⟨[], rest⟩
    else if namesSwitches argument then
      match Opening.ofArgument p argument.toList with
      | .error e => .error e
      | .ok ⟨uses, none⟩ => (read p rest).map (after uses)
      | .ok ⟨uses, some (s, name)⟩ =>
        match rest with
        | [] => .error (.valueMissing name)
        | value :: rest => (read p rest).map (after (uses ++ [⟨s, value⟩]))
    else if p = .program then .ok ⟨[], argument :: rest⟩
    else (read p rest).map fun a => { a with operands := argument :: a.operands }

/-- The switches in use, in the order of their first use. -/
def switches (a : Arguments) : List Switch := (a.uses.map (·.switch)).eraseDups

/-- The value of a switch: that of its last use. -/
def value? (a : Arguments) (s : Switch) : Option String :=
  (a.uses.reverse.find? (·.switch = s)).map (·.value)

/-- Whether a switch is in use. -/
def has (a : Arguments) (s : Switch) : Bool := (a.value? s).isSome

/-- The first switch in use that is answered before anything else. -/
def prompt? (a : Arguments) : Option Switch := a.switches.find? (·.isPrompt)

end Arguments

example : (Arguments.read (.verb .scan) ["a", "-fcsv", "--output=x", "--", "-f"]).toOption =
    some ⟨[⟨.format, "csv"⟩, ⟨.output, "x"⟩], ["a", "-f"]⟩ := by decide +kernel

example : (Arguments.read .program ["-vc", "x", "scan", "-v"]).toOption =
    some ⟨[⟨.verbose, ""⟩, ⟨.config, "x"⟩], ["scan", "-v"]⟩ := by decide +kernel

end LeakScan.Command
