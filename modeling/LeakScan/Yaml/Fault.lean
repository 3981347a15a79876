import LeakScan.Number.Numeral

/-!
# Faults of a YAML text

A text that is no YAML is malformed. An escape may stand for no code point, and what is nested too
deep is not read. A scalar whose tag says that it is a number, a truth value or a moment may turn
out not to be one; these faults are told apart.
-/

set_option autoImplicit false

namespace LeakScan.Yaml

/-- A part of a moment that is out of its range. -/
inductive MomentFault where
  | year
  | month
  | day
  | hour
  | minute
  | second
  | offset (minutes : Int)
deriving DecidableEq, Repr

/-- Why a text is not read. -/
inductive Fault where
  | malformed
  | codePoint (number : Nat)
  | tooDeep
  | emptyNumber
  | integer (base : Nat) (text : Text.Loose)
  | integerTooLong (digits : Nat)
  | real (text : Text.Loose)
  | realTooLarge
  | truth (text : Text.Loose)
  | notAMoment
  | notAText
  | moment (fault : MomentFault)
deriving DecidableEq, Repr

/-- A span of minutes as days and seconds. -/
def spanText (minutes : Int) : String :=
  let days := minutes / 1440
  let seconds := minutes % 1440 * 60
  let parts :=
    (if days = 0 then [] else ["days=" ++ Numeral.ofInt days]) ++
      (if seconds = 0 then [] else ["seconds=" ++ Numeral.ofInt seconds])
  "datetime.timedelta(" ++ (if parts.isEmpty then "0" else ", ".intercalate parts) ++ ")"

def MomentFault.message : MomentFault → String
  | year => "year 0 is out of range"
  | month => "month must be in 1..12"
  | day => "day is out of range for month"
  | hour => "hour must be in 0..23"
  | minute => "minute must be in 0..59"
  | second => "second must be in 0..59"
  | offset minutes =>
    "offset must be a timedelta strictly between -timedelta(hours=24) and timedelta(hours=24), " ++
      "not " ++ spanText minutes ++ "."

/-- What is said of an integer that is beyond the floating-point values. -/
def tooLargeMessage : String := "int too large to convert to float"

/-- Whether a number has more than 31 bits. -/
def isBeyondWord (n : Nat) : Bool := 0x7FFFFFFF < n

/-- What is said of a fault, where something is said. -/
def Fault.message : Fault → Option String
  | malformed => some "Invalid YAML"
  | codePoint n =>
    some (if isBeyondWord n then "Python int too large to convert to C int"
      else "chr() arg not in range(0x110000)")
  | tooDeep => some "maximum recursion depth exceeded"
  | emptyNumber => some "string index out of range"
  | integer base text => some (Numeral.malformedMessage base text)
  | integerTooLong digits => some (Numeral.tooLongMessage digits)
  | real text => some ("could not convert string to float: " ++ text.quoted)
  | realTooLarge => some tooLargeMessage
  | truth text => some text.quoted
  | notAMoment => none
  | notAText => none
  | moment fault => some fault.message

end LeakScan.Yaml
