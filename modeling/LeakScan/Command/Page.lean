import LeakScan.Export.Basic

/-!
# The command line, page by page

The program has a page of its own, with the switches that stand before a command, and one page for
each command. A page says which switches it takes and how it is used.
-/

set_option autoImplicit false

namespace LeakScan.Command

/-- What the program is called. -/
def program : String := "keysweep"

/-- The version of the program. -/
def version : String := "0.1.0"

/-- A command. -/
inductive Verb where
  | github
  | scan
  | server
deriving DecidableEq, Repr

namespace Verb

def all : List Verb := [github, scan, server]

def name : Verb → String
  | github => "github"
  | scan => "scan"
  | server => "server"

/-- The command of a name. -/
def ofName? (s : String) : Option Verb := all.find? (·.name = s)

end Verb

/-- A switch. -/
inductive Switch where
  | version
  | config
  | verbose
  | help
  | format
  | output
  | maxFiles
  | port
deriving DecidableEq, Repr

namespace Switch

/-- The long name of a switch. -/
def longName : Switch → String
  | version => "--version"
  | config => "--config"
  | verbose => "--verbose"
  | help => "--help"
  | format => "--format"
  | output => "--output"
  | maxFiles => "--max-files"
  | port => "--port"

/-- The letter of a switch, if it has one. -/
def letter? : Switch → Option Char
  | config => some 'c'
  | verbose => some 'v'
  | format => some 'f'
  | output => some 'o'
  | _ => none

/-- Whether a switch takes a value. -/
def takesValue : Switch → Bool
  | version | verbose | help => false
  | _ => true

/-- Whether a switch is answered before the values of the others are looked at. -/
def isPrompt : Switch → Bool
  | version | help => true
  | _ => false

/-- The short name of a letter. -/
def shortName (c : Char) : String := String.ofList ['-', c]

/-- The names of a switch. -/
def names (s : Switch) : List String :=
  s.longName :: (s.letter?.map shortName).toList

end Switch

/-- The program itself, or one of its commands. -/
inductive Page where
  | program
  | verb (v : Verb)
deriving DecidableEq, Repr

namespace Page

/-- The words that a command line begins with. -/
def title : Page → String
  | program => Command.program
  | verb v => Command.program ++ " " ++ v.name

/-- The switches of a page. -/
def switches : Page → List Switch
  | program => [.version, .config, .verbose, .help]
  | verb .github => [.maxFiles, .format, .output, .help]
  | verb .scan => [.format, .output, .help]
  | verb .server => [.port, .help]

/-- The switch of a long name. -/
def ofLongName? (p : Page) (name : String) : Option Switch :=
  p.switches.find? (·.longName = name)

/-- The switch of a letter. -/
def ofLetter? (p : Page) (c : Char) : Option Switch :=
  p.switches.find? (·.letter? = some c)

/-- What follows the words of a page. -/
def operands : Page → String
  | program => "[OPTIONS] COMMAND [ARGS]..."
  | verb .github => "[OPTIONS] REPO"
  | verb .scan => "[OPTIONS] PATHS..."
  | verb .server => "[OPTIONS]"

/-- How a page is used. -/
def usage (p : Page) : String := "Usage: " ++ p.title ++ " " ++ p.operands

/-- What a page is about and what its switches mean, line by line. -/
def notes : Page → List String
  | program => [
    "  keysweep — find leaked API keys and secrets in source files.",
    "",
    "Options:",
    "  --version          Show the version and exit.",
    "  -c, --config FILE  Path to a YAML config file.",
    "  -v, --verbose      Enable verbose output.",
    "  --help             Show this message and exit.",
    "",
    "Commands:",
    "  github  Scan a public GitHub repository (URL or OWNER/REPO).",
    "  scan    Scan local files and directories for hardcoded keys and secrets.",
    "  server  Start the keysweep web API."]
  | verb .github => [
    "  Scan a public GitHub repository (URL or OWNER/REPO).",
    "",
    "Options:",
    "  --max-files INTEGER RANGE      Maximum number of files to fetch (default: 50).",
    "                                 [x>=1]",
    "  -f, --format [table|json|csv]  Output format.  [default: table]",
    "  -o, --output FILE              Write json/csv output to a file instead of",
    "                                 stdout.",
    "  --help                         Show this message and exit."]
  | verb .scan => [
    "  Scan local files and directories for hardcoded keys and secrets.",
    "",
    "Options:",
    "  -f, --format [table|json|csv]  Output format.  [default: table]",
    "  -o, --output FILE              Write json/csv output to a file instead of",
    "                                 stdout.",
    "  --help                         Show this message and exit."]
  | verb .server => [
    "  Start the keysweep web API.",
    "",
    "Options:",
    "  --port INTEGER  Port to listen on (default: 8471).",
    "  --help          Show this message and exit."]

/-- The help that a page gives. -/
def help (p : Page) : String :=
  "\n".intercalate (p.usage :: "" :: p.notes) ++ "\n"

end Page

/-- How the findings of a scan are reported. -/
inductive ReportFormat where
  | table
  | exported (format : ExportFormat)
deriving DecidableEq, Repr

namespace ReportFormat

def all : List ReportFormat := table :: ExportFormat.all.map exported

def name : ReportFormat → String
  | table => "table"
  | exported f => f.name

/-- The format of a name. -/
def ofName? (s : String) : Option ReportFormat := all.find? (·.name = s)

end ReportFormat
end LeakScan.Command
