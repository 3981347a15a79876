import LeakScan.Text.Case
import LeakScan.Text.Part

/-!
# Names worth a look

Which files of a repository are worth fetching, and which directories are not worth listing:
hidden ones, and those that hold build output or dependencies.
-/

set_option autoImplicit false

namespace LeakScan.FileName

/-- The endings of source and configuration files, for uploads and repositories alike. -/
def sourceEndings : List String :=
  [".js", ".jsx", ".ts", ".tsx", ".py", ".java", ".cpp", ".c", ".h", ".php", ".rb", ".go", ".rs",
    ".swift", ".kt", ".scala", ".sh", ".yml", ".yaml", ".json", ".xml", ".html", ".css", ".scss",
    ".env", ".config", ".conf", ".ini", ".properties", ".txt", ".md"]

/-- The endings of text files in a repository. -/
def textEndings : List String :=
  sourceEndings ++ [".sql", ".dockerfile", ".gitignore", ".gitattributes"]

/-- Whether a name ends with one of some endings. -/
def endsWithAny (endings : List String) (name : List Char) : Bool :=
  endings.any fun e => Text.endsWith e.toList name

/-- Whether a file of a repository is worth fetching. -/
def isText (name : String) : Bool :=
  let lower := Text.lowered name.toList
  endsWithAny textEndings lower || Text.holds ".env".toList lower ||
    lower = "dockerfile".toList || lower = "makefile".toList

/-- Directories of build output, dependencies and tools. -/
def skippedDirectories : List String :=
  ["node_modules", ".git", "dist", "build", "target", "vendor", "__pycache__", ".pytest_cache",
    "coverage", ".nyc_output", "logs", "tmp", "temp", ".cache", ".vscode", ".idea"]

/-- Whether a directory is left out of a walk. -/
def isSkipped (name : String) : Bool :=
  skippedDirectories.contains name || ".".toList.isPrefixOf name.toList

end LeakScan.FileName
