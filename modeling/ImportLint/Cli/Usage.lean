import ImportLint.Cli.Options

/-!
# Usage

What is printed about the command line itself.
-/

namespace ImportLint.Cli

/-- The name of the command. -/
def commandName : String := "modguard"

/-- The lines of the short form of the command line. -/
def usageLines : List String := [
  "usage: modguard [-h] [-f CONFIG] [-m GOMOD] [-t] [-w WORKERS]",
  "                [--format \x7btext,json\x7d] [-v | --debug] [--log-json]",
  "                [FILE ...]"]

/-- The lines that describe all options. -/
def optionLines : List String := [
  "",
  "modguard v1.0.0 — allow-list linter for Go module imports",
  "",
  "positional arguments:",
  "  FILE                  Go files, directories or dir/... patterns (default:",
  "                        ./...)",
  "",
  "options:",
  "  -h, --help            show this help message and exit",
  "  -f CONFIG, --config CONFIG",
  "                        Config file (default: .modguard.yaml, then",
  "                        ~/.modguard.yaml)",
  "  -m GOMOD, --gomod GOMOD",
  "                        go.mod file (default: ./go.mod)",
  "  -t, --tests           Also lint *_test.go files",
  "  -w WORKERS, --workers WORKERS",
  "                        Files read and parsed concurrently (default: 1)",
  "  --format \x7btext,json\x7d  Diagnostic output format (default: text)",
  "  -v, --verbose         Log INFO messages to stderr",
  "  --debug               Log DEBUG messages to stderr",
  "  --log-json            Emit logs as JSON lines"]

/-- Lines as one text. -/
def unlines (lines : List String) : String := String.join (lines.map (· ++ "\n"))

/-- The text that helps with the command line. -/
def help : String := unlines (usageLines ++ optionLines)

/-- What is printed when a command line is refused. -/
def UsageFault.report (fault : UsageFault) : String :=
  unlines (usageLines ++ [commandName ++ ": error: " ++ fault.message])

end ImportLint.Cli
