import LiteralAudit.Command.Usage
import LiteralAudit.Report.Format

/-!
# Help

What is shown for a command line that is not run as a command.
-/

namespace LiteralAudit

def helpLines : List String := [
  "Find Go struct literals that leave required fields unset",
  "",
  "Usage: exhaustruct <COMMAND>",
  "",
  "  check <PATH>  Check program dumps for incomplete struct literals",
  "      -c, --config <CONFIG>         Path to config YAML file",
  "      -i, --include <INCLUDE>       Only check types matching this pattern",
  "      -e, --exclude <EXCLUDE>       Skip types matching this pattern",
  "          --allow-empty             Allow empty literals of every type",
  "          --allow-empty-include <PATTERN>",
  "                                    Allow empty literals of types matching this pattern",
  "          --allow-empty-returns     Allow empty literals in return statements",
  "          --allow-empty-declarations",
  "                                    Allow empty literals in declarations",
  "          --no-directives           Ignore //exhaustruct: comment directives",
  "          --source-root <FOLDER>    Where relative source paths start from",
  "      -f, --format <FORMAT>         Output format: pretty, json, or sarif",
  "  init          Write a default configuration file",
  "      -o, --output <OUTPUT>         Output file path",
  "  help          Print this message",
  "",
  "  -h, --help     Print help",
  "  -V, --version  Print version"]

namespace UsageError

/-- What is wrong with the command line. -/
def message : UsageError → String
  | missingRequiredArgument => "a required argument was not provided"
  | unknownArgument => "unexpected argument found"
  | invalidSubcommand => "unrecognized subcommand"
  | invalidValue => "a value is required for an argument but none was supplied"
  | argumentConflict => "an argument cannot be used multiple times"
  | tooManyValues => "unexpected value for an argument that takes none"
  | displayHelp => "help requested"
  | displayVersion => "version requested"
  | missingSubcommand => "a subcommand is required but one was not provided"

/-- The text that is shown in place of a run. -/
def text : UsageError → String
  | displayHelp | missingSubcommand => "\n".intercalate helpLines ++ "\n"
  | displayVersion => Report.checkerName ++ " " ++ Report.version ++ "\n"
  | error => "error: " ++ error.message ++ "\n\nFor more information, try '--help'.\n"

end UsageError

end LiteralAudit
