import TableExchange.Console.Invocation

/-!
What the console says about itself: its version, and the help on the whole and on each command.
-/

namespace TableExchange.Console

def programName : String := "tunnel-console"

def versionText : String := programName ++ " 0.1.0\n"

def Verb.purpose : Verb → String
  | query => "Runs a statement in an interactive session and prints every result"
  | splits => "Lists the splits of a table scan, one per line"

def helpPurpose : String :=
  "Print this message or the help of the given subcommand(s)"

def directoryPurpose : String :=
  "Directory holding \x60base.yaml\x60 and the per-environment overrides"

def overview : String :=
  "Usage: " ++ programName ++ " [OPTIONS] <COMMAND>\n\nCommands:\n" ++
  "  query   " ++ Verb.query.purpose ++ "\n" ++
  "  splits  " ++ Verb.splits.purpose ++ "\n" ++
  "  help    " ++ helpPurpose ++ "\n\nOptions:\n" ++
  "      --config-dir <CONFIG_DIR>  " ++ directoryPurpose ++ "\n" ++
  "  -h, --help                     Print help\n" ++
  "  -V, --version                  Print version\n"

/-- The help on queries. Its texts are too long to stand beside the options. -/
def queryHelp : String :=
  Verb.query.purpose ++ "\n\nUsage: " ++ programName ++ " query [OPTIONS] --sql <SQL>\n\nOptions:\n" ++
  "      --config-dir <CONFIG_DIR>\n          " ++ directoryPurpose ++ "\n" ++
  "      --sql <SQL>\n          Statement to run\n" ++
  "      --session <SESSION>\n" ++
  "          Attach to this running session instead of creating an unnamed one\n" ++
  "      --setting <SETTINGS>\n" ++
  "          Query setting as \x60key=value\x60. May be repeated\n" ++
  "      --start-timeout-secs <START_TIMEOUT_SECS>\n" ++
  "          Seconds to wait for the session to start. Zero waits without a deadline " ++
  "[default: 300]\n" ++
  "  -h, --help\n          Print help\n"

def splitsHelp : String :=
  Verb.splits.purpose ++ "\n\nUsage: " ++ programName ++
  " splits [OPTIONS] --table <TABLE>\n\nOptions:\n" ++
  "      --config-dir <CONFIG_DIR>  " ++ directoryPurpose ++ "\n" ++
  "      --table <TABLE>            Table to scan in the configured project and schema\n" ++
  "      --page-size <PAGE_SIZE>    Maximum number of splits requested per page\n" ++
  "  -h, --help                     Print help\n"

def helpHelp : String :=
  helpPurpose ++ "\n\nUsage: " ++ programName ++ " help [COMMAND]...\n\nArguments:\n" ++
  "  [COMMAND]...  Print help for the subcommand(s)\n"

def helpText : Topic → String
  | .console => overview
  | .command .query => queryHelp
  | .command .splits => splitsHelp
  | .help => helpHelp

end TableExchange.Console
