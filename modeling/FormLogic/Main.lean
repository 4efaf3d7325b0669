import FormLogic.CommandLine.Run

/-!
# The command line

Reads the files that a command names, runs it, and prints what it has to say.
-/
namespace FormLogic.CommandLine

def usage : String :=
  "Usage: formwork [OPTIONS] <COMMAND>

Commands:
  initial <SCHEMA>                            Print the values of a fresh form
  resolve <SCHEMA> <VALUES> [--once] [--tree] Apply visibility, report what follows
  missing <SCHEMA> <VALUES>                   List values asked for and not filled in
  validate <SCHEMA> <VALUES>                  Validate the visible form

Options:
  -v, --verbose  -d, --debug  -q, --quiet
      --format <json|yaml>  --config <FILE>  -h, --help  -V, --version
"

def Arguments.files (arguments : Arguments) : List String :=
  let named := match arguments.command with
    | .initial schema => [schema]
    | .resolve schema values _ _ | .missing schema values | .validate schema values =>
      [schema, values]
  let found := Settings.extensions.map fun ext => Settings.fileStem ++ "." ++ ext
  named ++ arguments.config.toList ++ found

/-- The names in the environment that settings have. -/
def variableNames : List String :=
  ["MAX_PASSES", "WARN_UNKNOWN_TYPES"].map (Settings.variableStem ++ ·)

/-- A file's text, if it can be read. -/
def readFile (name : String) : IO (Option (String × String)) := do
  try
    let text ← IO.FS.readFile name
    pure (some (name, text))
  catch _ => pure none

def readVariable (name : String) : IO (Option (String × String)) := do
  let text ← IO.getEnv name
  pure (text.map (name, ·))

end FormLogic.CommandLine

open FormLogic CommandLine in
/-- Run the command that the words ask for. -/
def main (words : List String) : IO UInt32 := do
  match Request.ofWords words with
  | .help =>
    IO.print usage
    pure 0
  | .version =>
    IO.println "formwork 0.1.0"
    pure 0
  | .misuse =>
    IO.eprint usage
    pure 2
  | .run arguments =>
    let files ← arguments.files.filterMapM readFile
    let environment ← variableNames.filterMapM readVariable
    let result := CommandLine.run { read := fun name => files.lookup name, environment } arguments
    IO.print result.output
    if let some message := result.error then IO.eprintln ("Error: " ++ message)
    pure result.code.toUInt32
