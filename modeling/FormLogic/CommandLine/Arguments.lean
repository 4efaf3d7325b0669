/-!
# Arguments

What the words of a command line ask for. Options may stand anywhere after the
point where they are known: those of every command also before it. A command line
that is no use is refused, and one that asks for help or the version gets no
further.
-/
namespace FormLogic.CommandLine

inductive Format where
  | json
  | yaml
deriving DecidableEq, Repr, Inhabited

/-- What is to be done, with the files it is done to. -/
inductive Command where
  | initial (schema : String)
  | resolve (schema values : String) (once tree : Bool)
  | missing (schema values : String)
  | validate (schema values : String)
deriving DecidableEq, Repr, Inhabited

structure Arguments where
  command : Command
  format : Format
  /-- The file that settings are read from instead of those found by name. -/
  config : Option String
deriving DecidableEq, Repr, Inhabited

/-- What a command line comes to. -/
inductive Request where
  | run (arguments : Arguments)
  | help
  | version
  | misuse
deriving DecidableEq, Repr, Inhabited

/-- The names of commands. -/
inductive Verb where
  | initial
  | resolve
  | missing
  | validate
deriving DecidableEq, Repr, Inhabited

namespace Verb

def ofName? : String → Option Verb
  | "initial" => some initial
  | "resolve" => some resolve
  | "missing" => some missing
  | "validate" => some validate
  | _ => none

def arity : Verb → Nat
  | initial => 1
  | _ => 2

end Verb

/-- Switches without a value. -/
inductive Switch where
  | verbose
  | debug
  | quiet
  | once
  | tree
deriving DecidableEq, Repr, Inhabited

/-- What has been read before or after the command. Nothing may be given twice on one side. -/
structure Given where
  switches : List Switch := []
  format : Option Format := none
  config : Option String := none
  files : List String := []
deriving Inhabited

/-- An option that takes a value. -/
inductive Valued where
  | format
  | config
deriving DecidableEq, Repr, Inhabited

namespace Given

def switch? (g : Given) (s : Switch) : Option Given :=
  if g.switches.contains s then none else some { g with switches := s :: g.switches }

/-- Give an option its value. A file name is not empty. -/
def value? (g : Given) (option : Valued) (value : String) : Option Given :=
  match option with
  | .format =>
    match g.format, value with
    | none, "json" => some { g with format := some .json }
    | none, "yaml" => some { g with format := some .yaml }
    | _, _ => none
  | .config =>
    if g.config.isNone ∧ value ≠ "" then some { g with config := some value } else none

/-- One more file, if the command takes it. -/
def file? (g : Given) (verb : Verb) (name : String) : Option Given :=
  if g.files.length < verb.arity ∧ name ≠ "" then some { g with files := g.files ++ [name] }
  else none

end Given

/-- What one word that begins with a hyphen does. -/
inductive Effect where
  | given (g : Given)
  /-- The option still needs the next word. -/
  | needs (option : Valued) (g : Given)
  | help
  | version
  | misuse

/-- A misuse, unless something was given. -/
def Effect.ofGiven (g : Option Given) : Effect :=
  match g with
  | some g => .given g
  | none => .misuse

/-- The letters after a single hyphen, each a switch of its own. -/
def shortEffect (inCommand : Bool) (g : Given) : List Char → Effect
  | [] => .given g
  | c :: rest =>
    let next (s : Switch) : Effect :=
      match g.switch? s with
      | some g => shortEffect inCommand g rest
      | none => .misuse
    match c with
    | 'v' => next .verbose
    | 'd' => next .debug
    | 'q' => next .quiet
    | 'h' => .help
    | 'V' => if inCommand then .misuse else .version
    | _ => .misuse

/-- The word after two hyphens, with the value that may be attached to it. -/
def longEffect (verb : Option Verb) (g : Given) (name : String) (attached : Option String) :
    Effect :=
  let switch (s : Switch) : Effect :=
    if attached.isSome then .misuse else Effect.ofGiven (g.switch? s)
  let valued (option : Valued) : Effect :=
    match attached with
    | some value => Effect.ofGiven (g.value? option value)
    | none => .needs option g
  match name with
  | "verbose" => switch .verbose
  | "debug" => switch .debug
  | "quiet" => switch .quiet
  | "format" => valued .format
  | "config" => valued .config
  | "help" => if attached.isSome then .misuse else .help
  | "version" => if attached.isSome ∨ verb.isSome then .misuse else .version
  | "once" => if verb = some .resolve then switch .once else .misuse
  | "tree" => if verb = some .resolve then switch .tree else .misuse
  | _ => .misuse

/-- What a word that begins with a hyphen does. -/
def wordEffect (verb : Option Verb) (g : Given) (word : List Char) : Effect :=
  match word with
  | '-' :: '-' :: long =>
    let name := String.ofList (long.takeWhile fun c => c != '=')
    match long.dropWhile fun c => c != '=' with
    | [] => longEffect verb g name none
    | _ :: value => longEffect verb g name (some (String.ofList value))
  | _ :: short => shortEffect verb.isSome g short
  | [] => .misuse

/-- Whether a word is an option: it begins with a hyphen and has more to it. -/
def isOption (word : String) : Bool :=
  match word.toList with
  | '-' :: _ :: _ => true
  | _ => false

/-- Put together what was given before and after a command. What stands after it wins. -/
def assemble (verb : Verb) (before after : Given) : Request :=
  let finish (command : Command) : Request :=
    .run {
      command
      format := (after.format <|> before.format).getD .json
      config := after.config <|> before.config }
  match verb, after.files with
  | .initial, [schema] => finish (.initial schema)
  | .resolve, [schema, values] =>
    finish (.resolve schema values (after.switches.contains .once) (after.switches.contains .tree))
  | .missing, [schema, values] => finish (.missing schema values)
  | .validate, [schema, values] => finish (.validate schema values)
  | _, _ => .misuse

/-- Read the words after a command. After two hyphens alone all words are files. -/
def readCommand (verb : Verb) (before : Given) :
    Option Valued → Bool → Given → List String → Request
  | some _, _, _, [] => .misuse
  | none, _, g, [] => assemble verb before g
  | some option, _, g, word :: rest =>
    if isOption word then .misuse
    else
      match g.value? option word with
      | some g => readCommand verb before none false g rest
      | none => .misuse
  | none, filesOnly, g, word :: rest =>
    if !filesOnly && word == "--" then readCommand verb before none true g rest
    else if filesOnly || !isOption word then
      match g.file? verb word with
      | some g => readCommand verb before none filesOnly g rest
      | none => .misuse
    else
      match wordEffect (some verb) g word.toList with
      | .given g => readCommand verb before none false g rest
      | .needs option g => readCommand verb before (some option) false g rest
      | .help => .help
      | .version => .version
      | .misuse => .misuse

/-- What asking for help on commands comes to: each word must name a command of the one before. -/
def helpOn : List String → Request
  | [] => .help
  | [word] => if (Verb.ofName? word).isSome ∨ word = "help" then .help else .misuse
  | _ => .misuse

/-- Read the words before a command, and the command. -/
def readGlobal : Option Valued → Given → List String → Request
  | _, _, [] => .misuse
  | some option, g, word :: rest =>
    if isOption word then .misuse
    else
      match g.value? option word with
      | some g => readGlobal none g rest
      | none => .misuse
  | none, g, word :: rest =>
    if isOption word then
      if word == "--" then .misuse
      else
        match wordEffect none g word.toList with
        | .given g => readGlobal none g rest
        | .needs option g => readGlobal (some option) g rest
        | .help => .help
        | .version => .version
        | .misuse => .misuse
    else if word == "help" then helpOn rest
    else
      match Verb.ofName? word with
      | some verb => readCommand verb g none false {} rest
      | none => .misuse

def Request.ofWords (words : List String) : Request := readGlobal none {} words

end FormLogic.CommandLine
