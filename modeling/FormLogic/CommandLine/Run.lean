import FormLogic.CommandLine.Arguments
import FormLogic.CommandLine.Report
import FormLogic.Schema.Reader
import FormLogic.Settings.Sources
import FormLogic.Yaml.Writer

/-!
# Commands

What a command does, given the files it can read and its
environment. Nothing to report gives the code 0, something to report or passes that
did not settle the code 1, and a command that cannot be carried out the code 2.
-/
namespace FormLogic.CommandLine

/-- What a command can see. -/
structure Surroundings where
  read : String → Option String
  environment : List (String × String) := []

/-- Why a command cannot be carried out. -/
inductive Failure where
  /-- The settings file that was given does not serve. -/
  | configFile (file : String) (error : SettingsError)
  | settings (error : SettingsError)
  | unreadableSchema (file : String)
  | schema (file : String) (error : FormError)
  | unreadableValues (file : String)
  | malformedValues (file : String)
  | valuesNotObject (file : String)
  | form (error : FormError)

namespace Failure

def message : Failure → String
  | configFile file error => "loading config " ++ file ++ ": " ++ error.message
  | settings error => error.message
  | unreadableSchema file => "reading schema " ++ file
  | schema file error => "parsing schema " ++ file ++ ": " ++ error.message
  | unreadableValues file => "reading values " ++ file
  | malformedValues file => "parsing values " ++ file
  | valuesNotObject file => "values in " ++ file ++ " must be a JSON object"
  | form error => error.message

end Failure

/-- What a command that was carried out reports. -/
structure Report where
  value : Value
  /-- There is nothing to report. -/
  clean : Bool

/-- Code and text of a finished command; the text of the error if it failed. -/
structure Result where
  code : Nat
  output : String
  error : Option String
deriving DecidableEq, Repr, Inhabited

def exitClean : Nat := 0
def exitReported : Nat := 1
def exitFailed : Nat := 2

/-- The settings of a command. -/
def settings (around : Surroundings) (config : Option String) : Except Failure Settings :=
  match config with
  | some file =>
    match Settings.loadFile around.read around.environment file with
    | .ok s => .ok s
    | .error e => .error (.configFile file e)
  | none =>
    match Settings.load around.read around.environment with
    | .ok s => .ok s
    | .error e => .error (.settings e)

/-- The standard types with declarative conditions. -/
def standardContext : Context := { registry := .standard, conditions := .declarative }

/-- An engine for the schema in a file. -/
def engine (around : Surroundings) (settings : Settings) (file : String) : Except Failure Engine :=
  match around.read file with
  | none => .error (.unreadableSchema file)
  | some text =>
    match Schema.ofText text with
    | .error e => .error (.schema file e)
    | .ok schema =>
      if h : 0 < settings.maxPasses then .ok ⟨schema, standardContext, settings.maxPasses, h⟩
      else .error (.settings (.invalid .zeroPasses))

def values (around : Surroundings) (file : String) : Except Failure Value :=
  match around.read file with
  | none => .error (.unreadableValues file)
  | some text =>
    match Value.parse? text with
    | none => .error (.malformedValues file)
    | some (.obj fields) => .ok (.obj fields)
    | some _ => .error (.valuesNotObject file)

/-- The result of a computation on a form. -/
def outcome {α : Type} (x : Noted α) : Except Failure α :=
  match x.outcome with
  | .ok a => .ok a
  | .error e => .error (.form e)

/-- The notes that a fresh sink keeps. -/
def kept {α : Type} (x : Noted α) : List Diagnostic := (Diagnostics.recordAll {} x.notes).entries

/-- Carry out a command. Settings are read before the schema, and the schema before the values. -/
def carryOut (around : Surroundings) (arguments : Arguments) : Except Failure Report := do
  let settings ← settings around arguments.config
  match arguments.command with
  | .initial schema =>
    let engine ← engine around settings schema
    let initial ← outcome engine.initialValues
    pure ⟨initial, true⟩
  | .resolve schema file once tree =>
    let engine ← engine around settings schema
    let values ← values around file
    if once then
      let pass ← outcome (engine.resolveOnce values)
      pure ⟨passReport tree pass, true⟩
    else
      let resolving := engine.resolve values
      let resolution ← outcome resolving
      pure ⟨resolutionReport tree resolution (kept resolving),
        resolution.converged && resolution.missing.isEmpty⟩
  | .missing schema file =>
    let engine ← engine around settings schema
    let values ← values around file
    let resolution ← outcome (engine.resolve values)
    pure ⟨.arr (resolution.missing.map MissingField.toValue), resolution.missing.isEmpty⟩
  | .validate schema file =>
    let engine ← engine around settings schema
    let values ← values around file
    let (resolution, report) ← outcome (engine.validate values)
    pure ⟨validationReport resolution report, report.issues.isEmpty⟩

/-- The text of a report, with one line end after it. -/
def textOf (format : Format) (v : Value) : String :=
  let text := match format with
    | .json => v.renderIndented 0
    | .yaml => Yaml.render v
  trimBlankEnd text ++ "\n"

/-- Run a command. -/
def run (around : Surroundings) (arguments : Arguments) : Result :=
  match carryOut around arguments with
  | .ok report =>
    ⟨if report.clean then exitClean else exitReported, textOf arguments.format report.value, none⟩
  | .error failure => ⟨exitFailed, "", some failure.message⟩

end FormLogic.CommandLine
