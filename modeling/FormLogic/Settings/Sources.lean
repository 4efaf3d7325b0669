import FormLogic.Settings.TomlEntries
import FormLogic.Settings.YamlEntries
import FormLogic.Value.Reader

/-!
# Where settings come from

From the files that are looked for by name, or from one file that is given, and
then from the environment.
-/
namespace FormLogic.Settings

/-- The name of settings files, before its extension. -/
def fileStem : String := "formwork"

/-- What the names of settings in the environment begin with. -/
def variableStem : String := "FORMWORK_"

/-- The extensions of settings files, a later one overriding an earlier one. -/
def extensions : List String := ["toml", "yaml", "yml", "json"]

/-- Settings in JSON, which must be an object. -/
def ofJson? (text : String) : Option RawSettings :=
  match Value.parse? text with
  | some (.obj fields) =>
    some (fields.map fun (key, v) =>
      match v with
      | .num (.int n) => (key, .whole n)
      | .bool b => (key, .flag b)
      | _ => (key, .other))
  | _ => none

/-- Settings in the format of an extension. -/
def ofFormat? (extension text : String) : Option RawSettings :=
  match extension with
  | "toml" => Toml.settings? text
  | "yaml" | "yml" => Yaml.settings? text
  | _ => ofJson? text

/-- The last part of a file name after a dot, if something stands before it. -/
def extension? (file : String) : Option String :=
  let name := (file.toList.reverse).takeWhile fun c => c != '/'
  let ending := name.takeWhile fun c => c != '.'
  match name.dropWhile fun c => c != '.' with
  | [] => none
  | _ :: stem =>
    if stem.isEmpty ∨ name = ['.', '.'] then none else some (String.ofList ending.reverse)

/-- The whole number a text is, with or without a sign, if it fits 64 bits. -/
def variableInt? (cs : List Char) : Option Int :=
  match cs with
  | '-' :: rest =>
    (Literal.digits? rest).bind fun n => if n ≤ Literal.signedBound then some (-(n : Int)) else none
  | _ => (Literal.wordOfChars? cs).map Int.ofNat

/-- What a variable of the environment stands for. Around a flag only ASCII white space is passed
over, around a number all white space. -/
def ofVariable (text : String) : RawSetting :=
  match trimAsciiBlank text with
  | "true" => .flag true
  | "false" => .flag false
  | _ =>
    match variableInt? (trimBlank text).toList with
    | some n => .whole n
    | none => .other

/-- The setting that a variable of the environment is for, read without regard to case and with the
parts that dots set apart. None of them may be empty. -/
def variableParts? (name : String) : Option (List String) :=
  let name := (trimBlank name).toList.map Char.toLower
  let stem := variableStem.toList.map Char.toLower
  if name.take stem.length = stem then
    let parts := (trimBlank (String.ofList (name.drop stem.length))).splitOn "."
    if parts.contains "" then none else some parts
  else none

/-- The settings among the entries of the environment. One with further parts is a table. -/
def ofEnvironment (environment : List (String × String)) : RawSettings :=
  environment.filterMap fun (name, text) =>
    match variableParts? name with
    | some [part] => some (part, ofVariable text)
    | some (part :: _) => some (part, .other)
    | _ => none

/-- One source, which must read. -/
def source (extension text : String) : Except SettingsError RawSettings :=
  match ofFormat? extension text with
  | some entries => .ok entries
  | none => .error .unreadable

/-- Settings from the files that are there, then from the environment. -/
def load (read : String → Option String) (environment : List (String × String)) :
    Except SettingsError Settings := do
  let files ← extensions.filterMapM fun ext =>
    match read (fileStem ++ "." ++ ext) with
    | some text => (source ext text).map some
    | none => .ok none
  ofSources (files ++ [ofEnvironment environment])

/-- Settings from one file, then from the environment. -/
def loadFile (read : String → Option String) (environment : List (String × String))
    (file : String) : Except SettingsError Settings :=
  match read file with
  | none => .error (.invalid (.notFound file))
  | some text =>
    match (extension? file).filter extensions.contains with
    | none => .error (.invalid (.unsupportedFormat file))
    | some ext => do
      let entries ← source ext text
      ofSources [entries, ofEnvironment environment]

end FormLogic.Settings
