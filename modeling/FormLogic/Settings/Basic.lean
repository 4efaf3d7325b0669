import FormLogic.Number.Literal

/-!
# Settings

How many passes a resolution may take, and whether notes are also logged. Sources
give raw entries; a later source overrides an earlier one, and entries with other
names are passed over.
-/
namespace FormLogic

/-- What a source gives under a name. -/
inductive RawSetting where
  | whole (n : Int)
  | flag (b : Bool)
  /-- Anything that is neither. -/
  | other
deriving DecidableEq, Repr, Inhabited

/-- The entries of one source, a repeated name counting last. -/
abbrev RawSettings := List (String × RawSetting)

/-- Why settings that were read cannot be used. -/
inductive SettingsFault where
  | zeroPasses
  | notFound (file : String)
  | unsupportedFormat (file : String)
deriving DecidableEq, Repr, Inhabited

inductive SettingsError where
  /-- A source does not read, or holds a value of the wrong kind. -/
  | unreadable
  | invalid (fault : SettingsFault)
deriving DecidableEq, Repr, Inhabited

namespace SettingsError

def message : SettingsError → String
  | unreadable => "configuration error"
  | invalid fault =>
    "invalid configuration: " ++ match fault with
      | .zeroPasses => "max_passes must be at least 1"
      | .notFound file => "config file not found: " ++ file
      | .unsupportedFormat file => "unsupported config format: " ++ file

end SettingsError

structure Settings where
  maxPasses : Nat := 8
  /-- Notes are logged as warnings. They are kept either way. -/
  warnUnknownTypes : Bool := true
deriving DecidableEq, Repr, Inhabited

namespace Settings

/-- The last entry of a name among sources in order. -/
def lastEntry (name : String) (sources : List RawSettings) : Option RawSetting :=
  sources.flatten.foldl (fun found entry => if entry.1 = name then some entry.2 else found) none

/-- Settings from sources in order, over the defaults. -/
def ofSources (sources : List RawSettings) : Except SettingsError Settings := do
  let maxPasses ← match lastEntry "max_passes" sources with
    | none => .ok 8
    | some (.whole n) => if 0 ≤ n ∧ n ≤ Literal.wordMax then .ok n.toNat else .error .unreadable
    | some _ => .error .unreadable
  let warnUnknownTypes ← match lastEntry "warn_unknown_types" sources with
    | none => .ok true
    | some (.flag b) => .ok b
    | some _ => .error .unreadable
  if maxPasses = 0 then .error (.invalid .zeroPasses) else .ok { maxPasses, warnUnknownTypes }

end Settings
end FormLogic
