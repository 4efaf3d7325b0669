import FormLogic.Settings.Basic
import FormLogic.Toml.Document

/-!
# Settings in TOML

The entries of a document outside of its tables are settings; what stands in a
table must read, and is passed over.
-/
namespace FormLogic.Toml

def Item.setting : Item → RawSetting
  | .int n => .whole n
  | .bool b => .flag b
  | _ => .other

def settings? (text : String) : Option RawSettings :=
  (Table.ofText? text).map fun table => table.map fun (key, item) => (key, item.setting)

end FormLogic.Toml
