import FormLogic.Path
import FormLogic.Value.Writer

/-!
# Reading and writing at a path

Reading follows segments through objects by key and through lists by index.
Writing creates the objects that are missing, turns a null on the way into an
object, and may append one item to a list. `Value.write` gives the value as the
write leaves it together with what stopped it, if anything did.
-/
namespace FormLogic

/-- What stops a write on its way down. -/
inductive PathFault where
  /-- A list is reached by a segment that is no index. -/
  | notAnIndex (segment : String)
  /-- A list is entered at a row it does not have. -/
  | noSuchRow (index rows : Nat)
  /-- A list is written further than one past its end. -/
  | pastTheEnd (index rows : Nat)
  /-- A scalar is reached with more than one segment left. -/
  | throughScalar (segment : String) (scalar : Value)
  /-- A scalar is reached with one segment left. -/
  | belowScalar (scalar : Value)
deriving Inhabited

namespace PathFault

/-- The reason in words. -/
def reason : PathFault → String
  | notAnIndex segment => "'" ++ segment ++ "' is not a row index"
  | noSuchRow index rows =>
    "row " ++ toString index ++ " does not exist (" ++ toString rows ++ " rows)"
  | pastTheEnd index rows =>
    "row " ++ toString index ++ " is past the end of " ++ toString rows ++ " rows"
  | throughScalar segment scalar =>
    "'" ++ segment ++ "' is reached through a scalar (" ++ scalar.render ++ ")"
  | belowScalar scalar => "parent holds a scalar (" ++ scalar.render ++ ")"

end PathFault

namespace Value

/-- One step down, if there is something. -/
def child? (segment : String) : Value → Option Value
  | .obj fields => fields.lookup segment
  | .arr items => (Path.index? segment).bind fun i => items[i]?
  | _ => none

/-- The value below a list of segments. -/
def follow (v : Value) : List String → Option Value
  | [] => some v
  | segment :: rest => (v.child? segment).bind fun below => below.follow rest

/-- The value at a path. The empty path addresses the whole. -/
def get? (v : Value) (path : String) : Option Value := v.follow (Path.segments path)

/-- The container a write works in: null counts as an empty object. -/
def orEmpty : Value → Value
  | .null => empty
  | v => v

/-- Write below a list of segments. On a fault the value is as far as the write got. -/
def write (new : Value) : List String → Value → Value × Option PathFault
  | [], _ => (new, none)
  | segment :: rest, v =>
    match v.orEmpty with
    | .obj fields =>
      let (below, fault) := write new rest ((fields.lookup segment).getD empty)
      (.obj (Fields.put segment below fields), fault)
    | .arr items =>
      match Path.index? segment with
      | none => (.arr items, some (.notAnIndex segment))
      | some i =>
        match items[i]? with
        | some item =>
          let (below, fault) := write new rest item
          (.arr (items.set i below), fault)
        | none =>
          if rest.isEmpty then
            if i = items.length then (.arr (items ++ [new]), none)
            else (.arr items, some (.pastTheEnd i items.length))
          else (.arr items, some (.noSuchRow i items.length))
    | scalar =>
      (scalar, some (if rest.isEmpty then .belowScalar scalar else .throughScalar segment scalar))

def set (v : Value) (path : String) (new : Value) : Value × Option PathFault :=
  write new (Path.segments path) v

end Value
end FormLogic
