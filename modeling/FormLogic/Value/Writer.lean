import FormLogic.Number.Shortest
import FormLogic.Value.Basic

/-!
# Values as JSON text

The compact form has no blanks and the indented form two spaces a level. Both
write the fields of an object in the order they are kept.
-/
namespace FormLogic

/-- Numbers in a document: an exponent below `1e-5` and from `1e16` on, signed either way, and `.0`
after a whole number. What is no finite number is written as null. -/
def FloatLayout.document : FloatLayout := ⟨some (-5, 16), true, true, .even, "null", "null"⟩

namespace Number

/-- A number in a document. -/
def render : Number → String
  | .int n => toString n
  | .float x => if x.isFinite then FloatLayout.document.render x else "null"

end Number

namespace Value

def hexDigit (n : Nat) : Char := (Nat.digitChar n)

/-- One character inside a quoted text. -/
def escapeChar (c : Char) : String :=
  match c with
  | '"' => "\\\""
  | '\\' => "\\\\"
  | '\n' => "\\n"
  | '\r' => "\\r"
  | '\t' => "\\t"
  | _ =>
    if c.toNat = 8 then "\\b"
    else if c.toNat = 12 then "\\f"
    else if c.toNat < 32 then
      "\\u00" ++ String.ofList [hexDigit (c.toNat / 16), hexDigit (c.toNat % 16)]
    else String.singleton c

def quote (s : String) : String :=
  "\"" ++ s.foldl (fun acc c => acc ++ escapeChar c) "" ++ "\""

mutual
/-- The compact form. -/
def render : Value → String
  | .null => "null"
  | .bool b => if b then "true" else "false"
  | .num n => n.render
  | .str s => quote s
  | .arr items => "[" ++ renderItems items ++ "]"
  | .obj fields => "\x7b" ++ renderFields fields ++ "\x7d"
def renderItems : List Value → String
  | [] => ""
  | [v] => v.render
  | v :: rest => v.render ++ "," ++ renderItems rest
def renderFields : List (String × Value) → String
  | [] => ""
  | [(k, v)] => quote k ++ ":" ++ v.render
  | (k, v) :: rest => quote k ++ ":" ++ v.render ++ "," ++ renderFields rest
end

/-- The blanks that begin a line at a depth. -/
def indent (depth : Nat) : String := String.ofList (List.replicate (2 * depth) ' ')

mutual
/-- The indented form of a value whose first line stands at `depth`. -/
def renderIndented (depth : Nat) : Value → String
  | .arr [] => "[]"
  | .obj [] => "\x7b\x7d"
  | .arr items => "[\n" ++ indentedItems (depth + 1) items ++ "\n" ++ indent depth ++ "]"
  | .obj fields => "\x7b\n" ++ indentedFields (depth + 1) fields ++ "\n" ++ indent depth ++ "\x7d"
  | .null => "null"
  | .bool b => if b then "true" else "false"
  | .num n => n.render
  | .str s => quote s
def indentedItems (depth : Nat) : List Value → String
  | [] => ""
  | [v] => indent depth ++ v.renderIndented depth
  | v :: rest => indent depth ++ v.renderIndented depth ++ ",\n" ++ indentedItems depth rest
def indentedFields (depth : Nat) : List (String × Value) → String
  | [] => ""
  | [(k, v)] => indent depth ++ quote k ++ ": " ++ v.renderIndented depth
  | (k, v) :: rest =>
    indent depth ++ quote k ++ ": " ++ v.renderIndented depth ++ ",\n" ++ indentedFields depth rest
end

/-- The text a value is compared by: a text as it is, null as empty, all else in compact form. -/
def text : Value → String
  | .null => ""
  | .str s => s
  | v => v.render

/-- Loose equality, by which conditions compare: equal, or of the same text. -/
def looseEq (a b : Value) : Bool := a == b || a.text == b.text

end Value
end FormLogic
