import FormLogic.Toml.Scalar
import FormLogic.Toml.Table

/-!
# Documents of TOML

A document is a sequence of lines: entries, headers of tables, comments. Lists
go over several lines, tables in braces do not, and both nest to a limit.
-/
namespace FormLogic.Toml

/-- Blanks, comments and line ends. -/
def skipLines : Nat → List Char → List Char
  | 0, cs => cs
  | fuel + 1, cs =>
    let cs := skipComment (skipBlank cs)
    match afterNewline? cs with
    | some rest => skipLines fuel rest
    | none => cs

/-- A word that stands for a value. -/
def afterWord? (word : String) (cs : List Char) : Option (List Char) :=
  let letters := word.toList
  if cs.take letters.length = letters then some (cs.drop letters.length) else none

/-- A value that holds no others. -/
def scalar? (cs : List Char) : Option (Item × List Char) :=
  match cs with
  | 't' :: _ => (afterWord? "true" cs).map (.bool true, ·)
  | 'f' :: _ => (afterWord? "false" cs).map (.bool false, ·)
  | _ =>
    match afterDateTime? cs with
    | some rest => some (.other, rest)
    | none =>
      match afterFloat? cs with
      | some rest => some (.other, rest)
      | none => (int? cs).map fun (n, rest) => (.int n, rest)

mutual
/-- A value, at most `depth` levels deep. -/
def value? (fuel depth : Nat) (cs : List Char) : Option (Item × List Char) :=
  match fuel with
  | 0 => none
  | fuel + 1 =>
    match cs with
    | '"' :: rest => (text? '"' rest).map fun (_, rest) => (.other, rest)
    | '\'' :: rest => (text? '\'' rest).map fun (_, rest) => (.other, rest)
    | '[' :: rest => if depth = 0 then none else items? fuel (depth - 1) rest
    | '\x7b' :: rest =>
      if depth = 0 then none
      else
        match skipBlank rest with
        | '\x7d' :: rest => some (.other, rest)
        | rest => entries? fuel (depth - 1) [] rest
    | _ => scalar? cs
/-- The rest of a list. A comma may follow the last value. -/
def items? (fuel depth : Nat) (cs : List Char) : Option (Item × List Char) :=
  match fuel with
  | 0 => none
  | fuel + 1 =>
    match skipLines (cs.length + 1) cs with
    | ']' :: rest => some (.other, rest)
    | cs => do
      let (_, rest) ← value? fuel depth cs
      match skipLines (rest.length + 1) rest with
      | ',' :: rest => items? fuel depth rest
      | ']' :: rest => some (.other, rest)
      | _ => none
/-- The rest of a table in braces. -/
def entries? (fuel depth : Nat) (found : Table) (cs : List Char) : Option (Item × List Char) :=
  match fuel with
  | 0 => none
  | fuel + 1 => do
    let (path, rest) ← key? cs
    let rest ← after? '=' (skipBlank rest)
    let (item, rest) ← value? fuel depth (skipBlank rest)
    let found ← found.define? (path.getLast?.getD "") item path.dropLast
    match skipBlank rest with
    | ',' :: rest => entries? fuel depth found rest
    | '\x7d' :: rest => some (.other, rest)
    | _ => none
end

/-- Read the rest of a document, whose entries now belong to the table at `path`. -/
def lines?From : Nat → List String → Table → List Char → Option Table
  | 0, _, _, _ => none
  | fuel + 1, path, table, cs =>
    match skipBlank cs with
    | [] => some table
    | '[' :: '[' :: rest => do
      let (header, rest) ← key? rest
      let rest ← after? ']' (← after? ']' rest)
      let table ← table.openNext? header
      lines?From fuel header table (← afterLine? rest)
    | '[' :: rest => do
      let (header, rest) ← key? rest
      let rest ← after? ']' rest
      let table ← table.open? header
      lines?From fuel header table (← afterLine? rest)
    | cs =>
      match afterLine? cs with
      | some rest => lines?From fuel path table rest
      | none => do
        let (key, rest) ← key? cs
        let rest ← after? '=' rest
        let (item, rest) ← value? (rest.length + 1) maxDepth (skipBlank rest)
        let define (table : Table) : Option Table :=
          table.define? (key.getLast?.getD "") item key.dropLast
        let table ← table.changeAt? define path
        lines?From fuel path table (← afterLine? rest)

/-- The table of a document. A mark of the byte order may come first. -/
def Table.ofText? (text : String) : Option Table :=
  let cs := match text.toList with
    | c :: rest => if c.toNat = 0xFEFF then rest else c :: rest
    | [] => []
  lines?From (cs.length + 1) [] [] cs

end FormLogic.Toml
