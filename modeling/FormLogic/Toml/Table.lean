/-!
# Tables of TOML

A document is a table. A key is defined once. A table is opened by its header, or
comes about on the way to one below it or by a dotted key, and how it came about
decides what may still be added to it.
-/
namespace FormLogic.Toml

/-- How a table came about. -/
inductive Origin where
  /-- By its own header, or as the document. -/
  | opened
  /-- On the way to a table below it. -/
  | passed
  /-- By a dotted key. -/
  | dotted
deriving DecidableEq, Repr, Inhabited

/-- What stands under a key. -/
inductive Item where
  | int (n : Int)
  | bool (b : Bool)
  /-- A text, a fractional number, a date, a list, or a table in braces; nothing is added to it. -/
  | other
  | table (origin : Origin) (entries : List (String × Item))
  /-- Tables that headers in double brackets have opened, the last first. -/
  | tables (items : List (List (String × Item)))
deriving Inhabited

abbrev Table := List (String × Item)

namespace Table

/-- Change what stands under a key, or put something there. -/
def update? (key : String) (change : Option Item → Option Item) : Table → Option Table
  | [] => (change none).map fun item => [(key, item)]
  | (k, item) :: rest =>
    if k = key then (change (some item)).map fun item => (k, item) :: rest
    else (update? key change rest).map ((k, item) :: ·)

/-- Define a key in the table that dotted parts lead to. They lead through no table with a header of
its own, and end in none that only lies on the way to another. -/
def define? (key : String) (item : Item) : List String → Table → Option Table
  | [], table =>
    table.update? key fun found => if found.isSome then none else some item
  | part :: parts, table =>
    table.update? part fun found =>
      match found with
      | none => (define? key item parts []).map (.table .dotted)
      | some (.table .dotted entries) => (define? key item parts entries).map (.table .dotted)
      | some (.table .passed entries) =>
        if parts.isEmpty then none else (define? key item parts entries).map (.table .passed)
      | some _ => none

/-- Change the table that the parts of a header lead to. Of several tables it is the last. -/
def changeAt? (change : Table → Option Table) : List String → Table → Option Table
  | [], table => change table
  | part :: parts, table =>
    table.update? part fun found =>
      match found with
      | none => (changeAt? change parts []).map (.table .passed)
      | some (.table origin entries) => (changeAt? change parts entries).map (.table origin)
      | some (.tables (entries :: earlier)) =>
        (changeAt? change parts entries).map fun entries => .tables (entries :: earlier)
      | some _ => none

/-- Open a table by its header. -/
def open? (path : List String) (table : Table) : Option Table :=
  match path.getLast? with
  | none => none
  | some key =>
    let change (table : Table) : Option Table :=
      table.update? key fun found =>
        match found with
        | none => some (.table .opened [])
        | some (.table .passed entries) => some (.table .opened entries)
        | some _ => none
    table.changeAt? change path.dropLast

/-- Open a further one of several tables by its header. -/
def openNext? (path : List String) (table : Table) : Option Table :=
  match path.getLast? with
  | none => none
  | some key =>
    let change (table : Table) : Option Table :=
      table.update? key fun found =>
        match found with
        | none => some (.tables [[]])
        | some (.tables items) => some (.tables ([] :: items))
        | some _ => none
    table.changeAt? change path.dropLast

end Table
end FormLogic.Toml
