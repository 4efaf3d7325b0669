import FormLogic.Number.Literal

/-!
# Paths

A path is a text of segments set apart by dots, such as `vehicles.2.plate`.
Empty segments say nothing: `.a..b` addresses what `a.b` addresses, and the empty
path addresses the root. Only the segments matter for reading and writing, while
joining and stripping work on the text.
-/
namespace FormLogic.Path

def separator : Char := '.'

/-- The runs of characters between separators, empty ones included. -/
def runs : List Char → List (List Char)
  | [] => [[]]
  | c :: rest =>
    if c = separator then [] :: runs rest
    else
      match runs rest with
      | [] => [[c]]
      | run :: more => (c :: run) :: more

/-- The segments of a path: its non-empty runs. -/
def segments (path : String) : List String :=
  ((runs path.toList).filter fun run => !run.isEmpty).map String.ofList

/-- Put a segment or path below another; an empty side adds nothing. -/
def join (parent segment : String) : String :=
  if parent = "" then segment
  else if segment = "" then parent
  else parent ++ String.singleton separator ++ segment

/-- The path of one row of a repeater. -/
def row (path : String) (index : Nat) : String := join path (toString index)

/-- What is left of a list after a leading part. -/
def after? : List Char → List Char → Option (List Char)
  | [], cs => some cs
  | _ :: _, [] => none
  | l :: ls, c :: cs => if l = c then after? ls cs else none

/-- A path seen from `base`: what follows `base` and a separator, or the path itself when it does
not lie below `base`. -/
def relative (base path : String) : String :=
  if base = "" then path
  else
    match after? (base.toList ++ [separator]) path.toList with
    | some rest => String.ofList rest
    | none => path

/-- A segment as the index of a row. -/
def index? (segment : String) : Option Nat := Literal.word? segment

end FormLogic.Path
