import FormLogic.Text.Age
import FormLogic.Text.Segmentation

/-!
# Classes by property

A class may name a property, a general category or a script, or a property together
with a value.
-/
namespace FormLogic.Pattern.Property

/-- A name as it is compared: without a leading `is`, in lower case, and without separators and
characters beyond ASCII. The short name of one category looks like `is` itself. -/
def normalize (name : List Char) : String :=
  let (marked, rest) : Bool × List Char :=
    match name with
    | i :: s :: rest =>
      if i.toLower = 'i' ∧ s.toLower = 's' then (true, rest) else (false, name)
    | _ => (false, name)
  let kept := rest.filter fun c => c.toNat < 128 && !([' ', '_', '-'].contains c)
  let lower := String.ofList (kept.map Char.toLower)
  if marked ∧ lower = "c" then "isc" else lower

/-- The set of a name that stands alone. -/
def ofName? (name : String) : Option CharSet :=
  CharProperty.ofName? name <|> GeneralCategory.ofName? name <|> Script.ofName? name

/-- The set of a property and a value. -/
def ofValue? (property value : String) : Option CharSet :=
  let is (names : List String) : Bool := names.contains property
  if is ["gc", "generalcategory"] then GeneralCategory.ofName? value
  else if is ["sc", "script"] then Script.ofName? value
  else if is ["scx", "scriptextensions"] then Script.usedWithName? value
  else if is ["age"] then Age.upTo? value
  else if is ["gcb", "graphemeclusterbreak"] then CharSet.find? Segmentation.Grapheme.classes value
  else if is ["wb", "wordbreak"] then CharSet.find? Segmentation.Word.classes value
  else if is ["sb", "sentencebreak"] then CharSet.find? Segmentation.Sentence.classes value
  else none

/-- The name and the value in the text of a class, which are set apart by the first of these marks
that occurs: `!=`, a colon, an equals sign. -/
def split? (text : List Char) : Option (List Char × List Char) :=
  atInequality? [] text <|> atMark? ':' <|> atMark? '='
where
  atInequality? (before : List Char) : List Char → Option (List Char × List Char)
  | '!' :: '=' :: rest => some (before.reverse, rest)
  | c :: rest => atInequality? (c :: before) rest
  | [] => none
  atMark? (mark : Char) : Option (List Char × List Char) :=
    match text.dropWhile fun c => c != mark with
    | _ :: rest => some (text.takeWhile fun c => c != mark, rest)
    | [] => none

/-- The set of the text in a class. `!=` means the same as an equals sign. -/
def ofText? (text : String) : Option CharSet :=
  match split? text.toList with
  | some (property, value) => ofValue? (normalize property) (normalize value)
  | none => ofName? (normalize text.toList)

end FormLogic.Pattern.Property
