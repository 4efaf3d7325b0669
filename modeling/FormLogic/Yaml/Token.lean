import FormLogic.Yaml.Character

/-!
# Tokens of a document

What the lines of a document are made of. Indentation has become tokens of its
own: a block collection has a start and an end like one in brackets, and the key
of a simple entry has a mark before it like one after a question mark.
-/
namespace FormLogic.Yaml

/-- A tag as it is written out, in bytes. -/
abbrev Tag := List UInt8

namespace Tag

def ofString (s : String) : Tag := s.toUTF8.toList

/-- What the tags of the standard types begin with. -/
def standard : Tag := ofString "tag:yaml.org,2002:"

/-- Tags that are private to a document begin with an exclamation mark. -/
def isLocal (tag : Tag) : Bool := tag.head? == some 33

/-- Whether a tag is local and names a type, as a text. -/
def isName (tag : Tag) : Bool := tag.isLocal && (ByteArray.mk (tag.drop 1).toArray).validateUTF8

end Tag

inductive Token where
  | version (major minor : Nat)
  | tagHandle (handle start : Tag)
  | documentStart
  | documentEnd
  | blockSequenceStart
  | blockMappingStart
  | blockEnd
  | flowSequenceStart
  | flowSequenceEnd
  | flowMappingStart
  | flowMappingEnd
  | blockEntry
  | flowEntry
  | key
  | value
  | reference (name : String)
  | anchor (name : String)
  /-- A tag by its handle, which is empty for one written in full, and by the rest of it. -/
  | tag (handle rest : Tag)
  | scalar (plain : Bool) (text : String)
deriving DecidableEq, Repr, Inhabited

end FormLogic.Yaml
