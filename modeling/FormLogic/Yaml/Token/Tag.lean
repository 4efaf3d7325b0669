import FormLogic.Text.Hexadecimal
import FormLogic.Yaml.Cursor
import FormLogic.Yaml.Token

/-!
# Tags, anchors and directives of a document

Each is read after its first mark. A tag is written in full between angle
brackets, or by a handle between exclamation marks that a directive explains.
-/
namespace FormLogic.Yaml.Token

/-- One byte given by two hexadecimal digits after a percent sign. -/
def escapedByte? : List Char → Option (UInt8 × List Char)
  | '%' :: rest => do
    let digits := rest.take 2
    let n ← Hexadecimal.number? 16 digits
    if digits.length = 2 then some (UInt8.ofNat n, rest.drop 2) else none
  | _ => none

/-- How many bytes a character has whose first byte is `b`. -/
def encodedLength? (b : UInt8) : Option Nat :=
  if b < 0x80 then some 1
  else if b &&& 0xE0 == 0xC0 then some 2
  else if b &&& 0xF0 == 0xE0 then some 3
  else if b &&& 0xF8 == 0xF0 then some 4
  else none

/-- Read `n` further bytes of an escaped character. -/
def continuation? : Nat → List Char → Option (Tag × List Char)
  | 0, cs => some ([], cs)
  | n + 1, cs => do
    let (b, rest) ← escapedByte? cs
    let (more, rest) ← if b &&& 0xC0 == 0x80 then continuation? n rest else none
    some (b :: more, rest)

def escapedChar? (cs : List Char) : Option (Tag × List Char) := do
  let (b, rest) ← escapedByte? cs
  let length ← encodedLength? b
  let (more, rest) ← continuation? (length - 1) rest
  some (b :: more, rest)

/-- Characters of a tag. One written in full, or as the start of others, may also hold brackets and
commas. -/
def isTagChar (full : Bool) (c : Char) : Bool :=
  isNameChar c || ";/?:@&=+$.%!~*'()".toList.contains c || (full && ",[]".toList.contains c)

def tagText? (full : Bool) : Nat → Cursor → Option (Tag × Cursor)
  | 0, _ => none
  | fuel + 1, at_ =>
    match at_.rest with
    | [] => some ([], at_)
    | c :: _ =>
      if !isTagChar full c then some ([], at_)
      else if c == '%' then do
        let (bytes, rest) ← escapedChar? at_.rest
        let (more, after) ← tagText? full fuel (at_.skip (at_.rest.length - rest.length))
        some (bytes ++ more, after)
      else do
        let (more, after) ← tagText? full fuel at_.next
        some (UInt8.ofNat c.toNat :: more, after)

/-- Read the text of a tag. Nothing counts of it from a zero byte on. -/
def tagRest? (full : Bool) (at_ : Cursor) : Option (Tag × Cursor) :=
  tagText? full (at_.rest.length + 1) at_

/-- What counts of the bytes of a tag. -/
def cut (bytes : Tag) : Tag := bytes.takeWhile (· != 0)

/-- An exclamation mark with the name after it, and with the mark that closes it if there is one. -/
def tagHandle? (at_ : Cursor) : Option (String × Cursor) :=
  if at_.sees '!' then
    let name := at_.next.run isNameChar
    let after := at_.next.skip name.length
    if after.sees '!' then some (String.ofList ('!' :: name ++ ['!']), after.next)
    else some (String.ofList ('!' :: name), after)
  else none

/-- Whether a handle is closed by a second exclamation mark. -/
def isClosed (handle : String) : Bool := 1 < handle.length && handle.back == '!'

/-- Read a tag, which a blank, a line end, or in a flow collection a comma has to follow. -/
def tag? (flow : Bool) (at_ : Cursor) : Option (Token × Cursor) := do
  let (token, at_) ←
    if at_.peek 1 == some '<' then do
      let (bytes, at_) ← tagRest? true (at_.skip 2)
      if bytes.isEmpty || !at_.sees '>' then none
      else some (Token.tag [] (cut bytes), at_.next)
    else do
      let (handle, after) ← tagHandle? at_
      if isClosed handle then
        let (bytes, at_) ← tagRest? false after
        if bytes.isEmpty then none else some (.tag (Tag.ofString handle) (cut bytes), at_)
      else
        let (bytes, at_) ← tagRest? false after
        let bytes := cut ((Tag.ofString handle).drop 1 ++ bytes)
        if bytes.isEmpty then some (.tag [] (Tag.ofString "!"), at_)
        else some (.tag (Tag.ofString "!") bytes, at_)
  if (flow && at_.sees ',') || at_.endsAt 0 then some (token, at_) else none

/-- Read the name of an anchor or of an alias, and look at what follows it. -/
def anchorName? (at_ : Cursor) : Option (String × Cursor) :=
  let name := at_.run isNameChar
  let after := at_.skip name.length
  let ends := after.endsAt 0 || ((after.peek 0).map ("?:,]\x7d%@\x60".toList.contains ·)).getD false
  if name.isEmpty || !ends then none else some (String.ofList name, after)

/-- A number of a version has nine digits at most. -/
def versionNumber? (at_ : Cursor) : Option (Nat × Cursor) :=
  let digits := at_.run Char.isDigit
  if digits.length ≤ 9 then (Hexadecimal.number? 10 digits).map (·, at_.skip digits.length)
  else none

/-- Read a directive after its percent sign, to the end of its line. -/
def directive? (at_ : Cursor) : Option (Token × Cursor) := do
  let name := at_.run isNameChar
  let at_ := at_.skip name.length
  if name.isEmpty || !at_.endsAt 0 then none
  else
    let at_ := at_.skipRun isBlank
    let (token, at_) ←
      match String.ofList name with
      | "YAML" => do
        let (major, at_) ← versionNumber? at_
        if !at_.sees '.' then none
        else
          let (minor, at_) ← versionNumber? at_.next
          some (Token.version major minor, at_)
      | "TAG" => do
        let (handle, at_) ← tagHandle? at_
        if !(handle == "!" || isClosed handle) || !((at_.peek 0).map isBlank).getD false then none
        else
          let (start, at_) ← tagRest? true (at_.skipRun isBlank)
          if start.isEmpty || !at_.endsAt 0 then none
          else some (.tagHandle (Tag.ofString handle) (cut start), at_)
      | _ => none
    (at_.skipLine?).map (token, ·)

end FormLogic.Yaml.Token
