import FormLogic.Number.Shortest
import FormLogic.Value.Basic
import FormLogic.Yaml.Character
import FormLogic.Yaml.Scalar

/-!
# Values as YAML text

Values are written in block style, and lists below a key are not indented further
than the key. A text is written plain where it then reads back as a text, between
quotes where it does not, and as a literal block when it has several lines.
-/
namespace FormLogic.Yaml

/-- Numbers have no sign on a positive exponent. -/
def numberLayout : FloatLayout := ⟨some (-5, 16), true, false, .even, ".inf", ".nan"⟩

/-- How a text is written. -/
inductive Style where
  | plain
  | single
  | double
  | literal
deriving DecidableEq, Repr, Inhabited

/-- Characters that are written as they are, outside of escapes. -/
def isPrintable (c : Char) : Bool :=
  let n := c.toNat
  n == 0x0A || (0x20 ≤ n && n ≤ 0x7E) || (0xA0 ≤ n && n ≤ 0xD7FF)
    || (0xE000 ≤ n && n ≤ 0xFFFD && n != 0xFEFF) || 0x10000 ≤ n

/-- Marks that may not begin a plain text. -/
def isIndicator (c : Char) : Bool := "#,[]\x7b\x7d&*!|>'\"%@\x60".toList.contains c

/-- Whether the rest of a text, after `before`, has a mark that ends a plain text. -/
def hasInnerMark : Option Char → List Char → Bool
  | _, [] => false
  | before, c :: rest =>
    (c == ':' && isBlankOrEnd rest.head?) || (c == '#' && isBlankOrEnd before)
      || hasInnerMark (some c) rest

/-- Whether a text begins or goes on as something other than a plain text. -/
def hasMark (cs : List Char) : Bool :=
  match cs with
  | [] => false
  | c :: rest =>
    cs.take 3 == ['-', '-', '-'] || cs.take 3 == ['.', '.', '.'] || isIndicator c
      || ((c == '?' || c == ':' || c == '-') && isBlankOrEnd rest.head?)
      || hasInnerMark (some c) rest

/-- Whether one of the neighbours satisfies both conditions in turn. -/
def hasPair (p q : Char → Bool) : List Char → Bool
  | c :: d :: rest => (p c && q d) || hasPair p q (d :: rest)
  | _ => false

/-- Whether a plain text would not read back as a text. -/
def needsQuotes (s : String) : Bool :=
  hasLeadingZero s.toList || Scalar.ofText s != .text

/-- The style of a text; a simple key has to stay on its line. -/
def styleOf (simpleKey : Bool) (s : String) : Style :=
  let cs := s.toList
  let space (c : Char) : Bool := c == ' '
  let special := cs.any (fun c => !isPrintable c) || hasPair space isBreak cs
  let breakSpace := hasPair isBreak space cs
  let leading := (cs.head?.map fun c => space c || isBreak c).getD false
  let trailingSpace := (cs.getLast?.map space).getD false
  let trailing := (cs.getLast?.map fun c => space c || isBreak c).getD false
  let multiline := cs.any isBreak
  let plain := !special && !breakSpace && !leading && !trailing && !multiline && !hasMark cs
  let single := !special && !breakSpace
  let quoted : Style := if single && !(simpleKey && multiline) then .single else .double
  if cs.contains '\n' then
    if cs.isEmpty || special || trailingSpace || simpleKey then .double else .literal
  else if needsQuotes s || !plain || cs.isEmpty then quoted
  else .plain

/-- Digits in base sixteen, at least `width` of them. -/
def hex (width n : Nat) : String :=
  let digits := (Nat.toDigits 16 n).map Char.toUpper
  String.ofList (List.replicate (width - digits.length) '0' ++ digits)

/-- One character between double quotes. -/
def escapeChar (c : Char) : String :=
  let n := c.toNat
  if isPrintable c && !isBreak c && c != '"' && c != '\\' then String.singleton c
  else
    match n with
    | 0x00 => "\\0"
    | 0x07 => "\\a"
    | 0x08 => "\\b"
    | 0x09 => "\\t"
    | 0x0A => "\\n"
    | 0x0B => "\\v"
    | 0x0C => "\\f"
    | 0x0D => "\\r"
    | 0x1B => "\\e"
    | 0x22 => "\\\""
    | 0x5C => "\\\\"
    | 0x85 => "\\N"
    | 0x2028 => "\\L"
    | 0x2029 => "\\P"
    | _ => if n ≤ 0xFF then "\\x" ++ hex 2 n else "\\u" ++ hex 4 n

/-- Blanks up to a column. -/
def pad (column : Nat) : String := String.ofList (List.replicate column ' ')

/-- The lines of a literal block, each after its indentation; empty lines have none. -/
def literalLines (column : Nat) (afterBreak : Bool) : List Char → List Char
  | [] => []
  | c :: rest =>
    let before := if afterBreak && !isBreak c then List.replicate column ' ' else []
    before ++ c :: literalLines column (isBreak c) rest

/-- A literal block. Its header tells whether it begins with blanks and how its last line ends. -/
def literalBlock (column : Nat) (s : String) : String :=
  let cs := s.toList
  let hint := if (cs.head?.map fun c => c == ' ' || isBreak c).getD false then "2" else ""
  let ended := (cs.getLast?.map isBreak).getD false
  let keep := (cs.dropLast.getLast?.map isBreak).getD true
  "|" ++ hint ++ (if !ended then "-" else if keep then "+" else "") ++ "\n"
    ++ String.ofList (literalLines column true cs) ++ (if ended then "" else "\n")

/-- A text between single quotes, where a quote is doubled. Lines after the first are indented, and
so is the closing quote on a line of its own. -/
def singleQuoted (column : Nat) (s : String) : String :=
  let indent (afterBreak : Bool) : List Char := if afterBreak then List.replicate column ' ' else []
  let rec go (afterBreak : Bool) : List Char → List Char
    | [] => indent afterBreak
    | c :: rest =>
      if isBreak c then c :: go true rest
      else indent afterBreak ++ (if c == '\'' then ['\'', '\''] else [c]) ++ go false rest
  "'" ++ String.ofList (go false s.toList) ++ "'"

def doubleQuoted (s : String) : String :=
  "\"" ++ s.foldl (fun acc c => acc ++ escapeChar c) "" ++ "\""

/-- A text in its style, ending its line. Continued lines stand at `column`. -/
def textLine (column : Nat) (s : String) : String :=
  match styleOf false s with
  | .plain => s ++ "\n"
  | .single => singleQuoted column s ++ "\n"
  | .double => doubleQuoted s ++ "\n"
  | .literal => literalBlock column s

/-- A key that stays on its line. -/
def simpleKey (s : String) : String :=
  match styleOf true s with
  | .plain => s
  | .single => singleQuoted 0 s
  | _ => doubleQuoted s

/-- Whether a key can stay on its line: one line of at most 128 bytes. -/
def isSimpleKey (s : String) : Bool := !s.toList.any isBreak && s.utf8ByteSize ≤ 128

def number : Number → String
  | .int n => toString n
  | .float x => numberLayout.render x

/-- The blank between a key and a value on its line. -/
def gap (afterKey : Bool) : String := if afterKey then " " else ""

/-- The line end and the blanks before a value that does not fit on the line of its key. -/
def newLine (afterKey : Bool) (column : Nat) : String := if afterKey then "\n" ++ pad column else ""

/-- A key with what stands between it and its value. -/
def keyText (column : Nat) (key : String) : String :=
  if isSimpleKey key then simpleKey key ++ ":"
  else "? " ++ textLine (column + 2) key ++ pad column ++ ": "

mutual
/-- A value: after a key at `column`, or with its first line begun at `column` as after the dash of
a list. -/
def write (afterKey : Bool) (column : Nat) : Value → String
  | .null => gap afterKey ++ "null\n"
  | .bool b => gap afterKey ++ (if b then "true\n" else "false\n")
  | .num n => gap afterKey ++ number n ++ "\n"
  | .str s => gap afterKey ++ textLine (if afterKey then column + 2 else column) s
  | .arr [] => gap afterKey ++ "[]\n"
  | .obj [] => gap afterKey ++ "\x7b\x7d\n"
  | .arr (v :: rest) =>
    newLine afterKey column ++ "- " ++ write false (column + 2) v ++ writeItems column rest
  | .obj ((k, v) :: rest) =>
    let column := if afterKey then column + 2 else column
    newLine afterKey column ++ keyText column k
      ++ write (isSimpleKey k) (if isSimpleKey k then column else column + 2) v
      ++ writeEntries column rest
/-- The further items of a list at `column`. -/
def writeItems (column : Nat) : List Value → String
  | [] => ""
  | v :: rest => pad column ++ "- " ++ write false (column + 2) v ++ writeItems column rest
/-- The further entries of an object at `column`. -/
def writeEntries (column : Nat) : List (String × Value) → String
  | [] => ""
  | (k, v) :: rest =>
    pad column ++ keyText column k
      ++ write (isSimpleKey k) (if isSimpleKey k then column else column + 2) v
      ++ writeEntries column rest
end

/-- A document. The further lines of a lone text are indented. -/
def render : Value → String
  | .str s => textLine 2 s
  | v => write false 0 v

end FormLogic.Yaml
