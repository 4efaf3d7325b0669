import FormLogic.Text.Hexadecimal

/-!
# Texts, keys and comments of TOML

Texts stand between single quotes, which hold them as they are, or between double
quotes, where escapes count. Three quotes hold a text of several lines.
-/
namespace FormLogic.Toml

/-- Blanks within a line. -/
def isBlank (c : Char) : Bool := c == ' ' || c == '\t'

def skipBlank (cs : List Char) : List Char := cs.dropWhile isBlank

/-- What follows a line end, if one comes first. A carriage return does not end a line alone. -/
def afterNewline? : List Char → Option (List Char)
  | '\n' :: rest => some rest
  | '\r' :: '\n' :: rest => some rest
  | _ => none

/-- Characters of comments and texts: no control characters but the tab. -/
def isPlain (c : Char) : Bool := c == '\t' || (0x20 ≤ c.toNat && c.toNat != 0x7F)

/-- What follows a comment, if one comes first. -/
def skipComment : List Char → List Char
  | '#' :: rest => rest.dropWhile isPlain
  | cs => cs

/-- What follows the end of a line that may hold blanks and a comment. -/
def afterLine? (cs : List Char) : Option (List Char) :=
  match skipComment (skipBlank cs) with
  | [] => some []
  | cs => afterNewline? cs

/-- The character of an escape after its backslash. -/
def escape? : List Char → Option (Char × List Char)
  | [] => none
  | c :: rest =>
    match c with
    | 'b' => some (Char.ofNat 8, rest)
    | 't' => some ('\t', rest)
    | 'n' => some ('\n', rest)
    | 'f' => some (Char.ofNat 12, rest)
    | 'r' => some ('\r', rest)
    | '"' | '\\' => some (c, rest)
    | 'u' => Hexadecimal.char? 4 rest
    | 'U' => Hexadecimal.char? 8 rest
    | _ => none

/-- The rest of a text of one line up to its closing quote. -/
def line? (quote : Char) : Nat → List Char → List Char → Option (String × List Char)
  | 0, _, _ => none
  | fuel + 1, acc, cs =>
    match cs with
    | [] => none
    | c :: rest =>
      if c == quote then some (String.ofList acc.reverse, rest)
      else if c == '\\' && quote == '"' then
        match escape? rest with
        | some (e, rest) => line? quote fuel (e :: acc) rest
        | none => none
      else if isPlain c then line? quote fuel (c :: acc) rest
      else none

/-- What follows the blanks and line ends after a backslash at the end of a line. -/
def afterEscapedNewline? (cs : List Char) : Option (List Char) :=
  let rec skip : Nat → List Char → List Char
    | 0, cs => cs
    | fuel + 1, cs =>
      match afterNewline? (skipBlank cs) with
      | some rest => skip fuel rest
      | none => skipBlank cs
  (afterNewline? (skipBlank cs)).map fun rest => skip rest.length rest

/-- The rest of a text of several lines up to its three closing quotes. One or two quotes are
content, also right before the closing ones. -/
def lines? (quote : Char) : Nat → List Char → List Char → Option (String × List Char)
  | 0, _, _ => none
  | fuel + 1, acc, cs =>
    match cs with
    | [] => none
    | c :: rest =>
      if c == quote then
        let count := (cs.takeWhile (· == quote)).length
        let after := cs.drop count
        if count ≤ 2 then lines? quote fuel (List.replicate count quote ++ acc) after
        else if count ≤ 5 then
          some (String.ofList (List.replicate (count - 3) quote ++ acc).reverse, after)
        else none
      else
        match afterNewline? cs with
        | some rest => lines? quote fuel ('\n' :: acc) rest
        | none =>
          if c == '\\' && quote == '"' then
            match afterEscapedNewline? rest with
            | some rest => lines? quote fuel acc rest
            | none =>
              match escape? rest with
              | some (e, rest) => lines? quote fuel (e :: acc) rest
              | none => none
          else if isPlain c then lines? quote fuel (c :: acc) rest
          else none

/-- A text after its first quote. A line end right after three quotes does not count. -/
def text? (quote : Char) (cs : List Char) : Option (String × List Char) :=
  if cs.take 2 = [quote, quote] then
    let body := cs.drop 2
    lines? quote (body.length + 1) [] ((afterNewline? body).getD body)
  else line? quote (cs.length + 1) [] cs

def isBareKeyChar (c : Char) : Bool := c.isAlphanum || c == '_' || c == '-'

/-- A key without dots. -/
def simpleKey? (cs : List Char) : Option (String × List Char) :=
  match cs with
  | '"' :: rest => line? '"' (rest.length + 1) [] rest
  | '\'' :: rest => line? '\'' (rest.length + 1) [] rest
  | _ =>
    let key := cs.takeWhile isBareKeyChar
    if key.isEmpty then none else some (String.ofList key, cs.dropWhile isBareKeyChar)

/-- A key with its dotted parts. -/
def keyParts? : Nat → List Char → Option (List String × List Char)
  | 0, _ => none
  | fuel + 1, cs => do
    let (part, rest) ← simpleKey? (skipBlank cs)
    match skipBlank rest with
    | '.' :: rest =>
      let (parts, rest) ← keyParts? fuel rest
      some (part :: parts, rest)
    | rest => some ([part], rest)

/-- How many levels there may be, of parts of a key or of collections. -/
def maxDepth : Nat := 79

/-- A key with its dotted parts, of which there may not be too many. -/
def key? (cs : List Char) : Option (List String × List Char) :=
  (keyParts? (cs.length + 1) cs).filter fun (parts, _) => parts.length ≤ maxDepth

end FormLogic.Toml
