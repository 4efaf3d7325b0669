/-!
# White space

The characters with the Unicode property `White_Space`, and trimming by it.
-/
namespace FormLogic

/-- The characters with the property `White_Space`. -/
def isBlankChar (c : Char) : Bool :=
  let n := c.toNat
  (9 ≤ n && n ≤ 13) || n == 0x20 || n == 0x85 || n == 0xA0 || n == 0x1680
    || (0x2000 ≤ n && n ≤ 0x200A) || n == 0x2028 || n == 0x2029 || n == 0x202F
    || n == 0x205F || n == 0x3000

/-- The white space of ASCII, without the vertical tab. -/
def isAsciiBlank (c : Char) : Bool :=
  c == ' ' || c == '\t' || c == '\n' || c == '\x0C' || c == '\r'

/-- Characters of a kind taken off both ends. -/
def trimOf (p : Char → Bool) (s : String) : String :=
  String.ofList ((s.toList.dropWhile p).reverse.dropWhile p).reverse

def trimBlank (s : String) : String := trimOf isBlankChar s

/-- White space of ASCII taken off both ends. -/
def trimAsciiBlank (s : String) : String := trimOf isAsciiBlank s

def trimBlankEnd (s : String) : String :=
  String.ofList ((s.toList.reverse.dropWhile isBlankChar).reverse)

end FormLogic
