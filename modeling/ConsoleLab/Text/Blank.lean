/-
  ConsoleLab.Text.Blank — white space.

  The one notion of white space of the whole library is the Unicode property
  `White_Space` (`isBlank`). Answers are trimmed of it, the lexer skips it and the
  pieces of a formatted answer are separated by it.
-/

namespace ConsoleLab.Text

/-- The twenty-five characters with the Unicode property `White_Space`. -/
def isBlank (c : Char) : Bool :=
  let n := c.toNat
  (0x09 ≤ n && n ≤ 0x0D) || n == 0x20 || n == 0x85 || n == 0xA0 || n == 0x1680 ||
    (0x2000 ≤ n && n ≤ 0x200A) || n == 0x2028 || n == 0x2029 || n == 0x202F || n == 0x205F ||
    n == 0x3000

def trimLeft (cs : List Char) : List Char :=
  cs.dropWhile isBlank

def trimRight (cs : List Char) : List Char :=
  (cs.reverse.dropWhile isBlank).reverse

def trim (s : String) : String :=
  String.ofList (trimRight (trimLeft s.toList))

def piecesBetween (separates : Char → Bool) (s : String) : List String :=
  ((s.toList.splitOnP separates).filter fun piece => !piece.isEmpty).map String.ofList

end ConsoleLab.Text
