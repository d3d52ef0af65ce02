/-!
# Blank characters
-/

namespace GoFlow

/-- Whether the character is blank: a space, a separator, or a control that moves on. -/
def isBlank (c : Char) : Bool :=
  let n := c.toNat
  (0x09 ≤ n && n ≤ 0x0D) || n == 0x20 || n == 0x85 || n == 0xA0 || n == 0x1680
    || (0x2000 ≤ n && n ≤ 0x200A) || n == 0x2028 || n == 0x2029 || n == 0x202F || n == 0x205F
    || n == 0x3000

/-- Blank, or one of the four separators of old tapes. -/
def isSpace (c : Char) : Bool := isBlank c || (0x1C ≤ c.toNat && c.toNat ≤ 0x1F)

/-- The text without the spaces behind it. -/
def trimEnd (s : List Char) : List Char := (s.reverse.dropWhile isSpace).reverse

/-- The text without the spaces in front of it and behind it. -/
def trimSpaces (s : List Char) : List Char := trimEnd (s.dropWhile isSpace)

/-- The text without the blanks in front of it and behind it. -/
def trimBlanks (s : List Char) : List Char :=
  ((s.dropWhile isBlank).reverse.dropWhile isBlank).reverse

end GoFlow
