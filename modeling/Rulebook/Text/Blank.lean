/-
  Rulebook.Text.Blank

  White space as the editor sees it: the characters that are trimmed from the ends of a text a
  user typed.  The class is wider than the ASCII one of `Char.isWhitespace`: it also holds the
  four information separators, the next-line character and the spaces and separators of Unicode.
-/

namespace Rulebook.Text

/-- The characters that count as blank at the ends of a text. -/
def isBlank (c : Char) : Bool :=
  let n := c.toNat
  (9 ≤ n && n ≤ 13) || (28 ≤ n && n ≤ 32) || n == 0x85 || n == 0xA0 || n == 0x1680 ||
    (0x2000 ≤ n && n ≤ 0x200A) || n == 0x2028 || n == 0x2029 || n == 0x202F || n == 0x205F ||
    n == 0x3000

/-- A list of characters without those of a class at its ends. -/
def trimBy (leaves : Char → Bool) (cs : List Char) : List Char :=
  ((cs.dropWhile leaves).reverse.dropWhile leaves).reverse

/-- A list of characters without its leading and trailing blanks. -/
def trimChars (cs : List Char) : List Char :=
  trimBy isBlank cs

/-- A text without its leading and trailing blanks. -/
def trim (s : String) : String :=
  String.ofList (trimChars s.toList)

/-- The letters `A` to `Z` as their small forms; every other character stays as it is. -/
def lowerAscii (s : String) : String :=
  String.ofList (s.toList.map Char.toLower)

end Rulebook.Text
