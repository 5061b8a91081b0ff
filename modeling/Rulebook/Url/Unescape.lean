/-
  Rulebook.Url.Unescape

  Reading what is written by number: a percent sign and two hexadecimal digits are a byte, and
  every other character is its own bytes in UTF-8.  The bytes need not be a text.
-/
import Rulebook.Json.Parser
import Rulebook.Text.Piece
import Rulebook.Url.Escape

namespace Rulebook.Url

/-- The byte that two hexadecimal digits write. -/
def hexByte? (a b : Char) : Option UInt8 := do
  return .ofNat (16 * (← Json.hexValue? a) + (← Json.hexValue? b))

/-- The bytes of characters some of which are written by number. -/
def unescapedBytes : List Char → List UInt8
  | '%' :: a :: b :: rest =>
    match hexByte? a b with
    | some byte => byte :: unescapedBytes rest
    | none => 0x25 :: unescapedBytes (a :: b :: rest)
  | c :: rest => (String.singleton c).toUTF8.data.toList ++ unescapedBytes rest
  | [] => []

/-- The bytes of the characters that a text keeps, some of which are written by number. -/
def bytesOf (cs : List Char) : List UInt8 :=
  unescapedBytes ((Text.characters? cs).getD cs)

/-- Characters some of which are written by number, with a mark in place of what is no text. -/
def unescaped (cs : List Char) : List Char :=
  Text.markBroken (bytesOf cs)

end Rulebook.Url
