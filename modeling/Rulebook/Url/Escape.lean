/-
  Rulebook.Url.Escape

  How a character is written that may not stand in a part of an address as it is: byte by byte,
  each with a percent sign and two hexadecimal digits.  A percent sign itself is left alone, so
  what is written so already stays as it is.
-/
import Rulebook.Text.Encoding
import Rulebook.Text.Quoted

namespace Rulebook.Url

/-- The parts of an address that may have characters that are written by number. -/
inductive Part where
  | user
  | host
  | path
  | query
  | fragment
deriving DecidableEq, Repr

/-- Whether a character may stand in any part as it is. -/
def isUnreserved (c : Char) : Bool :=
  c.isAlphanum || ['-', '.', '_', '~'].contains c

/-- The characters, other than letters, digits and a few more, that may stand in a host name as
they are. -/
def hostMarks : List Char :=
  "!$&'()*+,;=\"\x60\x7b\x7d%|\\".toList

/-- The characters between the space and the tilde that are written by number, if those of a part
are few. -/
def Part.excluded : Part → List Char
  | .query => " \"#<>".toList
  | .path => " \"#<>?\x60\x7b\x7d".toList
  | .user => " \"#<>?\x60\x7b\x7d/;=@[\\]^|".toList
  | .fragment => " \"<>\x60".toList
  | .host => []

/-- Whether a character may stand in a part as it is. -/
def Part.allows (part : Part) (c : Char) : Bool :=
  match part with
  | .host => isUnreserved c || hostMarks.contains c
  | part => 0x20 ≤ c.toNat && c.toNat < 0x7F && !part.excluded.contains c

/-- A byte, written by number. -/
def escapedByte (b : UInt8) : List Char :=
  '%' :: (Text.hexDigits 2 b.toNat).map Char.toUpper

/-- A character of a part. -/
def escapedChar (part : Part) (c : Char) : List Char :=
  if part.allows c then [c] else (Text.utf8 (String.singleton c)).flatMap escapedByte

/-- The characters of a part. -/
def escaped (part : Part) (cs : List Char) : List Char :=
  cs.flatMap (escapedChar part)

end Rulebook.Url
