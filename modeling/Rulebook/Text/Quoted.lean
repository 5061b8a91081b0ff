/-
  Rulebook.Text.Quoted

  The quoted form of a text, in which lists and mappings show the texts they hold and in which
  messages show a wrong choice.  Quotes are single unless the text has single quotes and no
  double ones; what cannot be shown is written by number.
-/
import Rulebook.Text.Point
import Rulebook.Text.Printable

namespace Rulebook.Text

/-- The hexadecimal digit of a number below sixteen, in small letters. -/
def hexDigit (n : Nat) : Char :=
  if n < 10 then Char.ofNat (48 + n) else Char.ofNat (87 + n)

/-- A number in exactly `width` hexadecimal digits. -/
def hexDigits : (width n : Nat) → List Char
  | 0, _ => []
  | width + 1, n => hexDigits width (n / 16) ++ [hexDigit (n % 16)]

/-- A code point that cannot be shown, by number: in two, four or eight digits. -/
def escaped (n : Nat) : List Char :=
  if n ≤ 0xFF then '\\' :: 'x' :: hexDigits 2 n
  else if n ≤ 0xFFFF then '\\' :: 'u' :: hexDigits 4 n
  else '\\' :: 'U' :: hexDigits 8 n

/-- One code point of a quoted text. -/
def quotedPoint (quote : Char) (n : Nat) : List Char :=
  let c := Char.ofNat n
  if c = quote || c = '\\' then ['\\', c]
  else if c = '\t' then ['\\', 't']
  else if c = '\n' then ['\\', 'n']
  else if c = '\r' then ['\\', 'r']
  else if isPrintable c then [c]
  else escaped n

/-- The quotes a text is put in. -/
def quoteOf (cs : List Char) : Char :=
  if cs.contains '\'' && !cs.contains '"' then '"' else '\''

/-- The quoted form of a text. -/
def quoted (s : String) : String :=
  let cs := s.toList
  let quote := quoteOf cs
  String.ofList (quote :: (points cs).flatMap (quotedPoint quote) ++ [quote])

end Rulebook.Text
