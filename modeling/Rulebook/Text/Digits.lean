/-
  Rulebook.Text.Digits

  Decimal digits of every script (Unicode 14) and the numbers written with them.
-/
import Rulebook.Text.Blank

namespace Rulebook.Text

/-- The zeros of the scripts that write numbers by tens; the nine characters after each are its
digits one to nine. -/
def digitZeros : List Nat := [
  0x30, 0x660, 0x6F0, 0x7C0, 0x966, 0x9E6, 0xA66, 0xAE6, 0xB66, 0xBE6, 0xC66, 0xCE6, 0xD66, 0xDE6,
  0xE50, 0xED0, 0xF20, 0x1040, 0x1090, 0x17E0, 0x1810, 0x1946, 0x19D0, 0x1A80, 0x1A90, 0x1B50,
  0x1BB0, 0x1C40, 0x1C50, 0xA620, 0xA8D0, 0xA900, 0xA9D0, 0xA9F0, 0xAA50, 0xABF0, 0xFF10, 0x104A0,
  0x10D30, 0x11066, 0x110F0, 0x11136, 0x111D0, 0x112F0, 0x11450, 0x114D0, 0x11650, 0x116C0,
  0x11730, 0x118E0, 0x11950, 0x11C50, 0x11D50, 0x11DA0, 0x16A60, 0x16AC0, 0x16B50, 0x1D7CE,
  0x1D7D8, 0x1D7E2, 0x1D7EC, 0x1D7F6, 0x1E140, 0x1E2F0, 0x1E950, 0x1FBF0]

/-- The value of a decimal digit of any script. -/
def digitValue? (c : Char) : Option Nat :=
  (digitZeros.find? fun z => z ≤ c.toNat && c.toNat < z + 10).map (c.toNat - ·)

/-- Whether a character is a decimal digit of some script. -/
def isDigit (c : Char) : Bool :=
  (digitValue? c).isSome

/-- The number written by digits, most significant first, where single underscores may stand
between two digits.  `value` is what has been read, and `afterDigit` says that the last character
was a digit. -/
def readDigits (value : Nat) (afterDigit : Bool) : List Char → Option Nat
  | [] => if afterDigit then some value else none
  | c :: rest =>
    if c = '_' then
      if afterDigit then readDigits value false rest else none
    else
      match digitValue? c with
      | some d => readDigits (10 * value + d) true rest
      | none => none

/-- The characters that may stand around a whole number: blanks, except the four information
separators. -/
def isBlankAround (c : Char) : Bool :=
  isBlank c && !(28 ≤ c.toNat && c.toNat ≤ 31)

/-- The most digits that a text may write a whole number with. -/
def maxDigits : Nat := 4300

/-- The whole number that digits write, if there are not too many of them. -/
def readNat? (cs : List Char) : Option Nat :=
  if maxDigits < (cs.filter isDigit).length then none else readDigits 0 false cs

/-- The whole number a text writes: blanks around it do not count, one sign may stand in front,
digits may be of any script, and single underscores may separate digits. -/
def readInt? (s : String) : Option Int :=
  match trimBy isBlankAround s.toList with
  | '-' :: rest => (readNat? rest).map fun n => -(n : Int)
  | '+' :: rest => (readNat? rest).map fun n => (n : Int)
  | cs => (readNat? cs).map fun n => (n : Int)

/-- How many digits a text starts with, if they are more than a text may write a whole number with.
What is behind them does not matter. -/
def overlong? (s : String) : Option Nat :=
  let body := match trimBy isBlankAround s.toList with
    | '-' :: rest | '+' :: rest => rest
    | cs => cs
  let run := body.takeWhile fun c => isDigit c || c = '_'
  let count := (run.filter isDigit).length
  if maxDigits < count && (readDigits 0 false run).isSome then some count else none

/-- What is said about a whole number of more digits than a text may have, if it is known how many
it has. -/
def tooManyDigits (count : Option Nat := none) : String :=
  "Exceeds the limit (4300 digits) for integer string conversion" ++
    (match count with
      | some n => ": value has " ++ toString n ++ " digits"
      | none => "") ++
    "; use sys.set_int_max_str_digits() to increase the limit"

/-- Whether a whole number has more digits than a text may have.  It is irreducible because the bound
is a number of as many digits, which nobody wants to see worked out. -/
@[irreducible] def isTooLong (n : Int) : Bool :=
  Nat.pow 10 maxDigits ≤ n.natAbs

/-! ## Splitting -/

/-- What is in front of the first character of a class, and what is behind it, if there is one. -/
def splitAtFirst (marks : Char → Bool) (cs : List Char) : List Char × Option (List Char) :=
  match cs.dropWhile fun c => !marks c with
  | [] => (cs, none)
  | _ :: back => (cs.takeWhile fun c => !marks c, some back)

end Rulebook.Text
