/-
  Rulebook.Decimal.Parser

  Reading floating-point numbers from texts that people write: blanks around the number do not
  count, and a sign, a point and a power of ten may belong to it.
-/
import Rulebook.Decimal.Binary64
import Rulebook.Text.Digits

namespace Rulebook.Decimal

open Text (readDigits splitAtFirst)

/-- A sign in front of characters, negative if it is a minus, and what follows it. -/
def splitSign : List Char → Bool × List Char
  | '-' :: rest => (true, rest)
  | '+' :: rest => (false, rest)
  | cs => (false, cs)

/-- Digits with a point in front of them, among them or behind them, as a whole number and how many
of its digits are behind the point. -/
def readPlaces? (cs : List Char) : Option (Nat × Nat) :=
  match splitAtFirst (· = '.') cs with
  | (front, none) => (readDigits 0 false front).map (·, 0)
  | ([], some []) => none
  | (front, some back) => do
    let whole ← if front = [] then some 0 else readDigits 0 false front
    let digits ← if back = [] then some whole else readDigits whole false back
    return (digits, (back.filter Text.isDigit).length)

/-- A power of ten, with or without a sign. -/
def readPower? (cs : List Char) : Option Int :=
  let (negative, cs) := splitSign cs
  (readDigits 0 false cs).map fun n => if negative then -(n : Int) else n

/-- The number that digits with a sign in front of them write. -/
def readNumber? (negative : Bool) (cs : List Char) : Option Binary64 := do
  let (front, power) := splitAtFirst (fun c => c = 'e' || c = 'E') cs
  let (digits, places) ← readPlaces? front
  let power ← (power.mapM readPower?)
  return .ofDecimal negative digits (power.getD 0 - places)

/-- The number that a text writes.  What digits cannot write has a name, in letters of any size. -/
def read? (s : String) : Option Binary64 :=
  let (negative, cs) := splitSign (Text.trimBy Text.isBlankAround s.toList)
  match Text.lowerAscii (String.ofList cs) with
  | "inf" | "infinity" => some (.infinity negative)
  | "nan" => some .nan
  | _ => readNumber? negative cs

end Rulebook.Decimal
