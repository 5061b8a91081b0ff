/-
  Rulebook.Decimal.Shortest

  The decimal text of a floating-point number: the fewest digits that read back as the same
  number, and of those the nearest ones.  How digits are laid out is a `Style`: which numbers are
  written positionally, which then show at least one place, and whether the others show one before
  their exponent, which has at least two digits.
-/
import Rulebook.Decimal.Binary64

namespace Rulebook.Decimal

/-- The reals that round to one floating-point number, as whole multiples of `2 ^ unit`: the
number itself, its lower and its upper end, and whether the ends belong. -/
structure Interval where
  value : Nat
  lower : Nat
  upper : Nat
  closed : Bool
  unit : Int
deriving Repr

namespace Interval

/-- The reals that round to `significand · 2 ^ exponent`.  Below a power of two the neighbour is
only half as far. -/
def around (significand : Nat) (exponent : Int) : Interval :=
  let below := if significand = twoTo 52 ∧ Binary64.minExponent < exponent then 1 else 2
  { value := 4 * significand
    lower := 4 * significand - below
    upper := 4 * significand + 2
    closed := significand % 2 = 0
    unit := exponent - 2 }

/-- Whether `d · 10 ^ place` lies in the interval; `num` and `den` are `2 ^ unit / 10 ^ place`. -/
def holds (i : Interval) (num den d : Nat) : Bool :=
  if i.closed then i.lower * num ≤ d * den && d * den ≤ i.upper * num
  else i.lower * num < d * den && d * den < i.upper * num

end Interval

/-- `2 ^ unit / 10 ^ place` as a quotient of whole numbers. -/
def gridRatio (unit place : Int) : Nat × Nat :=
  let twos := twoTo unit.natAbs
  let tens := tenTo place.natAbs
  ((if 0 ≤ unit then twos else 1) * (if 0 ≤ place then 1 else tens),
   (if 0 ≤ unit then 1 else twos) * (if 0 ≤ place then tens else 1))

/-- The multiple of `10 ^ place` in the interval that is nearest to its value, if there is one;
of two equally near ones the even one. -/
def onGrid? (i : Interval) (place : Int) : Option Nat :=
  let (num, den) := gridRatio i.unit place
  let low := i.value * num / den
  let rest := i.value * num % den
  match i.holds num den low, i.holds num den (low + 1) with
  | true, true =>
    if 2 * rest < den then some low
    else if den < 2 * rest then some (low + 1)
    else if low % 2 = 0 then some low
    else some (low + 1)
  | true, false => some low
  | false, true => some (low + 1)
  | false, false => none

/-- The first grid with a member in the interval, from `place` downward: that member and the
place of the grid. -/
def firstGrid (i : Interval) : (fuel : Nat) → (place : Int) → Nat × Int
  | 0, place => (i.value, place)
  | fuel + 1, place =>
    match onGrid? i place with
    | some d => if d = 0 then firstGrid i fuel (place - 1) else (d, place)
    | none => firstGrid i fuel (place - 1)

/-- A place above the first digit of `m · 2 ^ e`. -/
def topPlace (m : Nat) (e : Int) : Int :=
  let top : Int := (m.log2 : Int) + 1 + e
  (if 0 ≤ top then top * 30103 / 100000 else top * 30102 / 100000) + 1

/-- The shortest digits of `significand · 2 ^ exponent` and the place of the last one. -/
def shortest (significand : Nat) (exponent : Int) : Nat × Int :=
  firstGrid (Interval.around significand exponent) 20 (topPlace significand exponent)

/-! ## The text -/

/-- The digits of a whole number without the zeros at their end, and how many those were. -/
def dropZeros : (fuel : Nat) → Nat → Nat × Nat
  | 0, n => (n, 0)
  | fuel + 1, n =>
    if n % 10 = 0 ∧ n ≠ 0 then
      let (m, k) := dropZeros fuel (n / 10)
      (m, k + 1)
    else (n, 0)

/-- The exponent of a number, with its sign and at least two digits. -/
def exponentText (e : Int) : String :=
  let digits := toString e.natAbs
  (if e < 0 then "-" else "+") ++ (if digits.length < 2 then "0" ++ digits else digits)

/-- A text of `n` zeros. -/
def zeros (n : Nat) : String :=
  String.ofList (List.replicate n '0')

/-- How decimal digits are laid out. -/
structure Style where
  /-- the most digits in front of the point of a number that is written positionally -/
  wholeDigits : Int
  /-- whether there is a place in front of every exponent -/
  placeBeforeExponent : Bool
deriving DecidableEq, Repr

/-- The usual style. -/
def Style.usual : Style := { wholeDigits := 16, placeBeforeExponent := false }

/-- The text of `digits · 10 ^ place`, which is not zero. -/
def decimalText (style : Style) (digits : Nat) (place : Int) : String :=
  let (digits, dropped) := dropZeros 400 digits
  let text := toString digits
  let point : Int := place + dropped + text.length
  if -4 < point ∧ point ≤ style.wholeDigits then
    if point ≤ 0 then "0." ++ zeros (-point).toNat ++ text
    else if point < text.length then
      String.ofList (text.toList.take point.toNat) ++ "." ++
        String.ofList (text.toList.drop point.toNat)
    else text ++ zeros (point.toNat - text.length) ++ ".0"
  else
    let tail := String.ofList (text.toList.drop 1)
    let tail := if tail.isEmpty && style.placeBeforeExponent then "0" else tail
    String.ofList (text.toList.take 1) ++ (if tail.isEmpty then "" else "." ++ tail) ++ "e" ++
      exponentText (point - 1)

/-- The texts of the values that are no numbers. -/
structure Special where
  nan : String
  infinity : String
deriving Repr

/-- The text of a floating-point number. -/
def Binary64.text (special : Special) (x : Binary64) : String :=
  match x.reading with
  | .nan => special.nan
  | .infinite negative => (if negative then "-" else "") ++ special.infinity
  | .finite negative m e =>
    (if negative then "-" else "") ++
      if m = 0 then "0.0"
      else
        let (digits, place) := shortest m e
        decimalText .usual digits place

end Rulebook.Decimal
