/-
  Rulebook.Decimal.Extended

  Numbers that are not negative, with significands of 64 bits, and the digits of a floating-point
  number that arithmetic on them finds: the number is brought between one and ten, half a unit of
  the last digit is added, and digit after digit is taken off in front.  A step may round, so the
  last digit is not always the nearest one.
-/
import Rulebook.Decimal.Shortest

namespace Rulebook.Decimal

/-- A number that is not negative: `significand · 2 ^ exponent`. -/
structure Extended where
  significand : Nat
  exponent : Int
deriving DecidableEq, Repr

namespace Extended

/-! ## Arithmetic -/

/-- The number nearest to `num / den · 2 ^ exponent` that has a significand of 64 bits; a half goes
to the even neighbour. -/
def ofRatio (num den : Nat) (exponent : Int) : Extended :=
  if num = 0 then ⟨0, 0⟩
  else
    let e : Int := (num.log2 : Int) - den.log2 - 63
    let (n, d) := Binary64.scaled num den e
    let e := if n < twoTo 63 * d then e - 1 else e
    let (n, d) := Binary64.scaled num den e
    ⟨Binary64.roundDiv n d, exponent + e⟩

/-- How far a floating-point number is from zero; none if that is no number. -/
def size? (x : Binary64) : Option Extended :=
  match x.reading with
  | .finite _ m e => some ⟨m, e⟩
  | _ => none

/-- The floating-point number nearest to a power of ten. -/
def powerOfTen (exponent : Int) : Extended :=
  (size? (Binary64.ofDecimal false 1 exponent)).getD ⟨0, 0⟩

/-- The sum. -/
def add (x y : Extended) : Extended :=
  let unit := min x.exponent y.exponent
  ofRatio (x.significand * twoTo (x.exponent - unit).toNat +
    y.significand * twoTo (y.exponent - unit).toNat) 1 unit

/-- The product. -/
def mul (x y : Extended) : Extended :=
  ofRatio (x.significand * y.significand) 1 (x.exponent + y.exponent)

/-- The quotient. -/
def div (x y : Extended) : Extended :=
  ofRatio x.significand y.significand (x.exponent - y.exponent)

/-- Whether a number is smaller than another one. -/
def isBelow (x y : Extended) : Bool :=
  Binary64.compareDyadic x.significand x.exponent y.significand y.exponent = .lt

/-- The whole part of a number. -/
def whole (x : Extended) : Nat :=
  match x.exponent with
  | .ofNat k => x.significand * twoTo k
  | .negSucc k => x.significand / twoTo (k + 1)

/-- What is left of a number without its whole part. -/
def fraction (x : Extended) : Extended :=
  match x.exponent with
  | .ofNat _ => ⟨0, 0⟩
  | .negSucc k => ⟨x.significand % twoTo (k + 1), x.exponent⟩

/-! ## Digits -/

/-- A scale and its exponent of ten, made larger by `places` places at a time as long as it does
not go beyond a number. -/
def climb (x : Extended) (places : Nat) : (fuel : Nat) → Extended × Int → Extended × Int
  | 0, scale => scale
  | fuel + 1, (scale, e) =>
    let next := (powerOfTen places).mul scale
    if x.isBelow next then (scale, e) else climb x places fuel (next, e + places)

/-- A number below `bound` and its exponent of ten, brought up to the bound by `places` places at
a time. -/
def lift (bound : Extended) (places : Nat) : (fuel : Nat) → Extended × Int → Extended × Int
  | 0, x => x
  | fuel + 1, (x, e) =>
    if x.isBelow bound then lift bound places fuel (x.mul (powerOfTen places), e - places)
    else (x, e)

/-- A number that is not zero, brought between one and ten, and the exponent of ten that it then
has. -/
def normalized (x : Extended) : Extended × Int :=
  let one := powerOfTen 0
  let (scale, e) := climb x 1 10 (climb x 10 10 (climb x 100 4 (one, 0)))
  lift one 1 10 (lift (powerOfTen (-8)) 8 50 (x.div scale, e))

/-- The number that `count` digits write which are taken off in front, behind the digits that
`taken` writes. -/
def takeDigits : (count : Nat) → Extended → (taken : Nat) → Nat
  | 0, _, taken => taken
  | count + 1, x, taken =>
    takeDigits count (x.fraction.mul (powerOfTen 1)) (10 * taken + x.whole % 10)

/-- The first `count` digits of a number that is not zero, and the place of the last one. -/
def significant (count : Nat) (x : Extended) : Nat × Int :=
  let (x, e) := x.normalized
  let x := x.add (ofRatio 5 (tenTo count) 0)
  let (x, e) := if x.isBelow (powerOfTen 1) then (x, e) else (x.mul (powerOfTen (-1)), e + 1)
  (takeDigits count x 0, e - (count - 1))

end Extended

/-- The text of a floating-point number to `count` digits. -/
def Binary64.roundedText (style : Style) (special : Special) (count : Nat) (x : Binary64) :
    String :=
  match x.reading with
  | .nan => special.nan
  | .infinite negative => (if negative then "-" else "") ++ special.infinity
  | .finite negative m e =>
    if m = 0 then "0.0"
    else
      let (digits, place) := Extended.significant count ⟨m, e⟩
      (if negative then "-" else "") ++ decimalText style digits place

end Rulebook.Decimal
