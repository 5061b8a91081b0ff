/-
  Rulebook.Decimal.Binary64

  Floating-point numbers of 64 bits, as numbers a document holds: what a bit pattern stands for,
  the bit pattern nearest to a quotient (a half goes to the even neighbour), and exact comparison
  with whole numbers.  All of it is arithmetic on `Nat` and `Int`.
-/

namespace Rulebook.Decimal

/-- A power of two. -/
def twoTo (n : Nat) : Nat :=
  Nat.pow 2 n

/-- A power of ten. -/
def tenTo (n : Nat) : Nat :=
  Nat.pow 10 n

/-- A floating-point number, by its bits: sign, eleven bits of exponent, 52 of fraction. -/
structure Binary64 where
  bits : UInt64
deriving DecidableEq, Repr

/-- What a bit pattern stands for. -/
inductive Reading where
  /-- no number -/
  | nan
  /-- beyond every number -/
  | infinite (negative : Bool)
  /-- plus or minus `significand · 2 ^ exponent` -/
  | finite (negative : Bool) (significand : Nat) (exponent : Int)
deriving DecidableEq, Repr

namespace Binary64

/-- The exponent of the smallest numbers. -/
def minExponent : Int := -1074

/-- Whether the sign bit is set. -/
def isNegative (x : Binary64) : Bool :=
  twoTo 63 ≤ x.bits.toNat

/-- What the bits stand for. -/
def reading (x : Binary64) : Reading :=
  let field : Nat := x.bits.toNat / twoTo 52 % twoTo 11
  let fraction := x.bits.toNat % twoTo 52
  if field = 2047 then
    if fraction = 0 then .infinite x.isNegative else .nan
  else if field = 0 then .finite x.isNegative fraction minExponent
  else .finite x.isNegative (twoTo 52 + fraction) ((field : Int) - 1075)

/-- Whether the bits stand for a number. -/
def isFinite (x : Binary64) : Bool :=
  match x.reading with
  | .finite .. => true
  | _ => false

/-- The whole number that the bits stand for, if they stand for one. -/
def toInt? (x : Binary64) : Option Int :=
  match x.reading with
  | .finite negative m e =>
    let unit := twoTo (-e).toNat
    if m % unit = 0 then
      let n : Nat := m / unit * twoTo e.toNat
      some (if negative then -(n : Int) else n)
    else none
  | _ => none

/-- A bit pattern with the sign given. -/
def signed (negative : Bool) (magnitude : Nat) : Binary64 :=
  ⟨UInt64.ofNat (if negative then twoTo 63 + magnitude else magnitude)⟩

/-- The infinity of a sign. -/
def infinity (negative : Bool) : Binary64 :=
  signed negative (2047 * twoTo 52)

/-- The value that is no number. -/
def nan : Binary64 :=
  signed false (2047 * twoTo 52 + twoTo 51)

/-! ## The nearest floating-point number -/

/-- A quotient rounded to a whole number, a half to the even neighbour. -/
def roundDiv (num den : Nat) : Nat :=
  let q := num / den
  let r := num % den
  if 2 * r < den then q
  else if den < 2 * r then q + 1
  else if q % 2 = 0 then q
  else q + 1

/-- `num / den` divided by `2 ^ e`, as a pair of whole numbers. -/
def scaled (num den : Nat) (e : Int) : Nat × Nat :=
  match e with
  | .ofNat k => (num, den * twoTo k)
  | .negSucc k => (num * twoTo (k + 1), den)

/-- The exponent at which `num / den` is rounded: it leaves a significand of 53 bits, or fewer at
the smallest exponent. -/
def roundingExponent (num den : Nat) : Int :=
  let e : Int := (num.log2 : Int) - den.log2 - 52
  let (n, d) := scaled num den e
  max minExponent (if n < twoTo 52 * d then e - 1 else e)

/-- The floating-point number nearest to `num / den` with the sign given, where `den` is not
zero; infinite when the quotient is too large. -/
def ofRatio (negative : Bool) (num den : Nat) : Binary64 :=
  if num = 0 then signed negative 0
  else
    let e := roundingExponent num den
    let (n, d) := scaled num den e
    let magnitude := (e - minExponent).toNat * twoTo 52 + roundDiv n d
    if magnitude < 2047 * twoTo 52 then signed negative magnitude else infinity negative

/-- The floating-point number nearest to a whole number. -/
def ofInt (n : Int) : Binary64 :=
  ofRatio (n < 0) n.natAbs 1

/-- The floating-point number nearest to `digits · 10 ^ exponent`.  Beyond four hundred places on
either side the answer does not depend on the digits any more. -/
def ofDecimal (negative : Bool) (digits : Nat) (exponent : Int) : Binary64 :=
  if digits = 0 then signed negative 0
  else
    let log : Int := digits.log2
    if 400 < exponent + log * 3 / 10 then infinity negative
    else if exponent + log / 3 + 1 < -400 then signed negative 0
    else
      match exponent with
      | .ofNat k => ofRatio negative (digits * tenTo k) 1
      | .negSucc k => ofRatio negative digits (tenTo (k + 1))

/-! ## Arithmetic and order -/

/-- Whether a number is one of the two zeros. -/
def isZero (x : Binary64) : Bool :=
  match x.reading with
  | .finite _ 0 _ => true
  | _ => false

/-- Whether a number is beyond every finite one. -/
def isInfinite (x : Binary64) : Bool :=
  match x.reading with
  | .infinite _ => true
  | _ => false

/-- The significand with its sign. -/
def signedSignificand (negative : Bool) (m : Nat) : Int :=
  if negative then -(m : Int) else m

/-- `m · 2 ^ e` as a whole number of units `2 ^ unit`, for a unit that is no larger. -/
def inUnits (m : Int) (e unit : Int) : Int :=
  m * twoTo (e - unit).toNat

/-- The order of `m · 2 ^ e` and `n · 2 ^ f`. -/
def compareDyadic (m e n f : Int) : Ordering :=
  let unit := min e f
  compare (inUnits m e unit) (inUnits n f unit)

/-- The order of two floating-point numbers, unless one is no number. -/
def compare? (x y : Binary64) : Option Ordering :=
  match x.reading, y.reading with
  | .nan, _ => none
  | _, .nan => none
  | .infinite a, .infinite b => some (compare b.toNat a.toNat)
  | .infinite a, .finite .. => some (if a then .lt else .gt)
  | .finite .., .infinite b => some (if b then .gt else .lt)
  | .finite a m e, .finite b n f =>
    some (compareDyadic (signedSignificand a m) e (signedSignificand b n) f)

/-- The order of a whole number and a floating-point number, unless that is no number. -/
def compareInt? (n : Int) (y : Binary64) : Option Ordering :=
  match y.reading with
  | .nan => none
  | .infinite b => some (if b then .gt else .lt)
  | .finite b m f => some (compareDyadic n 0 (signedSignificand b m) f)

/-- The floating-point number nearest to `m · 2 ^ e`. -/
def ofDyadic (m e : Int) : Binary64 :=
  match e with
  | .ofNat k => ofRatio (m < 0) (m.natAbs * twoTo k) 1
  | .negSucc k => ofRatio (m < 0) m.natAbs (twoTo (k + 1))

/-- The sum, rounded to the nearest floating-point number. -/
def add (x y : Binary64) : Binary64 :=
  match x.reading, y.reading with
  | .nan, _ => nan
  | _, .nan => nan
  | .infinite a, .infinite b => if a = b then x else nan
  | .infinite _, .finite .. => x
  | .finite .., .infinite _ => y
  | .finite a m e, .finite b n f =>
    let unit := min e f
    ofDyadic (inUnits (signedSignificand a m) e unit + inUnits (signedSignificand b n) f unit)
      unit

/-- The half, rounded to the nearest floating-point number. -/
def half (x : Binary64) : Binary64 :=
  match x.reading with
  | .nan => nan
  | .infinite _ => x
  | .finite a m e => ofDyadic (signedSignificand a m) (e - 1)

end Binary64

end Rulebook.Decimal
