/-
  Rulebook.Text.Punycode

  Texts of any characters written with the letters, the digits and the hyphen of ASCII.  The ASCII
  characters of a text come first and a hyphen after them, if there are any; then, for every other
  character in the order of code points, how many steps lead to it from the one before.  A step
  goes to the next place in the text and, behind the last place, to the next code point.

  A number of steps is written with digits to the base 36, the lowest one first.  A digit below a
  threshold ends the number, and the thresholds follow the size of the numbers before.
-/
import Rulebook.Text.Point

namespace Rulebook.Text.Punycode

/-! ## Digits and thresholds -/

/-- A digit to the base 36: `a` to `z`, then `0` to `9`. -/
def digit (d : Nat) : Char :=
  if d < 26 then Char.ofNat (0x61 + d) else Char.ofNat (0x30 + (d - 26))

/-- The value of a digit. -/
def digitValue? (c : Char) : Option Nat :=
  let n := c.toNat
  if 0x61 ≤ n ∧ n ≤ 0x7A then some (n - 0x61)
  else if 0x30 ≤ n ∧ n ≤ 0x39 then some (n - 0x30 + 26)
  else none

/-- The threshold of a digit; `place` is 36 for the first one and 36 more for each further one. -/
def threshold (place bias : Nat) : Nat :=
  max 1 (min 26 (place - bias))

theorem threshold_pos (place bias : Nat) : 1 ≤ threshold place bias := by
  unfold threshold; omega

/-- The bias of the first number. -/
def firstBias : Nat := 72

/-- Divides a number of steps by 35 until it is small, and the bias grows. -/
def settle (steps bias : Nat) : Nat :=
  if 455 < steps then settle (steps / 35) (bias + 36) else bias + 36 * steps / (steps + 38)
termination_by steps
decreasing_by exact Nat.div_lt_self (by omega) (by omega)

/-- The bias of the next number, after a number of steps to a text of `size` characters. -/
def nextBias (steps size : Nat) (isFirst : Bool) : Nat :=
  let steps := if isFirst then steps / 700 else steps / 2
  settle (steps + steps / size) 0

/-! ## Numbers -/

/-- The digits of a number. -/
def writeNumber (bias place n : Nat) : List Char :=
  let t := threshold place bias
  if n < t then [digit n]
  else digit (t + (n - t) % (36 - t)) :: writeNumber bias (place + 36) ((n - t) / (36 - t))
termination_by n
decreasing_by
  have := threshold_pos place bias
  exact Nat.lt_of_le_of_lt (Nat.div_le_self _ _) (by omega)

/-- The number that digits write, and what follows them.  `weight` is what the next digit counts
and `n` is what has been read. -/
def readNumber (bias : Nat) : (place weight n : Nat) → List Char → Option (Nat × List Char)
  | _, _, _, [] => none
  | place, weight, n, c :: rest =>
    match digitValue? c with
    | none => none
    | some d =>
      let t := threshold place bias
      if d < t then some (n + d * weight, rest)
      else readNumber bias (place + 36) (weight * (36 - t)) (n + d * weight) rest

/-- Reading a number takes a digit at least. -/
theorem length_of_readNumber {bias : Nat} : ∀ {cs : List Char} {place weight n m : Nat}
    {rest : List Char}, readNumber bias place weight n cs = some (m, rest) →
      rest.length < cs.length
  | [], _, _, _, _, _, h => by simp [readNumber] at h
  | c :: cs, place, weight, n, m, rest, h => by
    rw [readNumber] at h
    split at h
    · simp at h
    · simp only at h
      split at h
      · simp only [Option.some.injEq, Prod.mk.injEq] at h
        simp [← h.2]
      · have := length_of_readNumber h
        simp only [List.length_cons]
        omega

/-! ## Writing -/

/-- What has been written of a text. -/
structure Progress where
  written : List Char := []
  /-- the steps since the last number -/
  steps : Nat := 0
  bias : Nat := firstBias
  /-- how many characters of the text are written -/
  size : Nat

/-- Goes past a character on the way to the next place of a code point, or writes the number of
steps if this is such a place. -/
def passBy (ascii code : Nat) (p : Progress) (c : Char) : Progress :=
  if c.toNat < code then { p with steps := p.steps + 1 }
  else if c.toNat = code then {
    written := p.written ++ writeNumber p.bias 36 p.steps
    bias := nextBias p.steps (p.size + 1) (p.size == ascii)
    size := p.size + 1 }
  else p

/-- Writes the places of some code points, in their order; `code` is where the last ones ended. -/
def writePlaces (cs : List Char) (ascii : Nat) : (code : Nat) → List Nat → Progress → Progress
  | _, [], p => p
  | code, next :: rest, p =>
    let p := { p with steps := p.steps + (next - code) * (p.size + 1) }
    let p := cs.foldl (passBy ascii next) p
    writePlaces cs ascii (next + 1) rest { p with steps := p.steps + 1 }

/-- Whether a character is one of ASCII. -/
def isAscii (c : Char) : Bool :=
  c.toNat < 0x80

/-- A text written with ASCII characters. -/
def write (cs : List Char) : List Char :=
  let ascii := cs.filter isAscii
  let others := ((cs.filter fun c => !isAscii c).map Char.toNat).mergeSort.eraseDups
  let p := writePlaces cs ascii.length 0x80 others { size := ascii.length }
  ascii ++ (if ascii.isEmpty then [] else ['-']) ++ p.written

/-! ## Reading -/

/-- The largest code point. -/
def maxCode : Nat := 0x10FFFF

/-- Reads the places of further characters and puts them into a text.  `code` and `place` are
those where the next steps start. -/
def readPlaces (bias code place : Nat) (isFirst : Bool) (text : List Char) :
    List Char → Option (List Char)
  | [] => some text
  | c :: rest =>
    match h : readNumber bias 36 1 0 (c :: rest) with
    | none => none
    | some (steps, rest) =>
      let size := text.length + 1
      let code := code + (place + steps) / size
      let place := (place + steps) % size
      if maxCode < code then none
      else
        readPlaces (nextBias steps size isFirst) code (place + 1) false
          (text.insertIdx place (charOfUnit code)) rest
termination_by cs => cs.length
decreasing_by exact length_of_readNumber h

/-- The text that ASCII characters write. -/
def read? (cs : List Char) : Option (List Char) :=
  let places := (cs.reverse.takeWhile (· ≠ '-')).reverse
  readPlaces firstBias 0x80 0 true (cs.take (cs.length - places.length - 1)) places

end Rulebook.Text.Punycode
