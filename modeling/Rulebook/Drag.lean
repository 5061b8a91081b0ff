/-
  Rulebook.Drag

  A drag gesture: which member is held from the moment it is picked up to the moment it is
  dropped.  Only the position is held, so the list may change in the meantime; what a drop does
  is decided on the list as it then is.
-/
import Rulebook.Arrangement
import Rulebook.Value.Basic

namespace Rulebook

/-- A gesture: whether a member is held, and the position at which it was picked up; that is one
before the first if none is. -/
structure Drag where
  isActive : Bool := false
  index : Int := -1
deriving DecidableEq, Repr, Inhabited

namespace Drag

variable {α : Type _} (fixed : α → Bool)

/-- No gesture. -/
def idle : Drag := {}

/-- The position of the member that a drop moves, if there is one. -/
def held (d : Drag) : Option Int :=
  if d.index = -1 then none else some d.index

/-- The gesture that picks up the member at a position, and whether it can be picked up: a fixed
one cannot, nor can one outside the list. -/
def start (_ : Drag) (xs : List α) (i : Int) : Drag × Bool :=
  if Arrangement.inRange xs i && !Arrangement.isFixedAt fixed xs i then (⟨true, i⟩, true)
  else (idle, false)

/-- Whether the member that is held can be dropped on the one at a position. -/
def canDrop (d : Drag) (xs : List α) (target : Int) : Bool :=
  d.isActive && Arrangement.inRange xs target && target != d.index &&
    !Arrangement.isFixedAt fixed xs target

/-- Ends the gesture on the member at a position: nothing is held any more, and the list is in
its new order. -/
def drop (d : Drag) (xs : List α) (target : Int) (after : Bool) : Drag × List α :=
  match d.held with
  | none => (idle, xs)
  | some source => (idle, Arrangement.relocate fixed xs source target after)

end Drag

/-! ## Which half of a row the pointer is on -/

namespace Pointer

/-- Why the half cannot be told. -/
inductive GeometryError where
  /-- a coordinate is not a number -/
  | notNumber
  /-- a whole number is too large to be measured -/
  | tooLarge
deriving DecidableEq, Repr

open Decimal (Binary64)

/-- A number as a floating-point number. -/
def floating (n : Value.Number) : Except GeometryError Binary64 :=
  match n with
  | .whole n =>
    let x := Binary64.ofInt n
    if x.isInfinite then .error .tooLarge else .ok x
  | .floating x => .ok x

/-- Half of a height. -/
def halfHeight (n : Value.Number) : Except GeometryError Binary64 :=
  match n with
  | .whole n =>
    let x := Binary64.ofRatio (n < 0) n.natAbs 2
    if x.isInfinite then .error .tooLarge else .ok x
  | .floating x => .ok x.half

/-- A coordinate as a number. -/
def number (v : Value) : Except GeometryError Value.Number :=
  match v.number? with
  | some n => .ok n
  | none => .error .notNumber

/-- Whether a pointer is below the middle of a row. -/
def isBelowMiddle (pointer top height : Value) : Except GeometryError Bool := do
  let half ← halfHeight (← number height)
  let middle := (← floating (← number top)).add half
  let pointer ← number pointer
  return Value.Number.compare? pointer (.floating middle) == some .gt

end Pointer

end Rulebook
