/-
  Rulebook.Name

  The names under which a mapping keeps its entries and a dialog its fields.  Nearly all of them
  are texts; the others are numbers, flags, the absent value, and objects that no document can
  hold.

  A flag, a whole number and a floating-point number name the same entry if they are the same
  number.  `==` tells names apart in this way, by their `Name.canonical` form; equality tells
  them apart by their spelling.
-/
import Rulebook.Decimal.Binary64

namespace Rulebook

open Decimal (Binary64)

/-- A name. -/
inductive Name where
  | text (s : String)
  | null
  | bool (b : Bool)
  | int (n : Int)
  | float (x : Binary64)
  /-- an object that no document can hold -/
  | foreign
deriving DecidableEq, Repr, Inhabited

namespace Name

instance : Coe String Name := ⟨.text⟩

/-- The form of a name that all names of the same entry share. -/
def canonical : Name → Name
  | .bool b => .int b.toInt
  | .float x =>
    match x.toInt? with
    | some n => .int n
    | none => .float x
  | name => name

instance : BEq Name := ⟨fun a b => decide (a.canonical = b.canonical)⟩

theorem beq_iff {a b : Name} : (a == b) = true ↔ a.canonical = b.canonical :=
  decide_eq_true_iff

instance : EquivBEq Name where
  rfl := beq_iff.2 rfl
  symm h := beq_iff.2 (beq_iff.1 h).symm
  trans h k := beq_iff.2 ((beq_iff.1 h).trans (beq_iff.1 k))

/-- Texts are the same name only if they are equal. -/
@[simp] theorem text_beq_text {s t : String} : ((text s == text t) = true) ↔ s = t := by
  simp [beq_iff, canonical]

end Name

end Rulebook
