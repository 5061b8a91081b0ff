/-
  Rulebook.Value.Parts

  What a value is made of.  Everything in it that is neither a list nor a mapping is a scalar; the
  names of entries count among them.  A value that is read or written has scalars of some kinds
  only, and its lists and mappings are inside each other to some depth only.
-/
import Rulebook.Value.Basic

namespace Rulebook.Value

/-! ## Scalars -/

mutual

/-- The scalars in a value, in the order in which they are written. -/
def scalars : Value → List Name
  | .null => [.null]
  | .bool b => [.bool b]
  | .int n => [.int n]
  | .float x => [.float x]
  | .text s => [.text s]
  | .list items => itemsScalars items
  | .mapping entries => entriesScalars entries
  | .foreign => [.foreign]

/-- The scalars in some items. -/
def itemsScalars : List Value → List Name
  | [] => []
  | v :: rest => v.scalars ++ itemsScalars rest

/-- The scalars in some entries. -/
def entriesScalars : List (Name × Value) → List Name
  | [] => []
  | (k, v) :: rest => k :: (v.scalars ++ entriesScalars rest)

end

/-! ## Depth -/

/-- How many lists and mappings may be inside each other in what is read or written. -/
def maxDepth : Nat := 980

mutual

/-- How many lists and mappings of a value are inside each other at most. -/
def depth : Value → Nat
  | .list items => itemsDepth items + 1
  | .mapping entries => entriesDepth entries + 1
  | _ => 0

/-- The depth of the deepest item. -/
def itemsDepth : List Value → Nat
  | [] => 0
  | v :: vs => max v.depth (itemsDepth vs)

/-- The depth of the deepest entry. -/
def entriesDepth : List (Name × Value) → Nat
  | [] => 0
  | (_, v) :: es => max v.depth (entriesDepth es)

end

/-- Entries are as deep as the deepest of their values. -/
theorem entriesDepth_le_iff {es : Entries} {n : Nat} :
    entriesDepth es ≤ n ↔ ∀ e ∈ es, e.2.depth ≤ n := by
  induction es with
  | nil =>
    rw [entriesDepth]
    exact ⟨fun _ => List.forall_mem_nil _, fun _ => Nat.zero_le n⟩
  | cons e rest ih => rw [entriesDepth, Nat.max_le, ih, List.forall_mem_cons]

end Rulebook.Value
