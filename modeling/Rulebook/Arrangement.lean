/-
  Rulebook.Arrangement

  The order of a list in which some members are fixed at the end.  Members are moved by buttons
  (one place up or down) or by dragging one onto another.  The functions ask of a member only
  whether it is fixed, so that what they do to positions can be said for lists of anything.

  Positions are whole numbers of either sign, as a user may give any; one outside the list never
  moves anything.
-/

namespace Rulebook.Arrangement

variable {α : Type _} (fixed : α → Bool)

/-- Whether a position lies in the list. -/
def inRange (xs : List α) (i : Int) : Bool :=
  0 ≤ i && i < xs.length

/-- The member at a position. -/
def at? (xs : List α) (i : Int) : Option α :=
  if 0 ≤ i then xs[i.toNat]? else none

/-- Whether the member at a position is fixed. -/
def isFixedAt (xs : List α) (i : Int) : Bool :=
  (at? xs i).any fixed

/-- Whether the last member is fixed. -/
def endsFixed (xs : List α) : Bool :=
  xs.getLast?.any fixed

/-! ## One place up or down -/

/-- The list with the members at `i` and after `i` exchanged. -/
def swapAt (xs : List α) (i : Nat) : List α :=
  match xs, i with
  | a :: b :: rest, 0 => b :: a :: rest
  | a :: rest, i + 1 => a :: swapAt rest i
  | xs, _ => xs

/-- Whether the member at a position can go up. -/
def canMoveUp (xs : List α) (i : Int) : Bool :=
  inRange xs i && 0 < i && !isFixedAt fixed xs i

/-- Whether the member at a position can go down: the last place is kept for a fixed member that
is there. -/
def canMoveDown (xs : List α) (i : Int) : Bool :=
  inRange xs i && !isFixedAt fixed xs i &&
    i < (if endsFixed fixed xs then (xs.length : Int) - 2 else (xs.length : Int) - 1)

/-- The list after a member was moved up, if it can be. -/
def moveUp (xs : List α) (i : Int) : List α :=
  if canMoveUp fixed xs i then swapAt xs (i - 1).toNat else xs

/-- The list after a member was moved down, if it can be. -/
def moveDown (xs : List α) (i : Int) : List α :=
  if canMoveDown fixed xs i then swapAt xs i.toNat else xs

/-! ## Onto another member -/

/-- The list with the member at `source` taken out and put in again at `target`. -/
def transfer (xs : List α) (source target : Nat) : List α :=
  match xs[source]? with
  | some x => (xs.eraseIdx source).insertIdx target x
  | none => xs

/-- Where a member lands that is dropped on another one, on its lower half if `after`.  Nothing
lands when the two positions are the same, when one lies outside the list, or when one of the
members is fixed.  Taking the member out shifts all later ones up by one, and the last place is
kept for a fixed member. -/
def landing? (xs : List α) (source target : Int) (after : Bool) : Option Nat :=
  if source = target then none
  else if !inRange xs source || !inRange xs target then none
  else if isFixedAt fixed xs source || isFixedAt fixed xs target then none
  else
    let rest := xs.eraseIdx source.toNat
    let wanted :=
      if source < target then (if after then target else target - 1)
      else (if after then target + 1 else target)
    let most : Int := if rest.any fixed then (rest.length : Int) - 1 else rest.length
    some (max 0 (min wanted most)).toNat

/-- The list after a member was dropped on another one. -/
def relocate (xs : List α) (source target : Int) (after : Bool) : List α :=
  match landing? fixed xs source target after with
  | some k => transfer xs source.toNat k
  | none => xs

/-! ## Positions -/

theorem inRange_iff {xs : List α} {i : Int} :
    inRange xs i = true ↔ 0 ≤ i ∧ i < xs.length := by
  simp [inRange]

/-- A position in the list has a member. -/
theorem at?_eq_some_of_inRange {xs : List α} {i : Int} (h : inRange xs i = true) :
    ∃ x, at? xs i = some x := by
  obtain ⟨h0, h1⟩ := inRange_iff.1 h
  have hlt : i.toNat < xs.length := by omega
  exact ⟨xs[i.toNat], by simp [at?, h0, List.getElem?_eq_getElem hlt]⟩

/-- A position with a member lies in the list. -/
theorem inRange_of_at? {xs : List α} {i : Int} {x : α} (h : at? xs i = some x) :
    inRange xs i = true := by
  unfold at? at h
  split at h
  · rename_i h0
    obtain ⟨hlt, _⟩ := List.getElem?_eq_some_iff.1 h
    exact inRange_iff.2 ⟨h0, by omega⟩
  · simp at h

@[simp] theorem length_swapAt (xs : List α) (i : Nat) : (swapAt xs i).length = xs.length := by
  fun_induction swapAt xs i <;> simp_all

/-- Exchanging the same two members again undoes it. -/
@[simp] theorem swapAt_swapAt (xs : List α) (i : Nat) : swapAt (swapAt xs i) i = xs := by
  fun_induction swapAt xs i with
  | case1 => rfl
  | case2 a rest i ih =>
    cases rest with
    | nil => simp [swapAt]
    | cons b rest => simpa [swapAt] using ih
  | case3 xs i h1 h2 =>
    unfold swapAt
    split
    · exact absurd rfl (h1 _ _ _ rfl)
    · exact absurd rfl (h2 _ _ _ rfl)
    · rfl

end Rulebook.Arrangement
