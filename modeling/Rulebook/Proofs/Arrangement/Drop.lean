/-
  Rulebook.Proofs.Arrangement.Drop

  Where a member of a list lands that is dropped on another one.

  Taking the member out moves the other one up by a place if it stands behind it (`without`); the
  member is put in again right behind the other one, or right in front of it (`beside`).  The
  function that finds the place also keeps the last one for a fixed member.  In a list in which
  nothing but the last member is fixed that bound is never reached (`landing?_eq_beside`), so the
  member really stands where it was dropped (`relocate_beside`).

  Equal members of a list are told apart by where they stood.  What they are does not matter to a
  drop as long as the same ones are fixed (`map_relocate`), so a member can carry its old position
  with it.
-/
import Rulebook.Proofs.Arrangement
import Rulebook.Rule.Basic

namespace Rulebook.Arrangement

variable {α β : Type _} {fixed : α → Bool} {xs : List α} {source target : Int} {after : Bool}

/-! ## Lists whose last member alone may be fixed -/

/-- No member is fixed, unless it is the last one. -/
def FixedLast (fixed : α → Bool) (xs : List α) : Prop :=
  ∀ x ∈ xs.dropLast, fixed x = false

instance : Decidable (FixedLast fixed xs) :=
  inferInstanceAs (Decidable (∀ x ∈ xs.dropLast, fixed x = false))

/-- If any member of such a list is fixed, the last one is. -/
theorem FixedLast.endsFixed_of_any (h : FixedLast fixed xs) (h_any : xs.any fixed = true) :
    endsFixed fixed xs = true := by
  obtain ⟨x, hx, h_fixed⟩ := List.any_eq_true.1 h_any
  have h_ne : xs ≠ [] := List.ne_nil_of_mem hx
  rw [← List.dropLast_append_getLast h_ne, List.mem_append, List.mem_singleton] at hx
  rcases hx with hx | rfl
  · rw [h x hx] at h_fixed
    exact nomatch h_fixed
  · exact endsFixed_iff.2 ⟨_, List.getLast?_eq_some_getLast h_ne, h_fixed⟩

/-! ## Drops that are rejected -/

/-- A drop is rejected: a member on itself, outside the list, of a fixed member or on one. -/
def Rejects (fixed : α → Bool) (xs : List α) (source target : Int) : Prop :=
  source = target ∨ inRange xs source = false ∨ inRange xs target = false ∨
    isFixedAt fixed xs source = true ∨ isFixedAt fixed xs target = true

instance : Decidable (Rejects fixed xs source target) :=
  inferInstanceAs (Decidable (_ ∨ _ ∨ _ ∨ _ ∨ _))

/-- A drop that is not rejected is one of a member that can be moved on another such one. -/
theorem not_rejects_iff :
    ¬ Rejects fixed xs source target ↔
      source ≠ target ∧ (∃ x, at? xs source = some x ∧ fixed x = false) ∧
        ∃ y, at? xs target = some y ∧ fixed y = false := by
  rw [← isFixedAt_eq_false_iff, ← isFixedAt_eq_false_iff]
  simp only [Rejects, not_or, Bool.not_eq_false, Bool.not_eq_true]
  tauto

/-- Nothing lands exactly if the drop is rejected. -/
theorem landing?_eq_none_iff :
    landing? fixed xs source target after = none ↔ Rejects fixed xs source target := by
  unfold landing? Rejects
  by_cases h_same : source = target
  · simp [h_same]
  · rw [if_neg h_same]
    cases inRange xs source <;> cases inRange xs target <;> cases isFixedAt fixed xs source <;>
      cases isFixedAt fixed xs target <;> simp [h_same]

theorem relocate_of_rejects (h : Rejects fixed xs source target) :
    relocate fixed xs source target after = xs := by
  rw [relocate, landing?_eq_none_iff.2 h]

/-! ## Where a member lands -/

/-- The position of the target in the list from which the source was taken out. -/
def without (source target : Int) : Int :=
  if source < target then target - 1 else target

/-- The position right behind the target, or right in front of it, in the list from which the source
was taken out. -/
def beside (source target : Int) (after : Bool) : Int :=
  without source target + if after then 1 else 0

/-- **The bound for the last place is never reached** if nothing but the last member is fixed. -/
theorem landing?_eq_beside (h_last : FixedLast fixed xs) (h : ¬ Rejects fixed xs source target)
    (after : Bool) :
    0 ≤ beside source target after ∧
      landing? fixed xs source target after = some (beside source target after).toNat := by
  obtain ⟨h_ne, ⟨x, hx, hx_fixed⟩, y, hy, hy_fixed⟩ := not_rejects_iff.1 h
  obtain ⟨hx0, hx_lt⟩ := toNat_lt_of_at? hx
  obtain ⟨hy0, hy_lt⟩ := toNat_lt_of_at? hy
  have h_in : (!inRange xs source || !inRange xs target) = false := by
    rw [inRange_of_at? hx, inRange_of_at? hy]
    rfl
  have h_free : (isFixedAt fixed xs source || isFixedAt fixed xs target) = false := by
    rw [isFixedAt, isFixedAt, hx, hy, Option.any_some, Option.any_some, hx_fixed, hy_fixed]
    rfl
  have h_wanted :
      (if source < target then (if after then target else target - 1)
        else (if after then target + 1 else target)) = beside source target after := by
    unfold beside without
    cases after <;> split <;> simp
  simp only [landing?, if_neg h_ne, h_in, h_free, Bool.false_eq_true, if_false, Option.some.injEq,
    List.length_eraseIdx_of_lt hx_lt]
  rw [h_wanted]
  have h_bounds : 0 ≤ beside source target after ∧
      beside source target after ≤ max source target := by
    unfold beside without
    cases after <;> split <;> simp <;> omega
  refine ⟨h_bounds.1, ?_⟩
  split
  · -- A fixed member in the rest is the last one of the list, and neither of the two is it.
    rename_i h_any
    obtain ⟨z, hz, hz_fixed⟩ := List.any_eq_true.1 h_any
    have h_ends := h_last.endsFixed_of_any
      (List.any_eq_true.2 ⟨z, List.mem_of_mem_eraseIdx hz, hz_fixed⟩)
    have h_source := succ_lt_of_endsFixed h_ends (at?_eq_some_iff.1 hx).2 hx_fixed
    have h_target := succ_lt_of_endsFixed h_ends (at?_eq_some_iff.1 hy).2 hy_fixed
    omega
  · omega

/-! ## What the members are -/

/-- What the members are does not matter to where one of them lands. -/
theorem landing?_map (f : β → α) (ys : List β) (source target : Int) (after : Bool) :
    landing? fixed (ys.map f) source target after = landing? (fixed ∘ f) ys source target after := by
  simp only [landing?, inRange_map, isFixedAt_map, List.eraseIdx_map, List.any_map, List.length_map]

/-- Nor does it matter to the drop. -/
theorem map_relocate (f : β → α) (ys : List β) (source target : Int) (after : Bool) :
    (relocate (fixed ∘ f) ys source target after).map f =
      relocate fixed (ys.map f) source target after := by
  unfold relocate
  rw [landing?_map]
  cases landing? (fixed ∘ f) ys source target after with
  | none => rfl
  | some k => exact map_transfer f ys source.toNat k

/-! ## Where the others stand -/

/-- A member that is put in between two parts of a list. -/
theorem insertIdx_length_append (front back : List α) (x : α) :
    (front ++ back).insertIdx front.length x = front ++ x :: back := by
  induction front with
  | nil => exact List.insertIdx_zero
  | cons y front ih =>
    rw [List.cons_append, List.length_cons, List.insertIdx_succ_cons, ih, List.cons_append]

/-- A member that is put in right behind another one, or right in front of it. -/
theorem insertIdx_beside (front back : List α) (x y : α) (after : Bool) :
    (front ++ y :: back).insertIdx (front.length + if after then 1 else 0) x =
      if after then front ++ y :: x :: back else front ++ x :: y :: back := by
  cases after with
  | false => exact insertIdx_length_append front (y :: back) x
  | true =>
    have h := insertIdx_length_append (front ++ [y]) back x
    rwa [List.append_assoc, List.append_assoc, List.length_append] at h

/-- The list from which the source was taken out has a part in front of the target and one behind
it. -/
theorem exists_without {y : α} (h_ne : source ≠ target) (h_source : 0 ≤ source)
    (hy : at? xs target = some y) :
    ∃ front back, xs.eraseIdx source.toNat = front ++ y :: back ∧
      (front.length : Int) = without source target := by
  obtain ⟨h0, hy⟩ := at?_eq_some_iff.1 hy
  have h_without : 0 ≤ without source target ∧
      (xs.eraseIdx source.toNat)[(without source target).toNat]? = some y := by
    unfold without
    split
    · refine ⟨by omega, ?_⟩
      rw [List.getElem?_eraseIdx_of_ge (by omega), ← hy]
      congr 1
      omega
    · exact ⟨h0, by rw [List.getElem?_eraseIdx_of_lt (by omega), hy]⟩
  obtain ⟨h0, hy⟩ := h_without
  obtain ⟨h_lt, rfl⟩ := List.getElem?_eq_some_iff.1 hy
  refine ⟨(xs.eraseIdx source.toNat).take (without source target).toNat,
    (xs.eraseIdx source.toNat).drop ((without source target).toNat + 1), ?_, ?_⟩
  · rw [← List.drop_eq_getElem_cons h_lt, List.take_append_drop]
  · rw [List.length_take_of_le (Nat.le_of_lt h_lt)]
    exact Int.toNat_of_nonneg h0

/-- A fixed member in the last place stays there. -/
theorem getLast?_relocate (h_ends : endsFixed fixed xs = true) (source target : Int)
    (after : Bool) : (relocate fixed xs source target after).getLast? = xs.getLast? := by
  unfold relocate
  cases h_landing : landing? fixed xs source target after with
  | none => rfl
  | some k =>
    obtain ⟨⟨x, hx, hx_fixed⟩, -, h_front⟩ := landing?_eq_some h_landing
    have hx := (at?_eq_some_iff.1 hx).2
    exact getLast?_transfer hx (succ_lt_of_endsFixed h_ends hx hx_fixed) (h_front h_ends)

/-- **A member stands where it was dropped.**  In a list in which nothing but the last member may be
fixed, a drop that is rejected changes nothing.  After any other one the list without the member that
was moved is as it was without it, and the member stands right behind the target if it was dropped
on its lower half, and right in front of it if not: the place is the one beside the target, and no
bound has changed it.  A fixed member in the last place stays there. -/
theorem relocate_beside (h_last : FixedLast fixed xs) (source target : Int) (after : Bool) :
    let moved := relocate fixed xs source target after
    (Rejects fixed xs source target → moved = xs) ∧
      (¬ Rejects fixed xs source target → ∃ x y front back k,
        at? xs source = some x ∧ at? xs target = some y ∧
          landing? fixed xs source target after = some k ∧ (k : Int) = beside source target after ∧
          moved[k]? = some x ∧ moved.eraseIdx k = xs.eraseIdx source.toNat ∧
          xs.eraseIdx source.toNat = front ++ y :: back ∧
          (front.length : Int) = without source target ∧
          moved = if after then front ++ y :: x :: back else front ++ x :: y :: back) ∧
      (endsFixed fixed xs = true → moved.getLast? = xs.getLast?) := by
  intro moved
  refine ⟨relocate_of_rejects, fun h => ?_, fun h_ends => getLast?_relocate h_ends _ _ _⟩
  obtain ⟨h_ne, ⟨x, hx, -⟩, y, hy, -⟩ := not_rejects_iff.1 h
  obtain ⟨h_beside, h_landing⟩ := landing?_eq_beside h_last h after
  obtain ⟨-, hk, -⟩ := landing?_eq_some h_landing
  have hx' := (at?_eq_some_iff.1 hx).2
  have h_moved : moved = transfer xs source.toNat (beside source target after).toNat := by
    simp only [moved, relocate, h_landing]
  obtain ⟨front, back, h_rest, h_front⟩ := exists_without h_ne (at?_eq_some_iff.1 hx).1 hy
  have h_place : (beside source target after).toNat = front.length + if after then 1 else 0 := by
    unfold beside
    rw [← h_front]
    cases after <;> rfl
  refine ⟨x, y, front, back, _, hx, hy, h_landing, Int.toNat_of_nonneg h_beside, ?_, ?_, h_rest,
    h_front, ?_⟩
  · rw [h_moved]
    exact getElem?_transfer_self hx' hk
  · rw [h_moved]
    exact eraseIdx_transfer hx'
  · rw [h_moved, transfer_of_getElem? hx', h_rest, h_place]
    exact insertIdx_beside front back x y after

/-- Two equal rules, and the second one is dropped behind the last one that can be moved. -/
theorem relocate_beside_of_equal :
    let a := Rule.ofAttributes { matchValue := .text "a" }
    let b := Rule.ofAttributes { matchValue := .text "b" }
    let rules := [a, a, b, .fallback]
    let moved := relocate Rule.isFinal rules 1 2 true
    FixedLast Rule.isFinal rules ∧
      (Rejects Rule.isFinal rules 1 2 → moved = rules) ∧
      (¬ Rejects Rule.isFinal rules 1 2 → ∃ x y front back k,
        at? rules 1 = some x ∧ at? rules 2 = some y ∧
          landing? Rule.isFinal rules 1 2 true = some k ∧ (k : Int) = beside 1 2 true ∧
          moved[k]? = some x ∧ moved.eraseIdx k = rules.eraseIdx (1 : Int).toNat ∧
          rules.eraseIdx (1 : Int).toNat = front ++ y :: back ∧
          (front.length : Int) = without 1 2 ∧ moved = front ++ y :: x :: back) ∧
      (endsFixed Rule.isFinal rules = true → moved.getLast? = rules.getLast?) := by
  intro a b rules moved
  have h_last : FixedLast Rule.isFinal rules := by decide
  exact ⟨h_last, relocate_beside h_last 1 2 true⟩

end Rulebook.Arrangement
