/-
  Rulebook.Proofs.Book.Relocation

  Dropping a rule on another one comes to the same as moving it there by the buttons, one place at a
  time (`relocate?_eq_press`).

  A rule that was put in at a position goes down by one place by changing places with the one behind
  it; that is to put it in one place further down (`swapAt_transfer`).  So each press of a button
  leads from the list with the rule at one place to the list with the rule at the next one, and the
  presses are counted by the distance.  The buttons have bounds of their own.  On the way down the
  last place is kept for the sentinel, and the drop keeps it as well.

  Equal rules are told apart by where they stood, so that a drop which exchanges equal rules is seen
  to have moved one of them.
-/
import Rulebook.Proofs.Arrangement.Drop
import Rulebook.Proofs.Book.Step

namespace Rulebook

namespace Arrangement

variable {α : Type _} {xs : List α}

/-- A member that was taken to a place makes the last one a fixed one only if it was one before. -/
theorem FixedLast.endsFixed_of_transfer {fixed : α → Bool} {source i : Nat} {x : α}
    (h_last : FixedLast fixed xs) (hx : xs[source]? = some x) (hi : i < xs.length)
    (h : endsFixed fixed (transfer xs source i) = true) : endsFixed fixed xs = true := by
  obtain ⟨y, hy, h_fixed⟩ := endsFixed_iff.1 h
  have h_mem : y ∈ xs := (transfer_perm hx hi).subset (List.mem_of_getLast? hy)
  exact h_last.endsFixed_of_any (List.any_eq_true.2 ⟨y, h_mem, h_fixed⟩)

end Arrangement

namespace Book

open Arrangement (FixedLast Rejects at? at?_eq_some_iff at?_natCast beside endsFixed transfer)

variable {b : Book} {source : Nat} {r : Rule}

/-! ## Pressing a button -/

/-- Presses a button at one position after another.  There is no book in the end if one of the moves
cannot be made. -/
def press (button : Book → Int → Option Book) (b : Book) (positions : List Nat) : Option Book :=
  positions.foldlM (fun b (i : Nat) => button b i) b

theorem press_concat (button : Book → Int → Option Book) (b : Book) (positions : List Nat)
    (i : Nat) : b.press button (positions ++ [i]) = (b.press button positions).bind (button · i) := by
  rw [press, List.foldlM_append]
  exact bind_congr fun b' => bind_pure _

/-- The button for down takes a rule from a place to the next one, unless that is the last place and
kept for the sentinel. -/
theorem moveDown?_transfer (h_last : FixedLast Rule.isFinal b.rules)
    (hr : b.rules[source]? = some r) (h_normal : r.isFinal = false) {i : Nat}
    (hi : i + 1 < b.rules.length)
    (h_ends : endsFixed Rule.isFinal b.rules = true → i + 2 < b.rules.length) :
    (b.withRules (transfer b.rules source i)).moveDown? i =
      some (b.withRules (transfer b.rules source (i + 1))) := by
  have h_self := Arrangement.getElem?_transfer_self hr (Nat.lt_of_succ_lt hi)
  have h_length := (Arrangement.transfer_perm hr (Nat.lt_of_succ_lt hi)).length_eq
  refine moveDown?_eq_some_iff.2 ⟨⟨r, ?_, h_normal⟩, ?_, ?_⟩
  · rw [rules_withRules, at?_natCast, h_self]
  · -- The button looks at the last rule of the list as it is by now, the drop at the one before.
    rw [rules_withRules, h_length]
    split
    · rename_i h_moved
      have h_kept := h_ends (h_last.endsFixed_of_transfer hr (Nat.lt_of_succ_lt hi) h_moved)
      omega
    · omega
  · rw [rules_withRules, withRules_withRules, Int.toNat_natCast,
      Arrangement.swapAt_transfer hr hi]

/-- The button for up takes a rule from a place to the one before it. -/
theorem moveUp?_transfer (hr : b.rules[source]? = some r) (h_normal : r.isFinal = false) {i : Nat}
    (hi : i + 1 < b.rules.length) :
    (b.withRules (transfer b.rules source (i + 1))).moveUp? ((i + 1 : Nat) : Int) =
      some (b.withRules (transfer b.rules source i)) := by
  have h_self := Arrangement.getElem?_transfer_self hr hi
  refine moveUp?_eq_some_iff.2 ⟨by omega, ⟨r, ?_, h_normal⟩, ?_⟩
  · rw [rules_withRules, at?_natCast, h_self]
  · have h_place : (((i + 1 : Nat) : Int) - 1).toNat = i := by omega
    rw [rules_withRules, withRules_withRules, h_place, ← Arrangement.swapAt_transfer hr hi,
      Arrangement.swapAt_swapAt]

/-! ## Pressing it again and again -/

/-- The button for down, pressed once for each place on the way. -/
theorem press_moveDown? (h_last : FixedLast Rule.isFinal b.rules) (hr : b.rules[source]? = some r)
    (h_normal : r.isFinal = false) (distance : Nat) (h_in : source + distance < b.rules.length)
    (h_ends : endsFixed Rule.isFinal b.rules = true → source + distance + 1 < b.rules.length) :
    b.press moveDown? (List.range' source distance) =
      some (b.withRules (transfer b.rules source (source + distance))) := by
  induction distance with
  | zero =>
    rw [Nat.add_zero, Arrangement.transfer_self, withRules_rules]
    rfl
  | succ distance ih =>
    have h_before := ih (by omega) fun h => Nat.lt_of_succ_lt (h_ends h)
    rw [List.range'_concat, Nat.one_mul, press_concat, h_before, Option.bind_some]
    exact moveDown?_transfer h_last hr h_normal (by omega) h_ends

/-- The button for up, pressed once for each place on the way. -/
theorem press_moveUp? (hr : b.rules[source]? = some r) (h_normal : r.isFinal = false)
    {distance : Nat} (landed : Nat) (h_source : source = landed + distance) :
    b.press moveUp? (List.range' (landed + 1) distance).reverse =
      some (b.withRules (transfer b.rules source landed)) := by
  obtain ⟨h_lt, -⟩ := List.getElem?_eq_some_iff.1 hr
  induction distance generalizing landed with
  | zero =>
    obtain rfl : source = landed := h_source
    rw [Arrangement.transfer_self, withRules_rules]
    rfl
  | succ distance ih =>
    -- All presses but the last one lead to the place behind the one where the rule lands.
    have h_before := ih (landed + 1) (by omega)
    rw [List.range'_succ, List.reverse_cons, press_concat, h_before, Option.bind_some]
    exact moveUp?_transfer hr h_normal (by omega)

/-! ## Drops -/

/-- A drop moves nothing exactly if it is rejected or puts the rule where it stands. -/
theorem relocate?_eq_none_iff (h_last : FixedLast Rule.isFinal b.rules) {source target : Int}
    {after : Bool} :
    b.relocate? source target after = none ↔
      Rejects Rule.isFinal b.rules source target ∨ beside source target after = source := by
  by_cases h : Rejects Rule.isFinal b.rules source target
  · rw [relocate?, Arrangement.landing?_eq_none_iff.2 h]
    exact ⟨fun _ => .inl h, fun _ => rfl⟩
  · obtain ⟨h_beside, h_landing⟩ := Arrangement.landing?_eq_beside h_last h after
    simp only [relocate?, h_landing, Int.toNat_of_nonneg h_beside, h, false_or]
    split
    · exact ⟨fun _ => ‹_›, fun _ => rfl⟩
    · exact ⟨fun h => (nomatch h), fun h => absurd h ‹_›⟩

/-- The list after a drop, each rule with the position at which it stood. -/
def dropped (b : Book) (source target : Int) (after : Bool) : List (Rule × Nat) :=
  Arrangement.relocate (Rule.isFinal ∘ Prod.fst) b.rules.zipIdx source target after

section dropped

variable {b' : Book} {source target : Int} {after : Bool} {k : Nat}

theorem map_dropped (b : Book) (source target : Int) (after : Bool) :
    (b.dropped source target after).map Prod.fst =
      Arrangement.relocate Rule.isFinal b.rules source target after := by
  rw [dropped, Arrangement.map_relocate, List.zipIdx_map_fst]

/-- A drop that lands takes the rule to its place together with its old position. -/
theorem dropped_of_landing?
    (h : Arrangement.landing? Rule.isFinal b.rules source target after = some k) :
    b.dropped source target after = transfer b.rules.zipIdx source.toNat k := by
  rw [← b.rules.zipIdx_map_fst 0, Arrangement.landing?_map] at h
  rw [dropped, Arrangement.relocate, h]

/-- A rule that lands stands at its new place with its old position. -/
theorem getElem?_dropped
    (h : Arrangement.landing? Rule.isFinal b.rules source target after = some k) :
    ∃ r, at? b.rules source = some r ∧
      (b.dropped source target after)[k]? = some (r, source.toNat) := by
  obtain ⟨⟨r, hr, -⟩, hk, -⟩ := Arrangement.landing?_eq_some h
  have h_numbered : b.rules.zipIdx[source.toNat]? = some (r, source.toNat) := by
    rw [List.getElem?_zipIdx, (at?_eq_some_iff.1 hr).2, Option.map_some, Nat.zero_add]
  refine ⟨r, hr, ?_⟩
  rw [dropped_of_landing? h]
  exact Arrangement.getElem?_transfer_self h_numbered (by rwa [List.length_zipIdx])

/-- **A drop that moves nothing leaves each rule where it was**, and any other one does not, even if
it exchanges equal rules. -/
theorem relocate?_eq_none_iff_dropped :
    b.relocate? source target after = none ↔ b.dropped source target after = b.rules.zipIdx := by
  cases h : Arrangement.landing? Rule.isFinal b.rules source target after with
  | none =>
    have h_numbered := h
    rw [← b.rules.zipIdx_map_fst 0, Arrangement.landing?_map] at h_numbered
    simp only [relocate?, h, dropped, Arrangement.relocate, h_numbered]
  | some k =>
    obtain ⟨r, hr, h_there⟩ := getElem?_dropped h
    have h0 : 0 ≤ source := (at?_eq_some_iff.1 hr).1
    simp only [relocate?, h]
    constructor
    · intro h_none
      split at h_none
      · obtain rfl : source.toNat = k := by omega
        rw [dropped_of_landing? h, Arrangement.transfer_self]
      · exact absurd h_none (Option.some_ne_none _)
    · intro h_same
      -- What stands at the new place has the number of that place, and of the old one.
      rw [h_same, List.getElem?_zipIdx, Nat.zero_add] at h_there
      obtain ⟨r', -, h_number⟩ := Option.map_eq_some_iff.1 h_there
      obtain ⟨-, rfl⟩ := Prod.mk.inj h_number
      rw [if_pos (Int.toNat_of_nonneg h0)]

end dropped

/-- **Drags and buttons agree.**  In a book in which nothing but the last rule may be the sentinel, a
drop moves nothing exactly if it is rejected or puts the rule where it stands, and then the list is
as it was, rule by rule.  Any other drop answers with another position than the old one, at which the
very rule now stands that was dropped; and the list is the one that comes of pressing the button for
down at each position from the old one to the one before the new one, or the button for up at each
position from the old one back to the one behind the new one, where every press moves a rule. -/
theorem relocate?_eq_press (b : Book) (h_last : FixedLast Rule.isFinal b.rules)
    (source target : Int) (after : Bool) :
    (b.relocate? source target after = none ↔
        Rejects Rule.isFinal b.rules source target ∨ beside source target after = source) ∧
      (b.relocate? source target after = none ↔
        b.dropped source target after = b.rules.zipIdx) ∧
      ∀ b' k, b.relocate? source target after = some (b', k) →
        (k : Int) ≠ source ∧ b'.rules = (b.dropped source target after).map Prod.fst ∧
          (∃ r, at? b.rules source = some r ∧ b'.rules[k]? = some r ∧
            (b.dropped source target after)[k]? = some (r, source.toNat)) ∧
          (source < k →
            b.press moveDown? (List.range' source.toNat (k - source.toNat)) = some b') ∧
          (k < source →
            b.press moveUp? (List.range' (k + 1) (source.toNat - k)).reverse = some b') := by
  refine ⟨relocate?_eq_none_iff h_last, relocate?_eq_none_iff_dropped, fun b' k h => ?_⟩
  obtain ⟨h_landing, h_ne, rfl⟩ := relocate?_eq_some_iff.1 h
  obtain ⟨⟨r, hr, h_normal⟩, hk, h_front⟩ := Arrangement.landing?_eq_some h_landing
  obtain ⟨h0, hr'⟩ := at?_eq_some_iff.1 hr
  have h_there := Arrangement.getElem?_transfer_self hr' hk
  refine ⟨h_ne, ?_, ⟨r, hr, h_there, ?_⟩, fun h_down => ?_, fun h_up => ?_⟩
  · rw [map_dropped, Arrangement.relocate, h_landing]
    rfl
  · obtain ⟨r', hr₁, h_dropped⟩ := getElem?_dropped h_landing
    obtain rfl : r = r' := Option.some.inj (hr.symm.trans hr₁)
    exact h_dropped
  · have h_way : source.toNat + (k - source.toNat) = k := by omega
    have h_pressed := press_moveDown? h_last hr' h_normal (k - source.toNat) (by omega)
      fun h_ends => by rw [h_way]; exact h_front h_ends
    rwa [h_way] at h_pressed
  · exact press_moveUp? hr' h_normal k (by omega)

/-- The first of three equal rules is dropped behind the last of them: the list is the same list
again, but two presses of the button have moved a rule. -/
theorem relocate?_eq_press_of_equal :
    let a := Rule.ofAttributes { matchValue := .text "a" }
    let b := Book.new [a, a, a]
    FixedLast Rule.isFinal b.rules ∧ b.relocate? 0 2 true = some (b, 2) ∧
      (b.relocate? 0 2 true = none ↔
        Rejects Rule.isFinal b.rules 0 2 ∨ beside 0 2 true = 0) ∧
      (b.relocate? 0 2 true = none ↔ b.dropped 0 2 true = b.rules.zipIdx) ∧
      b.press moveDown? [0, 1] = some b := by
  intro a b
  have h_last : FixedLast Rule.isFinal b.rules := by decide
  have h_some : b.relocate? 0 2 true = some (b, 2) := by decide
  obtain ⟨h_none, h_dropped, h_moved⟩ := relocate?_eq_press b h_last 0 2 true
  obtain ⟨-, -, -, h_down, -⟩ := h_moved b 2 h_some
  exact ⟨h_last, h_some, h_none, h_dropped, h_down (by decide)⟩

end Book

end Rulebook
