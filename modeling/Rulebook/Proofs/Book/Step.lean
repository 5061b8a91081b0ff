/-
  Rulebook.Proofs.Book.Step

  When an operation on a book succeeds, and what it then answers: one lemma for each operation,
  which says everything that the operation can do.  Later modules cite these and never open an
  operation.
-/
import Rulebook.Book
import Rulebook.Proofs.Arrangement
import Rulebook.Proofs.Outcome

namespace Rulebook

namespace Book

open Arrangement (at? endsFixed transfer swapAt)

variable {b b' : Book} {i : Int} {r previous : Rule}

@[simp] theorem rules_withRules (b : Book) (rules : List Rule) : (b.withRules rules).rules = rules :=
  rfl

@[simp] theorem withRules_withRules (b : Book) (rules rules' : List Rule) :
    (b.withRules rules).withRules rules' = b.withRules rules' := rfl

@[simp] theorem withRules_rules (b : Book) : b.withRules b.rules = b := rfl

/-! ## Looking -/

theorem get_eq_ok_iff : b.get i = .ok r ↔ at? b.rules i = some r := by
  unfold get
  cases h : at? b.rules i with
  | none => simp
  | some r' => simp

/-- What goes on with the rule at a position succeeds only if there is one. -/
theorem get_bind_eq_ok_iff {β : Type} {f : Rule → Except Error β} {y : β} :
    (b.get i >>= f) = .ok y ↔ ∃ r, at? b.rules i = some r ∧ f r = .ok y := by
  rw [bind_eq_ok_iff]
  simp only [get_eq_ok_iff]

/-! ## Putting in and taking out -/

theorem insert_eq_ok_iff {placement : Option Placement} {k : Nat} :
    b.insert r placement = .ok (b', k) ↔
      r.isFinal = false ∧ k = b.insertionIndex (placement.getD b.placement) ∧
        b' = b.withRules (b.rules.insertIdx k r) := by
  unfold insert
  cases hr : r.isFinal with
  | true => simp
  | false =>
    simp only [Bool.false_eq_true, if_false, Except.ok.injEq, Prod.mk.injEq, true_and]
    constructor
    · rintro ⟨rfl, rfl⟩
      exact ⟨rfl, rfl⟩
    · rintro ⟨rfl, rfl⟩
      exact ⟨rfl, rfl⟩

/-- A new rule goes into the list or to its end. -/
theorem insertionIndex_le (b : Book) (placement : Placement) :
    b.insertionIndex placement ≤ b.rules.length := by
  unfold insertionIndex
  split
  · exact Nat.zero_le _
  · split <;> omega

/-- In a book that ends with its sentinel, a new rule goes in front of it. -/
theorem insertionIndex_lt (h_final : b.hasFinal = true)
    (h_ends : endsFixed Rule.isFinal b.rules = true) (placement : Placement) :
    b.insertionIndex placement < b.rules.length := by
  obtain ⟨last, hlast, -⟩ := Arrangement.endsFixed_iff.1 h_ends
  have hpos : 0 < b.rules.length := List.length_pos_of_mem (List.mem_of_getLast? hlast)
  unfold insertionIndex
  split
  · exact hpos
  · rw [h_final, h_ends, Bool.and_self, if_pos rfl]
    omega

theorem insertAt_eq_ok_iff :
    b.insertAt i r = .ok b' ↔
      r.isFinal = false ∧ (0 ≤ i ∧ i ≤ b.rules.length) ∧
        b' = b.withRules (b.rules.insertIdx i.toNat r) := by
  unfold insertAt
  cases hr : r.isFinal with
  | true => simp
  | false =>
    simp only [Bool.false_eq_true, if_false, Bool.and_eq_true, decide_eq_true_eq, true_and]
    by_cases hi : 0 ≤ i ∧ i ≤ b.rules.length
    · rw [if_pos hi]
      simp [hi, eq_comm]
    · rw [if_neg hi]
      simp [hi]

theorem delete_eq_ok_iff :
    b.delete i = .ok (b', r) ↔
      at? b.rules i = some r ∧ r.isFinal = false ∧
        b' = b.withRules (b.rules.eraseIdx i.toNat) := by
  unfold delete
  rw [get_bind_eq_ok_iff]
  constructor
  · intro ⟨r', hr', h⟩
    cases hf : r'.isFinal with
    | true =>
      rw [hf, if_pos rfl] at h
      exact nomatch h
    | false =>
      rw [hf, if_neg Bool.false_ne_true] at h
      obtain ⟨rfl, rfl⟩ := Prod.mk.inj (Except.ok.inj h)
      exact ⟨hr', hf, rfl⟩
  · rintro ⟨hr, hf, rfl⟩
    exact ⟨r, hr, by rw [hf, if_neg Bool.false_ne_true]; rfl⟩

/-! ## Changing in place -/

theorem replace_eq_ok_iff :
    b.replace i r = .ok (b', previous) ↔
      at? b.rules i = some previous ∧ previous.kind = r.kind ∧
        b' = b.withRules (b.rules.set i.toNat r) := by
  unfold replace
  rw [get_bind_eq_ok_iff]
  constructor
  · intro ⟨r', hr', h⟩
    by_cases hk : r'.kind = r.kind
    · rw [if_pos hk] at h
      obtain ⟨rfl, rfl⟩ := Prod.mk.inj (Except.ok.inj h)
      exact ⟨hr', hk, rfl⟩
    · rw [if_neg hk] at h
      exact nomatch h
  · rintro ⟨hr, hk, rfl⟩
    exact ⟨previous, hr, by rw [if_pos hk]; rfl⟩

theorem toggle_eq_ok_iff {value flag : Value} :
    b.toggle i value = .ok (b', flag) ↔
      ∃ r, at? b.rules i = some r ∧ r.isFinal = false ∧ flag = r.enabled ∧
        b' = b.withRules (b.rules.set i.toNat (r.withFlag value)) := by
  unfold toggle
  rw [get_bind_eq_ok_iff]
  constructor
  · intro ⟨r', hr', h⟩
    cases hf : r'.isFinal with
    | true =>
      rw [hf, if_pos rfl] at h
      exact nomatch h
    | false =>
      rw [hf, if_neg Bool.false_ne_true] at h
      obtain ⟨rfl, rfl⟩ := Prod.mk.inj (Except.ok.inj h)
      exact ⟨r', hr', hf, rfl, rfl⟩
  · rintro ⟨r', hr', hf, rfl, rfl⟩
    exact ⟨r', hr', by rw [hf, if_neg Bool.false_ne_true]; rfl⟩

/-! ## Moving -/

theorem moveUp?_eq_some_iff :
    b.moveUp? i = some b' ↔
      0 < i ∧ (∃ r, at? b.rules i = some r ∧ r.isFinal = false) ∧
        b' = b.withRules (swapAt b.rules (i - 1).toNat) := by
  unfold moveUp? Arrangement.moveUp
  by_cases h : Arrangement.canMoveUp Rule.isFinal b.rules i = true
  · obtain ⟨h0, hr⟩ := Arrangement.canMoveUp_iff.1 h
    rw [if_pos h, if_pos h, Option.some.injEq]
    exact ⟨fun hb => ⟨h0, hr, hb.symm⟩, fun hb => hb.2.2.symm⟩
  · rw [if_neg h]
    constructor
    · intro hb
      exact nomatch hb
    · rintro ⟨h0, hr, -⟩
      exact absurd (Arrangement.canMoveUp_iff.2 ⟨h0, hr⟩) h

theorem moveDown?_eq_some_iff :
    b.moveDown? i = some b' ↔
      (∃ r, at? b.rules i = some r ∧ r.isFinal = false) ∧
        i + (if endsFixed Rule.isFinal b.rules then 2 else 1) < b.rules.length ∧
        b' = b.withRules (swapAt b.rules i.toNat) := by
  unfold moveDown? Arrangement.moveDown
  by_cases h : Arrangement.canMoveDown Rule.isFinal b.rules i = true
  · obtain ⟨hr, hlt⟩ := Arrangement.canMoveDown_iff.1 h
    rw [if_pos h, if_pos h, Option.some.injEq]
    exact ⟨fun hb => ⟨hr, hlt, hb.symm⟩, fun hb => hb.2.2.symm⟩
  · rw [if_neg h]
    constructor
    · intro hb
      exact nomatch hb
    · rintro ⟨hr, hlt, -⟩
      exact absurd (Arrangement.canMoveDown_iff.2 ⟨hr, hlt⟩) h

theorem relocate?_eq_some_iff {source target : Int} {after : Bool} {k : Nat} :
    b.relocate? source target after = some (b', k) ↔
      Arrangement.landing? Rule.isFinal b.rules source target after = some k ∧
        (k : Int) ≠ source ∧ b' = b.withRules (transfer b.rules source.toNat k) := by
  unfold relocate? Arrangement.relocate
  cases hl : Arrangement.landing? Rule.isFinal b.rules source target after with
  | none => simp
  | some k' =>
    by_cases hk : (k' : Int) = source
    · simp only [hk, if_true, Option.some.injEq]
      constructor
      · intro h
        exact nomatch h
      · rintro ⟨rfl, hne, -⟩
        exact absurd hk hne
    · simp only [hk, if_false, Option.some.injEq, Prod.mk.injEq]
      constructor
      · rintro ⟨rfl, rfl⟩
        exact ⟨rfl, hk, rfl⟩
      · rintro ⟨rfl, -, rfl⟩
        exact ⟨rfl, rfl⟩

end Book

end Rulebook
