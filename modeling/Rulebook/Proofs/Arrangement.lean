/-
  Rulebook.Proofs.Arrangement

  What the primitives of an arrangement do to the members of a list: which ones they keep, and in
  which order, which one is last afterwards, and how each of them is taken back.

  A list whose last member is fixed keeps that member in its place as long as nothing is put
  behind it.  The primitives that a book is changed with are therefore each given a lemma about
  `List.getLast?`, and one about the number of fixed members.

  Two neighbours that change places are the same as one of them taken to the next place, so what
  holds of taking a member to another place holds of every move: without that member the list is
  as it was.
-/
import Rulebook.Arrangement
import Mathlib.Data.List.InsertIdx
import Mathlib.Data.List.Perm.Basic

namespace Rulebook.Arrangement

variable {α : Type _} {fixed : α → Bool} {xs : List α}

/-! ## Positions -/

theorem at?_eq_some_iff {i : Int} {x : α} :
    at? xs i = some x ↔ 0 ≤ i ∧ xs[i.toNat]? = some x := by
  unfold at?
  split
  · rename_i h0
    exact ⟨fun h => ⟨h0, h⟩, fun h => h.2⟩
  · rename_i h0
    exact ⟨fun h => by simp at h, fun h => absurd h.1 h0⟩

@[simp] theorem at?_natCast (i : Nat) : at? xs (i : Int) = xs[i]? := by
  simp [at?]

/-- A position with a member, as a number that is less than the length. -/
theorem toNat_lt_of_at? {i : Int} {x : α} (h : at? xs i = some x) :
    0 ≤ i ∧ i.toNat < xs.length := by
  obtain ⟨h0, hx⟩ := at?_eq_some_iff.1 h
  obtain ⟨hlt, -⟩ := List.getElem?_eq_some_iff.1 hx
  exact ⟨h0, hlt⟩

/-- A position in the list at which no member is fixed has a member that is not. -/
theorem isFixedAt_eq_false_iff {i : Int} :
    (inRange xs i = true ∧ isFixedAt fixed xs i = false) ↔
      ∃ x, at? xs i = some x ∧ fixed x = false := by
  constructor
  · intro ⟨hrange, hfixed⟩
    obtain ⟨x, hx⟩ := at?_eq_some_of_inRange hrange
    exact ⟨x, hx, by simpa [isFixedAt, hx] using hfixed⟩
  · intro ⟨x, hx, hfixed⟩
    exact ⟨inRange_of_at? hx, by simpa [isFixedAt, hx] using hfixed⟩

theorem canMoveUp_iff {i : Int} :
    canMoveUp fixed xs i = true ↔ 0 < i ∧ ∃ x, at? xs i = some x ∧ fixed x = false := by
  rw [← isFixedAt_eq_false_iff]
  simp only [canMoveUp, Bool.and_eq_true, decide_eq_true_eq, Bool.not_eq_true']
  constructor
  · intro ⟨⟨hrange, h0⟩, hfixed⟩
    exact ⟨h0, hrange, hfixed⟩
  · intro ⟨h0, hrange, hfixed⟩
    exact ⟨⟨hrange, h0⟩, hfixed⟩

theorem canMoveDown_iff {i : Int} :
    canMoveDown fixed xs i = true ↔
      (∃ x, at? xs i = some x ∧ fixed x = false) ∧
        i + (if endsFixed fixed xs then 2 else 1) < xs.length := by
  rw [← isFixedAt_eq_false_iff]
  simp only [canMoveDown, Bool.and_eq_true, decide_eq_true_eq, Bool.not_eq_true']
  refine and_congr Iff.rfl ?_
  split <;> omega

/-! ## The last member -/

theorem endsFixed_iff :
    endsFixed fixed xs = true ↔ ∃ x, xs.getLast? = some x ∧ fixed x = true :=
  Option.any_eq_true fixed xs.getLast?

/-- A member that is not fixed stands in front of a last one that is. -/
theorem succ_lt_of_endsFixed {i : Nat} {x : α} (h_ends : endsFixed fixed xs = true)
    (hx : xs[i]? = some x) (h_fixed : fixed x = false) : i + 1 < xs.length := by
  obtain ⟨last, hlast, hlast_fixed⟩ := endsFixed_iff.1 h_ends
  obtain ⟨hlt, -⟩ := List.getElem?_eq_some_iff.1 hx
  rw [List.getLast?_eq_getElem?] at hlast
  -- Otherwise the two are one member, which is fixed and is not.
  by_contra hge
  have hi : i = xs.length - 1 := by omega
  rw [← hi, hx, Option.some.injEq] at hlast
  rw [hlast, hlast_fixed] at h_fixed
  exact nomatch h_fixed

theorem getLast?_insertIdx {i : Nat} (x : α) (h : i < xs.length) :
    (xs.insertIdx i x).getLast? = xs.getLast? := by
  rw [List.getLast?_eq_getElem?, List.getLast?_eq_getElem?,
    List.length_insertIdx_of_le_length (by omega), List.getElem?_insertIdx_of_gt (by omega)]
  congr 1

theorem getLast?_eraseIdx {i : Nat} (h : i + 1 < xs.length) :
    (xs.eraseIdx i).getLast? = xs.getLast? := by
  rw [List.getLast?_eq_getElem?, List.getLast?_eq_getElem?,
    List.length_eraseIdx_of_lt (by omega), List.getElem?_eraseIdx_of_ge (by omega)]
  -- The last position of the shorter list is the one before the last of the longer one.
  congr 1
  omega

theorem getLast?_set {i : Nat} (x : α) (h : i + 1 < xs.length) :
    (xs.set i x).getLast? = xs.getLast? := by
  rw [List.getLast?_eq_getElem?, List.getLast?_eq_getElem?, List.length_set,
    List.getElem?_set_ne (by omega)]

/-- Putting a member where it already stands changes nothing. -/
theorem set_of_getElem? {i : Nat} {x : α} (h : xs[i]? = some x) : xs.set i x = xs := by
  obtain ⟨hlt, rfl⟩ := List.getElem?_eq_some_iff.1 h
  exact List.set_getElem_self hlt

/-- Putting a member in the place of another changes nothing exactly if it is the same one. -/
theorem set_eq_self_iff {i : Nat} {x y : α} (h : xs[i]? = some y) : xs.set i x = xs ↔ x = y := by
  constructor
  · intro h_same
    obtain ⟨h_lt, -⟩ := List.getElem?_eq_some_iff.1 h
    have h_here : (xs.set i x)[i]? = some y := by rw [h_same, h]
    rw [List.getElem?_set_self h_lt] at h_here
    exact Option.some.inj h_here
  · rintro rfl
    exact set_of_getElem? h

/-! ## How many members are fixed -/

theorem countP_insertIdx {i : Nat} {x : α} (h : i ≤ xs.length) (h_fixed : fixed x = false) :
    (xs.insertIdx i x).countP fixed = xs.countP fixed := by
  rw [(List.perm_insertIdx x xs h).countP_eq fixed,
    List.countP_cons_of_neg (by simp [h_fixed])]

theorem countP_eraseIdx {i : Nat} {x : α} (h : xs[i]? = some x) (h_fixed : fixed x = false) :
    (xs.eraseIdx i).countP fixed = xs.countP fixed := by
  obtain ⟨hlt, rfl⟩ := List.getElem?_eq_some_iff.1 h
  rw [← (List.getElem_cons_eraseIdx_perm hlt).countP_eq fixed,
    List.countP_cons_of_neg (by simp [h_fixed])]

theorem countP_set {i : Nat} {x y : α} (h : xs[i]? = some y) (h_fixed : fixed y = fixed x) :
    (xs.set i x).countP fixed = xs.countP fixed := by
  obtain ⟨hlt, rfl⟩ := List.getElem?_eq_some_iff.1 h
  rw [(List.set_perm_cons_eraseIdx hlt x).countP_eq fixed,
    ← (List.getElem_cons_eraseIdx_perm hlt).countP_eq fixed,
    List.countP_cons, List.countP_cons, h_fixed]

/-! ## Exchanging two members -/

theorem swapAt_perm (xs : List α) (i : Nat) : (swapAt xs i).Perm xs := by
  fun_induction swapAt xs i with
  | case1 a b rest => exact List.Perm.swap a b rest
  | case2 a rest i ih => exact List.Perm.cons a ih
  | case3 i xs h1 h2 => exact List.Perm.refl xs

theorem getElem?_swapAt {i : Nat} (j : Nat) (h : i + 1 < xs.length) :
    (swapAt xs i)[j]? = if j = i then xs[i + 1]? else if j = i + 1 then xs[i]? else xs[j]? := by
  fun_induction swapAt xs i generalizing j with
  | case1 a b rest => rcases j with - | - | j <;> simp
  | case2 a rest i ih =>
    have hi : i + 1 < rest.length := by simpa using h
    cases j with
    | zero => simp
    | succ j => simpa using ih j hi
  | case3 i xs h1 h2 =>
    -- A list with a member after the one at `i` is of one of the two other shapes.
    exfalso
    rcases xs with - | ⟨a, - | ⟨b, rest⟩⟩
    · simp at h
    · simp at h
    · cases i with
      | zero => exact h1 a b rest rfl rfl
      | succ i => exact h2 a (b :: rest) i rfl rfl

/-- What the members are does not matter to an exchange. -/
theorem map_swapAt {β : Type _} (f : α → β) (xs : List α) (i : Nat) :
    (swapAt xs i).map f = swapAt (xs.map f) i := by
  fun_induction swapAt xs i with
  | case1 a b rest => rfl
  | case2 a rest i ih => rw [List.map_cons, List.map_cons, ih, swapAt]
  | case3 i xs h1 h2 =>
    -- A list that is too short stays too short.
    rcases xs with - | ⟨a, - | ⟨b, rest⟩⟩
    · rfl
    · cases i with
      | zero => rfl
      | succ i => exact (h2 a [] i rfl rfl).elim
    · cases i with
      | zero => exact (h1 a b rest rfl rfl).elim
      | succ i => exact (h2 a (b :: rest) i rfl rfl).elim

theorem getLast?_swapAt {i : Nat} (h : i + 2 < xs.length) :
    (swapAt xs i).getLast? = xs.getLast? := by
  rw [List.getLast?_eq_getElem?, List.getLast?_eq_getElem?, length_swapAt,
    getElem?_swapAt _ (by omega), if_neg (by omega), if_neg (by omega)]

/-! ## Taking a member to another place -/

section transfer

variable {source target : Nat} {x : α}

theorem transfer_of_getElem? (h : xs[source]? = some x) :
    transfer xs source target = (xs.eraseIdx source).insertIdx target x := by
  simp only [transfer, h]

theorem transfer_perm (h : xs[source]? = some x) (h_target : target < xs.length) :
    (transfer xs source target).Perm xs := by
  obtain ⟨hlt, rfl⟩ := List.getElem?_eq_some_iff.1 h
  rw [transfer_of_getElem? h]
  refine (List.perm_insertIdx _ _ ?_).trans (List.getElem_cons_eraseIdx_perm hlt)
  rw [List.length_eraseIdx_of_lt hlt]
  omega

/-- What the members are does not matter when one of them is taken to another place. -/
theorem map_transfer {β : Type _} (f : α → β) (xs : List α) (source target : Nat) :
    (transfer xs source target).map f = transfer (xs.map f) source target := by
  unfold transfer
  rw [List.getElem?_map]
  cases xs[source]? with
  | none => rfl
  | some x => rw [Option.map_some, List.map_insertIdx, List.eraseIdx_map]

/-- The member that was taken stands at its new place. -/
theorem getElem?_transfer_self (h : xs[source]? = some x) (h_target : target < xs.length) :
    (transfer xs source target)[target]? = some x := by
  obtain ⟨hlt, -⟩ := List.getElem?_eq_some_iff.1 h
  have hlen : target ≤ (xs.eraseIdx source).length := by
    rw [List.length_eraseIdx_of_lt hlt]
    omega
  rw [transfer_of_getElem? h, List.getElem?_insertIdx_self, if_pos hlen]

/-- Without the member that was taken the list is as it was without it. -/
theorem eraseIdx_transfer (h : xs[source]? = some x) :
    (transfer xs source target).eraseIdx target = xs.eraseIdx source := by
  rw [transfer_of_getElem? h, List.eraseIdx_insertIdx_self]

/-- Putting a member back where it was taken out undoes that. -/
theorem insertIdx_eraseIdx_of_getElem? (h : xs[source]? = some x) :
    (xs.eraseIdx source).insertIdx source x = xs := by
  obtain ⟨hlt, rfl⟩ := List.getElem?_eq_some_iff.1 h
  exact List.insertIdx_eraseIdx_getElem hlt

theorem getLast?_transfer (h : xs[source]? = some x) (h_source : source + 1 < xs.length)
    (h_target : target + 1 < xs.length) :
    (transfer xs source target).getLast? = xs.getLast? := by
  have hlen : target < (xs.eraseIdx source).length := by
    rw [List.length_eraseIdx_of_lt (by omega)]
    omega
  rw [transfer_of_getElem? h, getLast?_insertIdx x hlen, getLast?_eraseIdx h_source]

/-- Taking a member to another place does not make a second one of it. -/
theorem nodup_transfer (h : xs.Nodup) (source target : Nat) :
    (transfer xs source target).Nodup := by
  cases hx : xs[source]? with
  | none => rwa [transfer, hx]
  | some x =>
    by_cases h_target : target < xs.length
    · exact (transfer_perm hx h_target).nodup_iff.2 h
    · -- Behind the end nothing is put in.
      obtain ⟨hlt, -⟩ := List.getElem?_eq_some_iff.1 hx
      have h_length := List.length_eraseIdx_of_lt hlt
      rw [transfer_of_getElem? hx, List.insertIdx_of_length_lt (by omega)]
      exact h.sublist (List.eraseIdx_sublist xs source)

end transfer

/-! ## One place further -/

theorem swapAt_insertIdx {i : Nat} (x : α) (h : i < xs.length) :
    swapAt (xs.insertIdx i x) i = xs.insertIdx (i + 1) x := by
  induction xs generalizing i with
  | nil => exact absurd h (Nat.not_lt_zero i)
  | cons y rest ih =>
    cases i with
    | zero => rfl
    | succ i =>
      rw [List.insertIdx_succ_cons, List.insertIdx_succ_cons, swapAt, ih (Nat.lt_of_succ_lt_succ h)]

/-- A member that is taken to a place goes to the next one by changing places with the one there. -/
theorem swapAt_transfer {source i : Nat} {x : α} (hx : xs[source]? = some x)
    (h : i + 1 < xs.length) :
    swapAt (transfer xs source i) i = transfer xs source (i + 1) := by
  obtain ⟨h_lt, -⟩ := List.getElem?_eq_some_iff.1 hx
  have h_length := List.length_eraseIdx_of_lt h_lt
  rw [transfer_of_getElem? hx, transfer_of_getElem? hx, swapAt_insertIdx x (by omega)]

theorem transfer_self (xs : List α) (i : Nat) : transfer xs i i = xs := by
  unfold transfer
  split
  · exact insertIdx_eraseIdx_of_getElem? ‹_›
  · rfl

/-- An exchange takes the first one of the two to the next place … -/
theorem swapAt_eq_transfer {i : Nat} (h : i + 1 < xs.length) :
    swapAt xs i = transfer xs i (i + 1) := by
  have h_next := swapAt_transfer (List.getElem?_eq_getElem (Nat.lt_of_succ_lt h)) h
  rwa [transfer_self] at h_next

/-- … and the second one to the place before. -/
theorem swapAt_eq_transfer_succ {i : Nat} (h : i + 1 < xs.length) :
    swapAt xs i = transfer xs (i + 1) i := by
  have h_next := swapAt_transfer (List.getElem?_eq_getElem h) h
  rw [transfer_self] at h_next
  rw [← swapAt_swapAt (transfer xs (i + 1) i) i, h_next]

/-- So a member goes to the place in front of it. -/
theorem swapAt_pred_eq_transfer {i : Int} {x : α} (h0 : 0 < i) (hx : at? xs i = some x) :
    swapAt xs (i - 1).toNat = transfer xs i.toNat (i - 1).toNat := by
  obtain ⟨-, hlt⟩ := toNat_lt_of_at? hx
  have h_place : (i - 1).toNat + 1 = i.toNat := by omega
  rw [swapAt_eq_transfer_succ (by omega), h_place]

/-! ## The order of the members -/

/-- When a member is replaced, all others stay in their order. -/
theorem eraseIdx_sublist_set (xs : List α) (i : Nat) (x : α) :
    (xs.eraseIdx i).Sublist (xs.set i x) := by
  have h := List.eraseIdx_sublist (xs.set i x) i
  rwa [List.eraseIdx_set_eq] at h

/-- When a member is taken to another place, all others stay in their order. -/
theorem eraseIdx_sublist_transfer (xs : List α) (source target : Nat) :
    (xs.eraseIdx source).Sublist (transfer xs source target) := by
  unfold transfer
  split
  · exact List.sublist_insertIdx _ _ _
  · exact List.eraseIdx_sublist _ _

/-- Whether one member of a list stands in front of another one. -/
def InFront (xs : List α) (x y : α) : Prop :=
  [x, y].Sublist xs

/-- In a list without repetition some of the members are found again by leaving out the others. -/
theorem filter_mem_of_sublist [DecidableEq α] {zs : List α} (h : zs.Sublist xs) (hx : xs.Nodup) :
    (xs.filter fun x => decide (x ∈ zs)) = zs := by
  induction h with
  | slnil => rfl
  | @cons zs xs x h ih =>
    obtain ⟨h_new, hx⟩ := List.nodup_cons.1 hx
    have h_out : x ∉ zs := fun h_mem => h_new (h.subset h_mem)
    rw [List.filter_cons_of_neg (by simpa using h_out), ih hx]
  | @cons_cons zs xs x h ih =>
    obtain ⟨h_new, hx⟩ := List.nodup_cons.1 hx
    have h_rest : (xs.filter fun y => decide (y ∈ x :: zs)) = xs.filter fun y => decide (y ∈ zs) := by
      refine List.filter_congr fun y hy => ?_
      have h_ne : y ≠ x := fun h_same => h_new (h_same ▸ hy)
      rw [decide_eq_decide, List.mem_cons, or_iff_right h_ne]
    rw [List.filter_cons_of_pos (by simp), h_rest, ih hx]

/-- Which of two members stands in front does not depend on the others. -/
theorem inFront_iff_of_sublist [DecidableEq α] {zs : List α} {x y : α} (h : zs.Sublist xs)
    (h_nodup : xs.Nodup) (hx : x ∈ zs) (hy : y ∈ zs) : InFront xs x y ↔ InFront zs x y := by
  constructor
  · intro h_front
    have h_both : ([x, y].filter fun z => decide (z ∈ zs)) = [x, y] := by
      simp [hx, hy]
    have h_kept := h_front.filter fun z => decide (z ∈ zs)
    rwa [h_both, filter_mem_of_sublist h h_nodup] at h_kept
  · intro h_front
    exact h_front.trans h

/-! ## Where a dropped member lands -/

/-- A member that lands is not fixed, it lands in the list, and it lands in front of a last member
that is fixed. -/
theorem landing?_eq_some {source target : Int} {after : Bool} {k : Nat}
    (h : landing? fixed xs source target after = some k) :
    (∃ x, at? xs source = some x ∧ fixed x = false) ∧ k < xs.length ∧
      (endsFixed fixed xs = true → k + 1 < xs.length) := by
  unfold landing? at h
  split at h
  · exact nomatch h
  split at h
  · exact nomatch h
  rename_i hrange
  split at h
  · exact nomatch h
  rename_i hfixed
  simp only [Bool.or_eq_true, not_or, Bool.not_eq_true, Bool.not_eq_false'] at hrange hfixed
  obtain ⟨x, hx, hx_fixed⟩ := isFixedAt_eq_false_iff.1 ⟨hrange.1, hfixed.1⟩
  obtain ⟨h0, hlt⟩ := toNat_lt_of_at? hx
  simp only [Option.some.injEq, List.length_eraseIdx_of_lt hlt] at h
  refine ⟨⟨x, hx, hx_fixed⟩, ?_, fun h_ends => ?_⟩
  · split at h <;> omega
  · -- The last member is fixed and is not the one that was taken, so the rest has a fixed one.
    have hsucc := succ_lt_of_endsFixed h_ends (at?_eq_some_iff.1 hx).2 hx_fixed
    obtain ⟨last, hlast, hlast_fixed⟩ := endsFixed_iff.1 h_ends
    rw [← getLast?_eraseIdx hsucc] at hlast
    have hany : (xs.eraseIdx source.toNat).any fixed = true :=
      List.any_eq_true.2 ⟨last, List.mem_of_getLast? hlast, hlast_fixed⟩
    rw [if_pos hany] at h
    omega

/-! ## What the members are

The primitives ask of a member only whether it is fixed.  So they do the same to a list of anything
that has members of the list in it. -/

section map

variable {β : Type _} (f : β → α) (ys : List β) (i : Int)

theorem inRange_map : inRange (ys.map f) i = inRange ys i := by
  rw [inRange, inRange, List.length_map]

theorem at?_map : at? (ys.map f) i = (at? ys i).map f := by
  unfold at?
  split
  · exact List.getElem?_map
  · rfl

theorem isFixedAt_map : isFixedAt fixed (ys.map f) i = isFixedAt (fixed ∘ f) ys i := by
  rw [isFixedAt, isFixedAt, at?_map, Option.any_map]
  rfl

theorem endsFixed_map : endsFixed fixed (ys.map f) = endsFixed (fixed ∘ f) ys := by
  rw [endsFixed, endsFixed, List.getLast?_map, Option.any_map]
  rfl

theorem map_moveUp : (moveUp (fixed ∘ f) ys i).map f = moveUp fixed (ys.map f) i := by
  unfold moveUp canMoveUp
  rw [inRange_map, isFixedAt_map, apply_ite (List.map f), map_swapAt]

theorem map_moveDown : (moveDown (fixed ∘ f) ys i).map f = moveDown fixed (ys.map f) i := by
  unfold moveDown canMoveDown
  rw [inRange_map, isFixedAt_map, endsFixed_map, List.length_map, apply_ite (List.map f),
    map_swapAt]

end map

end Rulebook.Arrangement
