/-
  Rulebook.Proofs.Drag

  A drag gesture keeps a position, not a member, and the list may become any other one while it
  lasts.  Whatever happens to the list, a gesture is active exactly if it has a position, and that
  is the one that was picked up last (`Drag.Sound`, `Drag.last_start`).

  Whether a member can be dropped somewhere and what a drop does are decided by different functions.
  They agree in every list: what cannot be dropped is rejected, and changes nothing
  (`Drag.rejects_of_not_canDrop`).  No drop looks for a member at a position that has none
  (`Arrangement.tryRelocate_eq`).

  Main statement: `Drag.gestures_consistent`.
-/
import Rulebook.Drag
import Rulebook.Proofs.Arrangement.Drop
import Rulebook.Proofs.Run

namespace Rulebook

namespace Arrangement

variable {α : Type _} {fixed : α → Bool} {xs : List α} {source target : Int} {after : Bool}

/-! ## What a drop does to a list -/

/-- A drop keeps all members. -/
theorem relocate_perm (fixed : α → Bool) (xs : List α) (source target : Int) (after : Bool) :
    (relocate fixed xs source target after).Perm xs := by
  unfold relocate
  cases h_landing : landing? fixed xs source target after with
  | none => exact List.Perm.refl xs
  | some k =>
    obtain ⟨⟨x, hx, -⟩, hk, -⟩ := landing?_eq_some h_landing
    exact transfer_perm (at?_eq_some_iff.1 hx).2 hk

/-- Where nothing but the last member may be fixed, a member that is dropped on another one goes
right behind it, or right in front of it. -/
theorem exists_relocate_eq (h_last : FixedLast fixed xs) (h : ¬ Rejects fixed xs source target)
    {x : α} (hx : at? xs source = some x) (after : Bool) :
    ∃ y front back, at? xs target = some y ∧ xs.eraseIdx source.toNat = front ++ y :: back ∧
      (front.length : Int) = without source target ∧
      relocate fixed xs source target after =
        if after then front ++ y :: x :: back else front ++ x :: y :: back := by
  obtain ⟨h_ne, -, y, hy, -⟩ := not_rejects_iff.1 h
  obtain ⟨h_source, hx⟩ := at?_eq_some_iff.1 hx
  obtain ⟨-, h_landing⟩ := landing?_eq_beside h_last h after
  obtain ⟨front, back, h_rest, h_front⟩ := exists_without h_ne h_source hy
  have h_place : (beside source target after).toNat = front.length + if after then 1 else 0 := by
    rw [beside, ← h_front]
    cases after <;> rfl
  refine ⟨y, front, back, hy, h_rest, h_front, ?_⟩
  simp only [relocate, h_landing]
  rw [transfer_of_getElem? hx, h_rest, h_place, insertIdx_beside]

/-! ## Looking members up -/

/-- The list after a drop, unless a member is looked for at a position that has none, or put in
behind the end. -/
def tryRelocate (fixed : α → Bool) (xs : List α) (source target : Int) (after : Bool) :
    Option (List α) :=
  if source = target then some xs
  else if !inRange xs source || !inRange xs target then some xs
  else do
    let x ← at? xs source
    let y ← at? xs target
    if fixed x || fixed y then some xs
    else
      let rest := xs.eraseIdx source.toNat
      let wanted :=
        if source < target then (if after then target else target - 1)
        else (if after then target + 1 else target)
      let most : Int := if rest.any fixed then (rest.length : Int) - 1 else rest.length
      let k := (max 0 (min wanted most)).toNat
      if k ≤ rest.length then some (rest.insertIdx k x) else none

/-- **Every member that a drop looks for is there.** -/
theorem tryRelocate_eq (fixed : α → Bool) (xs : List α) (source target : Int) (after : Bool) :
    tryRelocate fixed xs source target after = some (relocate fixed xs source target after) := by
  unfold tryRelocate relocate landing?
  by_cases h_same : source = target
  · rw [if_pos h_same, if_pos h_same]
  rw [if_neg h_same, if_neg h_same]
  cases h_source : inRange xs source with
  | false => rfl
  | true =>
    cases h_target : inRange xs target with
    | false => rfl
    | true =>
      -- Both members are there, so what they are is known from looking them up.
      obtain ⟨x, hx⟩ := at?_eq_some_of_inRange h_source
      obtain ⟨y, hy⟩ := at?_eq_some_of_inRange h_target
      obtain ⟨h0, h_lt⟩ := toNat_lt_of_at? hx
      have h_rest := List.length_eraseIdx_of_lt h_lt
      simp only [isFixedAt, hx, hy, Option.any_some, Option.bind_eq_bind, Option.bind_some,
        Bool.not_true, Bool.or_false, Bool.false_eq_true, if_false]
      cases h_fixed : fixed x || fixed y with
      | true => rfl
      | false =>
        simp only [Bool.false_eq_true, if_false, transfer_of_getElem? (at?_eq_some_iff.1 hx).2]
        refine if_pos ?_
        split <;> omega

end Arrangement

namespace Drag

variable {α : Type _} {fixed : α → Bool} {xs : List α} {d : Drag}

/-! ## Gestures as they come about -/

/-- A gesture holds a position that a list may have, or nothing at all. -/
def Sound (d : Drag) : Prop :=
  d = idle ∨ d.isActive = true ∧ 0 ≤ d.index

theorem Sound.isActive_iff (h : d.Sound) : d.isActive = true ↔ d.index ≠ -1 := by
  rcases h with rfl | ⟨h_active, h_index⟩
  · decide
  · exact iff_of_true h_active (by omega)

theorem Sound.index_nonneg (h : d.Sound) (h_active : d.isActive = true) : 0 ≤ d.index := by
  rcases h with rfl | ⟨-, h_index⟩
  · exact absurd h_active (by decide)
  · exact h_index

/-- A member is picked up if there is one that can be moved; otherwise nothing is held. -/
theorem start_cases (fixed : α → Bool) (d : Drag) (xs : List α) (i : Int) :
    (d.start fixed xs i = (⟨true, i⟩, true) ∧
        ∃ x, Arrangement.at? xs i = some x ∧ fixed x = false) ∨
      d.start fixed xs i = (idle, false) := by
  unfold start
  split
  · rename_i h
    rw [Bool.and_eq_true, Bool.not_eq_true'] at h
    exact .inl ⟨rfl, Arrangement.isFixedAt_eq_false_iff.1 h⟩
  · exact .inr rfl

theorem sound_start (d : Drag) (xs : List α) (i : Int) : (d.start fixed xs i).1.Sound := by
  rcases start_cases fixed d xs i with ⟨h, x, hx, -⟩ | h
  · rw [h]
    exact .inr ⟨rfl, (Arrangement.at?_eq_some_iff.1 hx).1⟩
  · rw [h]
    exact .inl rfl

/-! ## Drops -/

/-- A drop ends the gesture. -/
theorem fst_drop (d : Drag) (xs : List α) (target : Int) (after : Bool) :
    (d.drop fixed xs target after).1 = idle := by
  unfold drop
  split <;> rfl

/-- A drop moves the member that is held, if there is one. -/
theorem Sound.drop_cases (h : d.Sound) (fixed : α → Bool) (xs : List α) (target : Int)
    (after : Bool) :
    d.isActive = false ∧ d.drop fixed xs target after = (idle, xs) ∨
      d.isActive = true ∧ d.drop fixed xs target after =
        (idle, Arrangement.relocate fixed xs d.index target after) := by
  rcases h with rfl | ⟨h_active, h_index⟩
  · exact .inl ⟨rfl, rfl⟩
  · have h_held : d.held = some d.index := if_neg (by omega)
    exact .inr ⟨h_active, by rw [drop, h_held]⟩

theorem canDrop_iff {target : Int} :
    d.canDrop fixed xs target = true ↔ d.isActive = true ∧ d.index ≠ target ∧
      ∃ y, Arrangement.at? xs target = some y ∧ fixed y = false := by
  rw [← Arrangement.isFixedAt_eq_false_iff]
  simp only [canDrop, Bool.and_eq_true, bne_iff_ne, Bool.not_eq_true', ne_comm (a := target)]
  tauto

/-- What cannot be dropped is rejected. -/
theorem rejects_of_not_canDrop {target : Int} (h_active : d.isActive = true)
    (h : d.canDrop fixed xs target = false) : Arrangement.Rejects fixed xs d.index target := by
  by_contra h_taken
  obtain ⟨h_ne, -, h_target⟩ := Arrangement.not_rejects_iff.1 h_taken
  rw [canDrop_iff.2 ⟨h_active, h_ne, h_target⟩] at h
  exact nomatch h

/-- The gesture and the list after a drop, unless a member is looked for at a position that has
none. -/
def tryDrop (fixed : α → Bool) (d : Drag) (xs : List α) (target : Int) (after : Bool) :
    Option (Drag × List α) :=
  match d.held with
  | none => some (idle, xs)
  | some source => (Arrangement.tryRelocate fixed xs source target after).map fun ys => (idle, ys)

theorem tryDrop_eq (d : Drag) (xs : List α) (target : Int) (after : Bool) :
    tryDrop fixed d xs target after = some (d.drop fixed xs target after) := by
  unfold tryDrop drop
  cases d.held with
  | none => rfl
  | some source => simp only [Arrangement.tryRelocate_eq, Option.map_some]

/-- What a drop on a position does. -/
structure Drops (fixed : α → Bool) (d : Drag) (xs : List α) (target : Int) (after : Bool) :
    Prop where
  /-- all that it looks for is there -/
  succeeds : tryDrop fixed d xs target after = some (d.drop fixed xs target after)
  /-- nothing is held any more -/
  ends : (d.drop fixed xs target after).1.isActive = false ∧
    (d.drop fixed xs target after).1.index = -1
  perm : (d.drop fixed xs target after).2.Perm xs
  unchanged : d.canDrop fixed xs target = false → (d.drop fixed xs target after).2 = xs
  /-- the member that is held goes right behind the target, or right in front of it -/
  moved : d.canDrop fixed xs target = true → ∀ x, Arrangement.at? xs d.index = some x →
    fixed x = false → Arrangement.FixedLast fixed xs →
    ∃ y front back, Arrangement.at? xs target = some y ∧
      xs.eraseIdx d.index.toNat = front ++ y :: back ∧
      (front.length : Int) = Arrangement.without d.index target ∧
      (d.drop fixed xs target after).2 =
        if after then front ++ y :: x :: back else front ++ x :: y :: back

theorem Sound.drops (h : d.Sound) (xs : List α) (target : Int) (after : Bool) :
    Drops fixed d xs target after where
  succeeds := tryDrop_eq d xs target after
  ends := by
    rw [fst_drop]
    exact ⟨rfl, rfl⟩
  perm := by
    rcases h.drop_cases fixed xs target after with ⟨-, h_drop⟩ | ⟨-, h_drop⟩
    · rw [h_drop]
    · rw [h_drop]
      exact Arrangement.relocate_perm fixed xs d.index target after
  unchanged := by
    intro h_not
    rcases h.drop_cases fixed xs target after with ⟨-, h_drop⟩ | ⟨h_active, h_drop⟩
    · rw [h_drop]
    · rw [h_drop]
      exact Arrangement.relocate_of_rejects (rejects_of_not_canDrop h_active h_not)
  moved := by
    intro h_can x hx hx_fixed h_last
    obtain ⟨h_active, h_ne, h_target⟩ := canDrop_iff.1 h_can
    rcases h.drop_cases fixed xs target after with ⟨h_idle, -⟩ | ⟨-, h_drop⟩
    · rw [h_idle] at h_active
      exact nomatch h_active
    · rw [h_drop]
      exact Arrangement.exists_relocate_eq h_last
        (Arrangement.not_rejects_iff.2 ⟨h_ne, ⟨x, hx, hx_fixed⟩, h_target⟩) hx after

/-! ## Runs -/

/-- What can be done to a gesture, and to the list under it. -/
inductive Act (α : Type _) where
  | start (i : Int)
  /-- asks whether the member that is held can be dropped on the one at a position -/
  | hover (i : Int)
  | drop (target : Int) (after : Bool)
  | reset
  /-- the list becomes another one -/
  | replace (members : List α)

/-- What comes back. -/
inductive Answer (α : Type _) where
  | verdict (ok : Bool)
  | order (members : List α)
  | nothing

/-- A gesture, and the list under it. -/
structure Scene (α : Type _) where
  drag : Drag
  members : List α

/-- One act.  A drop only gives back the new order; that the list takes it over is a replacement. -/
def step (fixed : α → Bool) (s : Scene α) : Act α → Scene α × Answer α
  | .start i =>
    let (drag, ok) := s.drag.start fixed s.members i
    ({ s with drag }, .verdict ok)
  | .hover i => (s, .verdict (s.drag.canDrop fixed s.members i))
  | .drop target after =>
    let (drag, members) := s.drag.drop fixed s.members target after
    ({ s with drag }, .order members)
  | .reset => ({ s with drag := idle }, .nothing)
  | .replace members => ({ s with members }, .nothing)

/-- The position that an act picks up, if it succeeds in that. -/
def started? : Act α × Answer α → Option Int
  | (.start i, .verdict true) => some i
  | _ => none

/-- The positions that are picked up in a run, in order. -/
def starts (fixed : α → Bool) (s : Scene α) (acts : List (Act α)) : List Int :=
  (acts.zip (Run.shown (step fixed) s acts)).filterMap started?

theorem starts_cons (s : Scene α) (act : Act α) (rest : List (Act α)) :
    starts fixed s (act :: rest) =
      (started? (act, (step fixed s act).2)).toList ++ starts fixed (step fixed s act).1 rest := by
  rw [starts, Run.shown, List.zip_cons_cons, List.filterMap_cons]
  cases started? (act, (step fixed s act).2) with
  | none => rfl
  | some i => rfl

theorem sound_step (s : Scene α) (act : Act α) (h : s.drag.Sound) :
    (step fixed s act).1.drag.Sound := by
  cases act with
  | start i => exact sound_start s.drag s.members i
  | hover i => exact h
  | drop target after => exact .inl (fst_drop s.drag s.members target after)
  | reset => exact .inl rfl
  | replace members => exact h

/-- If `last` was picked up last before an act, then what the act picks up, or else `last`, is so
afterwards. -/
theorem last_start_step {s : Scene α} {last : Option Int}
    (h : s.drag.isActive = true → last = some s.drag.index) (act : Act α)
    (h_active : (step fixed s act).1.drag.isActive = true) :
    (started? (act, (step fixed s act).2)).or last = some (step fixed s act).1.drag.index := by
  cases act with
  | start i =>
    rcases start_cases fixed s.drag s.members i with ⟨h_start, -⟩ | h_start
    · simp only [step, h_start, started?, Option.some_or]
    · simp only [step, h_start] at h_active
      exact absurd h_active (by decide)
  | hover i => exact h h_active
  | drop target after =>
    simp only [step, fst_drop] at h_active
    exact absurd h_active (by decide)
  | reset => exact absurd h_active (by decide : ¬ idle.isActive = true)
  | replace members => exact h h_active

/-- **An active gesture has the position that was picked up last**, in the run or before it. -/
theorem last_start {s : Scene α} {last : Option Int}
    (h : s.drag.isActive = true → last = some s.drag.index) (acts : List (Act α))
    (h_active : (Run.after (step fixed) s acts).drag.isActive = true) :
    (starts fixed s acts).getLast?.or last =
      some (Run.after (step fixed) s acts).drag.index := by
  induction acts generalizing s last with
  | nil => exact h h_active
  | cons act rest ih =>
    have h_rest := ih (last_start_step h act) h_active
    rw [starts_cons, List.getLast?_append, Option.or_assoc]
    -- What the first act picks up takes the part of `last` in the rest of the run.
    have h_single : ∀ o : Option Int, o.toList.getLast? = o := fun o => by cases o <;> rfl
    rw [h_single]
    exact h_rest

/-- **Gestures are consistent**, whatever list is put under them.  A gesture is active exactly if it
has a position; that is no less than zero, and the last one that a start was given and picked up.
Where the member at that position can be dropped and where it goes are told by `Drops`. -/
theorem gestures_consistent (fixed : α → Bool) (xs : List α) (acts : List (Act α)) :
    let opening : Scene α := ⟨idle, xs⟩
    let now := Run.after (step fixed) opening acts
    (now.drag.isActive = true ↔ now.drag.index ≠ -1) ∧
      (now.drag.isActive = true → 0 ≤ now.drag.index ∧
        (starts fixed opening acts).getLast? = some now.drag.index) ∧
      ∀ target after, Drops fixed now.drag now.members target after := by
  intro opening now
  have h_sound : now.drag.Sound :=
    Run.inv_after (fun s act h (_ : True) => sound_step s act h) (.inl rfl)
      (Run.allowed_of_forall fun _ _ _ => trivial)
  refine ⟨h_sound.isActive_iff, fun h_active => ⟨h_sound.index_nonneg h_active, ?_⟩,
    fun target after => h_sound.drops now.members target after⟩
  have h_last : (starts fixed opening acts).getLast?.or none = some now.drag.index :=
    last_start (fun h => absurd h Bool.false_ne_true) acts h_active
  rwa [Option.or_none] at h_last

/-- The first of two rules is picked up, after the sentinel was not and the second one was let go.
Then another rule comes to stand at its position, and goes behind the one that it is dropped on. -/
theorem gestures_consistent_of_replaced :
    let a := Rule.ofAttributes { matchValue := .text "a" }
    let b := Rule.ofAttributes { matchValue := .text "b" }
    let c := Rule.ofAttributes { matchValue := .text "c" }
    let opening : Scene Rule := ⟨idle, [a, b, .fallback]⟩
    let acts : List (Act Rule) :=
      [.start 2, .start 1, .reset, .start 0, .replace [c, a, b, .fallback]]
    let now := Run.after (step Rule.isFinal) opening acts
    now.drag.isActive = true ∧ 0 ≤ now.drag.index ∧
      (starts Rule.isFinal opening acts).getLast? = some now.drag.index ∧
      now.drag.canDrop Rule.isFinal now.members 3 = false ∧
      (now.drag.drop Rule.isFinal now.members 3 true).2 = now.members ∧
      now.drag.canDrop Rule.isFinal now.members 2 = true ∧
      Arrangement.at? now.members now.drag.index = some c ∧ c.isFinal = false ∧
      Arrangement.FixedLast Rule.isFinal now.members ∧
      ∃ y front back, Arrangement.at? now.members 2 = some y ∧
        now.members.eraseIdx now.drag.index.toNat = front ++ y :: back ∧
        (front.length : Int) = Arrangement.without now.drag.index 2 ∧
        (now.drag.drop Rule.isFinal now.members 2 true).2 = front ++ y :: c :: back := by
  intro a b c opening acts now
  obtain ⟨-, h_active, h_drops⟩ := gestures_consistent Rule.isFinal [a, b, .fallback] acts
  obtain ⟨h_index, h_last⟩ := h_active (by decide)
  exact ⟨by decide, h_index, h_last, by decide, (h_drops 3 true).unchanged (by decide), by decide,
    rfl, by decide, by decide, (h_drops 2 true).moved (by decide) c rfl (by decide) (by decide)⟩

end Drag

end Rulebook
