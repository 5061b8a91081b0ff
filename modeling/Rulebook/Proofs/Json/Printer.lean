/-
  Rulebook.Proofs.Json.Printer

  What can be written as JSON.

  A writer stops at the first obstacle.  What it says is then true of the value: the obstacle is
  there (`Json.Obstacle.IsOf`).  If there is none the value is written.  Both are one statement about
  the outcome (`Json.Accounts`), which is carried along by the steps of the writer; the induction is
  on the value.

  Main statements: `Json.isOf_of_print`, an obstacle that a writer meets is there, and
  `Json.exists_print_iff`, what can be written.
-/
import Rulebook.Json.Printer

namespace Rulebook

/-! ## Values that can be put down -/

/-- Whether it can be shown, if it is a whole number. -/
def Name.isShort : Name → Bool
  | .int n => !Text.isTooLong n
  | _ => true

/-- Whether it has bytes, if it is a text. -/
def Name.hasBytes : Name → Bool
  | .text s => Text.hasBytes s
  | _ => true

/-- Whether a value can be put down, if it is a document: all its texts have bytes, its whole
numbers can be shown, and its lists and mappings are not too deep inside each other. -/
structure Value.Tame (v : Value) : Prop where
  hasBytes : ∀ k ∈ v.scalars, k.hasBytes = true
  isShort : ∀ k ∈ v.scalars, k.isShort = true
  depth_le : v.depth ≤ maxDepth

instance (v : Value) : Decidable v.Tame :=
  decidable_of_iff ((∀ k ∈ v.scalars, k.hasBytes = true) ∧ (∀ k ∈ v.scalars, k.isShort = true) ∧
      v.depth ≤ Value.maxDepth)
    ⟨fun ⟨hasBytes, isShort, depth_le⟩ => ⟨hasBytes, isShort, depth_le⟩,
      fun h => ⟨h.hasBytes, h.isShort, h.depth_le⟩⟩

namespace Json

theorem isDocument_iff {v : Value} : isDocument v = true ↔ Name.foreign ∉ v.scalars := by
  rw [isDocument, List.all_eq_true]
  constructor
  · intro h h_foreign
    exact absurd rfl (of_decide_eq_true (h _ h_foreign))
  · intro h k hk
    exact decide_eq_true fun h_foreign => h (h_foreign ▸ hk)

variable {w : Writer}

/-- Whether an obstacle is one for a writer, among some scalars that are inside lists and mappings
to some depth. -/
def Obstacle.IsOf (w : Writer) (scalars : List Name) (depth : Nat) : Obstacle → Prop
  | .foreign => .foreign ∈ scalars
  | .notFinite => w.special = false ∧ ∃ x, .float x ∈ scalars ∧ x.isFinite = false
  | .tooLong => ∃ k ∈ scalars, k.isShort = false
  | .noBytes => w.encodes = true ∧ ∃ k ∈ scalars, k.hasBytes = false
  | .tooDeep => Value.maxDepth < depth

/-- Whether a writer writes a scalar. -/
def Writer.Accepts (w : Writer) (k : Name) : Prop :=
  ∃ text, w.nameText k = .ok text

/-- Whether an outcome is right for some scalars and their depth: all could be written, or the
obstacle is there. -/
def Accounts {α : Type} (w : Writer) (scalars : List Name) (depth : Nat) :
    Except Obstacle α → Prop
  | .ok _ => (∀ k ∈ scalars, w.Accepts k) ∧ depth ≤ Value.maxDepth
  | .error o => o.IsOf w scalars depth

/-! ## The steps of the writer -/

section Steps

variable {α β : Type} {scalars scalars' : List Name} {depth depth' : Nat} {r : Except Obstacle α}

/-- An obstacle in a part is one in the whole. -/
theorem Obstacle.IsOf.mono {o : Obstacle} (h : o.IsOf w scalars depth)
    (h_scalars : scalars ⊆ scalars') (h_depth : depth ≤ depth') : o.IsOf w scalars' depth' := by
  cases o with
  | foreign => exact h_scalars h
  | notFinite =>
    obtain ⟨h_special, x, hx, h_finite⟩ := h
    exact ⟨h_special, x, h_scalars hx, h_finite⟩
  | tooLong =>
    obtain ⟨k, hk, h_short⟩ := h
    exact ⟨k, h_scalars hk, h_short⟩
  | noBytes =>
    obtain ⟨h_encodes, k, hk, h_bytes⟩ := h
    exact ⟨h_encodes, k, h_scalars hk, h_bytes⟩
  | tooDeep => exact Nat.lt_of_lt_of_le h h_depth

theorem Accounts.map (h : Accounts w scalars depth r) (f : α → β) :
    Accounts w scalars depth (r.map f) := by
  cases r <;> exact h

/-- Two parts are written one after the other. -/
theorem Accounts.bind {next : α → Except Obstacle β} (h : Accounts w scalars depth r)
    (h_next : ∀ a, Accounts w scalars' depth' (next a)) :
    Accounts w (scalars ++ scalars') (max depth depth') (r >>= next) := by
  cases r with
  | error o => exact h.mono (List.subset_append_left _ _) (Nat.le_max_left _ _)
  | ok a =>
    have h_rest : Accounts w scalars' depth' (next a) := h_next a
    change Accounts w _ _ (next a)
    cases h_outcome : next a with
    | error o =>
      rw [h_outcome] at h_rest
      exact h_rest.mono (List.subset_append_right _ _) (Nat.le_max_right _ _)
    | ok b =>
      rw [h_outcome] at h_rest
      exact ⟨List.forall_mem_append.2 ⟨h.1, h_rest.1⟩, Nat.max_le.2 ⟨h.2, h_rest.2⟩⟩

/-- A scalar that is not written is an obstacle. -/
theorem accounts_nameText (w : Writer) (k : Name) (h : depth ≤ Value.maxDepth) :
    Accounts w [k] depth (w.nameText k) := by
  cases h_text : w.nameText k with
  | ok text => exact ⟨List.forall_mem_singleton.2 ⟨text, h_text⟩, h⟩
  | error o =>
    -- Each kind of scalar has one obstacle of its own, or none.
    unfold Writer.nameText at h_text
    split at h_text
    · cases h_text
    · cases h_text
    · split at h_text
      · rename_i n h_long
        cases h_text
        exact ⟨_, List.mem_singleton_self _, by rw [Name.isShort, h_long, Bool.not_true]⟩
      · cases h_text
    · split at h_text
      · cases h_text
      · rename_i x h_refused
        cases h_text
        rw [Bool.not_eq_true, Bool.or_eq_false_iff] at h_refused
        exact ⟨h_refused.1, x, List.mem_singleton_self _, h_refused.2⟩
    · split at h_text
      · cases h_text
      · rename_i s h_refused
        cases h_text
        rw [Bool.not_eq_true, Bool.or_eq_false_iff, Bool.not_eq_false'] at h_refused
        exact ⟨h_refused.1, _, List.mem_singleton_self _, h_refused.2⟩
    · cases h_text
      exact List.mem_singleton_self _

end Steps

/-! ## Values -/

mutual

/-- What is written of a value, or what keeps it from being written. -/
theorem accounts_write (w : Writer) :
    ∀ (depth : Nat) (v : Value), depth ≤ Value.maxDepth →
      Accounts w v.scalars (depth + v.depth) (write w depth v)
  | _, .null, h | _, .bool _, h | _, .int _, h | _, .float _, h | _, .foreign, h => by
    simp only [Value.scalars, Value.depth, write]
    exact accounts_nameText w _ h
  | _, .text _, h => by
    simp only [Value.scalars, Value.depth, write]
    exact (accounts_nameText w _ h).map _
  | depth, .list items, _ => by
    simp only [Value.scalars, Value.depth, write]
    -- There is room for one more level, or the brackets are the obstacle themselves.
    split
    · rename_i h_room
      rw [← Nat.add_assoc, Nat.add_right_comm]
      exact (accounts_writeItems w (depth + 1) items h_room).map _
    · rename_i h_room
      change Value.maxDepth < depth + _
      omega
  | depth, .mapping entries, _ => by
    simp only [Value.scalars, Value.depth, write]
    split
    · rename_i h_room
      rw [← Nat.add_assoc, Nat.add_right_comm]
      exact (accounts_writeEntries w (depth + 1) entries h_room).map _
    · rename_i h_room
      change Value.maxDepth < depth + _
      omega

theorem accounts_writeItems (w : Writer) :
    ∀ (depth : Nat) (items : List Value), depth ≤ Value.maxDepth →
      Accounts w (Value.itemsScalars items) (depth + Value.itemsDepth items)
        (writeItems w depth items)
  | _, [], h => ⟨List.forall_mem_nil _, h⟩
  | depth, v :: rest, h => by
    simp only [Value.itemsScalars, Value.itemsDepth, writeItems, ← Nat.add_max_add_left]
    exact (accounts_write w depth v h).bind fun _ => (accounts_writeItems w depth rest h).map _

theorem accounts_writeEntries (w : Writer) :
    ∀ (depth : Nat) (entries : List (Name × Value)), depth ≤ Value.maxDepth →
      Accounts w (Value.entriesScalars entries) (depth + Value.entriesDepth entries)
        (writeEntries w depth entries)
  | _, [], h => ⟨List.forall_mem_nil _, h⟩
  | depth, (k, v) :: rest, h => by
    have h_depth : depth + max v.depth (Value.entriesDepth rest) =
        max depth (max (depth + v.depth) (depth + Value.entriesDepth rest)) := by omega
    simp only [Value.entriesScalars, Value.entriesDepth, writeEntries, h_depth]
    exact (accounts_nameText w k h).bind fun _ =>
      (accounts_write w depth v h).bind fun _ => (accounts_writeEntries w depth rest h).map _

end

/-! ## Documents -/

variable {v : Value}

theorem accounts_print (w : Writer) (v : Value) : Accounts w v.scalars v.depth (print w v) := by
  have h := accounts_write w 0 v (Nat.zero_le _)
  rwa [Nat.zero_add] at h

/-- **An obstacle that a writer meets is there.** -/
theorem isOf_of_print {o : Obstacle} (h : print w v = .error o) : o.IsOf w v.scalars v.depth := by
  have h_accounts := accounts_print w v
  rwa [h] at h_accounts

/-- **What can be written**: a value in which there is no obstacle. -/
theorem exists_print_iff :
    (∃ text, print w v = .ok text) ↔ ∀ o : Obstacle, ¬ o.IsOf w v.scalars v.depth := by
  constructor
  · rintro ⟨text, h_text⟩ o h
    have h_accounts := accounts_print w v
    rw [h_text] at h_accounts
    obtain ⟨h_scalars, h_depth⟩ := h_accounts
    -- A scalar that is an obstacle would not have been written.
    cases o with
    | foreign =>
      obtain ⟨text, h_name⟩ := h_scalars _ h
      cases h_name
    | notFinite =>
      obtain ⟨h_special, x, hx, h_finite⟩ := h
      obtain ⟨text, h_name⟩ := h_scalars _ hx
      rw [Writer.nameText, h_special, h_finite] at h_name
      cases h_name
    | tooLong =>
      obtain ⟨k, hk, h_short⟩ := h
      obtain ⟨text, h_name⟩ := h_scalars k hk
      cases k with
      | int n =>
        rw [Name.isShort, Bool.not_eq_false'] at h_short
        rw [Writer.nameText, if_pos h_short] at h_name
        cases h_name
      | _ => cases h_short
    | noBytes =>
      obtain ⟨h_encodes, k, hk, h_bytes⟩ := h
      obtain ⟨text, h_name⟩ := h_scalars k hk
      cases k with
      | text s =>
        rw [Name.hasBytes] at h_bytes
        rw [Writer.nameText, h_encodes, h_bytes] at h_name
        cases h_name
      | _ => cases h_bytes
    | tooDeep => exact absurd h_depth (Nat.not_le_of_lt h)
  · intro h
    cases h_text : print w v with
    | ok text => exact ⟨text, rfl⟩
    | error o => exact absurd (isOf_of_print h_text) (h o)

/-- **A tame value is written exactly if it is a document**, by a writer that also writes the
numbers that are not finite.  What keeps it from being written is then an object that no document
can hold. -/
theorem print_of_tame (h : v.Tame) (h_special : w.special = true) :
    (isDocument v = true ∧ ∃ text, print w v = .ok text) ∨
      isDocument v = false ∧ print w v = .error .foreign := by
  have h_only (o : Obstacle) (h_obstacle : o.IsOf w v.scalars v.depth) :
      o = .foreign ∧ isDocument v = false := by
    cases o with
    | foreign => exact ⟨rfl, Bool.eq_false_iff.2 fun h => isDocument_iff.1 h h_obstacle⟩
    | notFinite => exact absurd (h_special.symm.trans h_obstacle.1) (by decide)
    | tooLong =>
      obtain ⟨k, hk, h_short⟩ := h_obstacle
      exact absurd ((h.isShort k hk).symm.trans h_short) (by decide)
    | noBytes =>
      obtain ⟨-, k, hk, h_bytes⟩ := h_obstacle
      exact absurd ((h.hasBytes k hk).symm.trans h_bytes) (by decide)
    | tooDeep => exact absurd h.depth_le (Nat.not_le_of_lt h_obstacle)
  cases h_print : print w v with
  | ok text =>
    refine .inl ⟨isDocument_iff.2 fun h_foreign => ?_, text, rfl⟩
    exact exists_print_iff.1 ⟨text, h_print⟩ .foreign h_foreign
  | error o =>
    obtain ⟨rfl, h_foreign⟩ := h_only o (isOf_of_print h_print)
    exact .inr ⟨h_foreign, rfl⟩

end Json

end Rulebook
