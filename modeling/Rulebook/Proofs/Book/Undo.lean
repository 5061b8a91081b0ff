/-
  Rulebook.Proofs.Book.Undo

  Every operation on a book is taken back exactly by the one that undoes it, if nothing has
  happened in between: the list is the same afterwards, rule by rule.

  The opposite move needs a word.  A rule that has gone up is taken back by going down, and a rule
  may not go down into a last place that is kept for the sentinel.  A rule that was moved up over
  a sentinel can therefore not come back (`Undo.Blocked`); one that stood in front of a sentinel in
  the last place can.
-/
import Rulebook.Proofs.Book.Edit

namespace Rulebook

/-! ## The flag of a rule -/

namespace Rule

@[simp] theorem withFlag_withFlag (r : Rule) (v w : Value) :
    (r.withFlag v).withFlag w = r.withFlag w := by
  by_cases h : r.kind = .normal
  · simp [withFlag, h]
  · simp [withFlag, h]

@[simp] theorem withFlag_enabled (r : Rule) : r.withFlag r.enabled = r := by
  unfold withFlag
  split <;> rfl

end Rule

namespace Book

open Arrangement (at? at?_eq_some_iff at?_natCast endsFixed transfer swapAt)

variable {b b' : Book} {i : Int} {r previous : Rule}

/-! ## One operation and its opposite -/

theorem delete_of_insertAt (h : b.insertAt i r = .ok b') : b'.delete i = .ok (b, r) := by
  obtain ⟨hr, hi, rfl⟩ := insertAt_eq_ok_iff.1 h
  refine delete_eq_ok_iff.2 ⟨at?_eq_some_iff.2 ⟨hi.1, ?_⟩, hr, ?_⟩
  · rw [rules_withRules, List.getElem?_insertIdx_self, if_pos (by omega)]
  · rw [rules_withRules, List.eraseIdx_insertIdx_self, withRules_withRules, withRules_rules]

theorem delete_of_insert {placement : Option Placement} {k : Nat}
    (h : b.insert r placement = .ok (b', k)) : b'.delete k = .ok (b, r) := by
  obtain ⟨hr, hk, rfl⟩ := insert_eq_ok_iff.1 h
  have hle : k ≤ b.rules.length := hk ▸ b.insertionIndex_le _
  exact delete_of_insertAt (insertAt_eq_ok_iff.2 ⟨hr, by omega, rfl⟩)

theorem insertAt_of_delete (h : b.delete i = .ok (b', r)) : b'.insertAt i r = .ok b := by
  obtain ⟨hr, hf, rfl⟩ := delete_eq_ok_iff.1 h
  obtain ⟨h0, hlt⟩ := Arrangement.toNat_lt_of_at? hr
  refine insertAt_eq_ok_iff.2 ⟨hf, ⟨h0, ?_⟩, ?_⟩
  · rw [rules_withRules, List.length_eraseIdx_of_lt hlt]
    omega
  · rw [rules_withRules, Arrangement.insertIdx_eraseIdx_of_getElem? (at?_eq_some_iff.1 hr).2,
      withRules_withRules, withRules_rules]

theorem replace_of_replace (h : b.replace i r = .ok (b', previous)) :
    b'.replace i previous = .ok (b, r) := by
  obtain ⟨hr, hk, rfl⟩ := replace_eq_ok_iff.1 h
  obtain ⟨h0, hlt⟩ := Arrangement.toNat_lt_of_at? hr
  have hp := (at?_eq_some_iff.1 hr).2
  refine replace_eq_ok_iff.2 ⟨at?_eq_some_iff.2 ⟨h0, List.getElem?_set_self hlt⟩, hk.symm, ?_⟩
  rw [rules_withRules, List.set_set, withRules_withRules, Arrangement.set_of_getElem? hp,
    withRules_rules]

theorem toggle_of_toggle {value flag : Value} (h : b.toggle i value = .ok (b', flag)) :
    ∃ flag', b'.toggle i flag = .ok (b, flag') := by
  obtain ⟨r, hr, hf, rfl, rfl⟩ := toggle_eq_ok_iff.1 h
  obtain ⟨h0, hlt⟩ := Arrangement.toNat_lt_of_at? hr
  have hp := (at?_eq_some_iff.1 hr).2
  refine ⟨_, toggle_eq_ok_iff.2 ⟨r.withFlag value, at?_eq_some_iff.2
    ⟨h0, List.getElem?_set_self hlt⟩, by rw [Rule.isFinal_withFlag, hf], rfl, ?_⟩⟩
  rw [rules_withRules, List.set_set, withRules_withRules, Rule.withFlag_withFlag,
    Rule.withFlag_enabled, Arrangement.set_of_getElem? hp, withRules_rules]

/-- A rule that went down comes back up. -/
theorem moveUp?_of_moveDown? (h : b.moveDown? i = some b') : b'.moveUp? (i + 1) = some b := by
  obtain ⟨⟨r, hr, hf⟩, hlt, rfl⟩ := moveDown?_eq_some_iff.1 h
  obtain ⟨h0, hi⟩ := at?_eq_some_iff.1 hr
  have hsucc : i.toNat + 1 < b.rules.length := by split at hlt <;> omega
  have hnat : (i + 1).toNat = i.toNat + 1 := by omega
  refine moveUp?_eq_some_iff.2 ⟨by omega, ⟨r, at?_eq_some_iff.2 ⟨by omega, ?_⟩, hf⟩, ?_⟩
  · rw [rules_withRules, hnat, Arrangement.getElem?_swapAt _ hsucc, if_neg (by omega),
      if_pos rfl, hi]
  · rw [rules_withRules, Int.add_sub_cancel, Arrangement.swapAt_swapAt, withRules_withRules,
      withRules_rules]

/-- A rule that went up comes back down, unless it was moved over a sentinel that is now the last
rule. -/
theorem moveDown?_of_moveUp? (h : b.moveUp? i = some b')
    (h_last : endsFixed Rule.isFinal b'.rules = true → i + 1 < b.rules.length) :
    b'.moveDown? (i - 1) = some b := by
  obtain ⟨h0, ⟨r, hr, hf⟩, rfl⟩ := moveUp?_eq_some_iff.1 h
  obtain ⟨-, hlt⟩ := Arrangement.toNat_lt_of_at? hr
  obtain ⟨-, hi⟩ := at?_eq_some_iff.1 hr
  have hnat : (i - 1).toNat + 1 = i.toNat := by omega
  refine moveDown?_eq_some_iff.2 ⟨⟨r, at?_eq_some_iff.2 ⟨by omega, ?_⟩, hf⟩, ?_, ?_⟩
  · rw [rules_withRules, Arrangement.getElem?_swapAt _ (by omega), if_pos rfl, hnat, hi]
  · rw [rules_withRules] at h_last ⊢
    rw [Arrangement.length_swapAt]
    split
    · rename_i h_ends
      have := h_last h_ends
      omega
    · omega
  · rw [rules_withRules, Arrangement.swapAt_swapAt, withRules_withRules, withRules_rules]

/-- A rule that was dropped somewhere is carried back to where it was. -/
theorem delete_insertAt_of_relocate? {source target : Int} {after : Bool} {k : Nat}
    (h : b.relocate? source target after = some (b', k)) :
    ∃ b'' r, b'.delete k = .ok (b'', r) ∧ b''.insertAt source r = .ok b := by
  obtain ⟨hl, -, rfl⟩ := relocate?_eq_some_iff.1 h
  obtain ⟨⟨r, hr, hf⟩, hk, -⟩ := Arrangement.landing?_eq_some hl
  have hx := (at?_eq_some_iff.1 hr).2
  refine ⟨b.withRules (b.rules.eraseIdx source.toNat), r, delete_eq_ok_iff.2 ⟨?_, hf, ?_⟩, ?_⟩
  · rw [rules_withRules, at?_natCast, Arrangement.getElem?_transfer_self hx hk]
  · rw [rules_withRules, Int.toNat_natCast, Arrangement.eraseIdx_transfer hx, withRules_withRules]
  · exact insertAt_of_delete (delete_eq_ok_iff.2 ⟨hr, hf, rfl⟩)

end Book

/-! ## Undoing an edit -/

namespace Undo

open Arrangement (endsFixed)

/-- Whether the last place does not let an undo through: a rule would have to go down into it, and
a sentinel is there. -/
def Blocked (u : Undo) (b : Book) : Prop :=
  match u with
  | .moveDown i => endsFixed Rule.isFinal b.rules = true ∧ i + 2 = b.rules.length
  | _ => False

/-- An undo that is not let through changes nothing, and is not refused either. -/
theorem Blocked.run_eq {u : Undo} {b : Book} (h : u.Blocked b) : u.run b = (b, .ok ()) := by
  cases u with
  | moveDown i =>
    obtain ⟨h_ends, h_last⟩ := h
    have h_none : b.moveDown? i = none := by
      rw [Option.eq_none_iff_forall_ne_some]
      intro b' h_move
      obtain ⟨-, h_lt, -⟩ := Book.moveDown?_eq_some_iff.1 h_move
      rw [if_pos h_ends] at h_lt
      omega
    rw [run, h_none, Option.getD_none]
  | delete | replace | insertAt | moveUp | carry | toggle => exact h.elim

end Undo

/-- An edit is undone exactly, if the undo is let through. -/
theorem Edit.run_undo_of_not_blocked {b b' : Book} {u : Undo} (h : Edit b b' u)
    (h_free : ¬ u.Blocked b') : u.run b' = (b, .ok ()) := by
  cases h with
  | insert h => simp only [Undo.run, Undo.step, Book.delete_of_insert h]
  | insertAt h => simp only [Undo.run, Undo.step, Book.delete_of_insertAt h]
  | replace h => simp only [Undo.run, Undo.step, Book.replace_of_replace h]
  | delete h => simp only [Undo.run, Undo.step, Book.insertAt_of_delete h, id]
  | @moveUp i h =>
    have h_last : Arrangement.endsFixed Rule.isFinal b'.rules = true → i + 1 < b.rules.length := by
      intro h_ends
      obtain ⟨h0, ⟨r, hr, -⟩, rfl⟩ := Book.moveUp?_eq_some_iff.1 h
      obtain ⟨-, hlt⟩ := Arrangement.toNat_lt_of_at? hr
      by_contra h_ge
      refine h_free ⟨h_ends, ?_⟩
      rw [Book.rules_withRules, Arrangement.length_swapAt]
      omega
    simp only [Undo.run, Book.moveDown?_of_moveUp? h h_last, Option.getD_some]
  | moveDown h => simp only [Undo.run, Book.moveUp?_of_moveDown? h, Option.getD_some]
  | relocate h =>
    obtain ⟨b'', r, hdelete, hinsert⟩ := Book.delete_insertAt_of_relocate? h
    simp only [Undo.run, Undo.step, hdelete, hinsert, id]
  | toggle h =>
    obtain ⟨flag', hback⟩ := Book.toggle_of_toggle h
    simp only [Undo.run, Undo.step, hback]

/-- In a list with a sentinel in the last place, an edit is undone exactly. -/
theorem Edit.run_undo {b b' : Book} {u : Undo} (h : Edit b b' u)
    (h_ends : Arrangement.endsFixed Rule.isFinal b.rules = true) : u.run b' = (b, .ok ()) := by
  apply h.run_undo_of_not_blocked
  cases h with
  | @moveUp i h =>
    -- The rule that went up was not the last one, so it may come back down.
    rintro ⟨-, h_last⟩
    obtain ⟨h0, ⟨r, hr, hf⟩, rfl⟩ := Book.moveUp?_eq_some_iff.1 h
    have hlt := Arrangement.succ_lt_of_endsFixed h_ends (Arrangement.at?_eq_some_iff.1 hr).2 hf
    rw [Book.rules_withRules, Arrangement.length_swapAt] at h_last
    omega
  | insert | insertAt | replace | delete | moveDown | relocate | toggle => exact id

end Rulebook
