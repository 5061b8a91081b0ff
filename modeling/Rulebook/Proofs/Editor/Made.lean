/-
  Rulebook.Proofs.Editor.Made

  Where the rules of a list come from (`made_begin`).  After a command of the list each rule was
  there before, or it is one that was there with another flag, or it was made of the draft of a
  dialog that was opened on a new rule or on one that was there, and filled with the values of the
  command.
-/
import Mathlib.Data.List.InsertIdx
import Rulebook.Proofs.Dialog.Draft
import Rulebook.Proofs.Editor.Agree

namespace Rulebook

/-! ## What an operation brings into the list -/

namespace Book

open Arrangement (at?_eq_some_iff)

variable {b b' : Book} {i : Int} {r x : Rule}

theorem mem_of_insert {placement : Option Placement} {k : Nat}
    (h : b.insert r placement = .ok (b', k)) (hx : x ∈ b'.rules) : x ∈ b.rules ∨ x = r := by
  obtain ⟨-, rfl, rfl⟩ := insert_eq_ok_iff.1 h
  exact (List.eq_or_mem_of_mem_insertIdx hx).symm

theorem mem_of_replace {previous : Rule} (h : b.replace i r = .ok (b', previous))
    (hx : x ∈ b'.rules) : x ∈ b.rules ∨ x = r := by
  obtain ⟨-, -, rfl⟩ := replace_eq_ok_iff.1 h
  exact List.mem_or_eq_of_mem_set hx

theorem mem_of_delete (h : b.delete i = .ok (b', r)) (hx : x ∈ b'.rules) : x ∈ b.rules := by
  obtain ⟨-, -, rfl⟩ := delete_eq_ok_iff.1 h
  exact List.mem_of_mem_eraseIdx hx

theorem mem_of_toggle {value flag : Value} (h : b.toggle i value = .ok (b', flag))
    (hx : x ∈ b'.rules) : x ∈ b.rules ∨ ∃ r ∈ b.rules, x = r.withFlag value := by
  obtain ⟨r, hr, -, -, rfl⟩ := toggle_eq_ok_iff.1 h
  exact (List.mem_or_eq_of_mem_set hx).imp_right fun hx =>
    ⟨r, List.mem_of_getElem? (at?_eq_some_iff.1 hr).2, hx⟩

theorem mem_of_moveUp? (h : b.moveUp? i = some b') (hx : x ∈ b'.rules) : x ∈ b.rules := by
  obtain ⟨-, -, rfl⟩ := moveUp?_eq_some_iff.1 h
  exact (Arrangement.swapAt_perm _ _).mem_iff.1 hx

theorem mem_of_moveDown? (h : b.moveDown? i = some b') (hx : x ∈ b'.rules) : x ∈ b.rules := by
  obtain ⟨-, -, rfl⟩ := moveDown?_eq_some_iff.1 h
  exact (Arrangement.swapAt_perm _ _).mem_iff.1 hx

theorem mem_of_relocate? {source target : Int} {after : Bool} {k : Nat}
    (h : b.relocate? source target after = some (b', k)) (hx : x ∈ b'.rules) : x ∈ b.rules := by
  obtain ⟨hl, -, rfl⟩ := relocate?_eq_some_iff.1 h
  obtain ⟨⟨r, hr, -⟩, hk, -⟩ := Arrangement.landing?_eq_some hl
  exact (Arrangement.transfer_perm (at?_eq_some_iff.1 hr).2 hk).mem_iff.1 hx

end Book

namespace Editor

variable {e : Editor} {x : Rule}

theorem SameBook.rules {e' : Editor} (h : SameBook e e') : e'.rules = e.rules :=
  congrArg Book.rules h.book

/-- The values that a command gives to the fields of a dialog of its own. -/
def Command.entries? : Command → Option Entries
  | .add (.mapping entries) | .update _ (.mapping entries) => some entries
  | _ => none

/-- Where a rule of the list can come from when a command begins. -/
inductive Made (e : Editor) (c : Command) : Rule → Prop where
  /-- it was there before -/
  | kept {r : Rule} (h : r ∈ e.rules) : Made e c r
  /-- it was there with another flag -/
  | flagged {r : Rule} {i : Int} {value : Value} (h_command : c = .toggle i value)
      (h : r ∈ e.rules) : Made e c (r.withFlag value)
  /-- it was made of the draft of a dialog that the command has opened and filled -/
  | drafted {entries : Entries} {existing : Option Rule} {index : Int} {opened filled : Dialog}
      {draft : Draft} (h_entries : c.entries? = some entries)
      (h_existing : ∀ r ∈ existing, r ∈ e.rules)
      (h_open : ({} : Dialog).open e.form existing index = .ok opened)
      (h_fill : opened.setAll e.form entries = .ok filled)
      (h_draft : filled.openDraft = .ok draft) :
      Made e c (e.form.finished (filled.candidateOf draft) draft.isFinal)

/-! ## Each command -/

theorem book_launch (e : Editor) (book : Book) (undo : Undo) (origin : Origin)
    (onSaved onRolledBack : Reply) :
    (e.launch book undo origin onSaved onRolledBack).1.book = book := by
  unfold launch Saver.launch
  cases e.saver.key.name? with
  | none => rfl
  | some name => rfl

theorem rules_launch (e : Editor) (book : Book) (undo : Undo) (origin : Origin)
    (onSaved onRolledBack : Reply) :
    (e.launch book undo origin onSaved onRolledBack).1.rules = book.rules :=
  congrArg Book.rules (book_launch e book undo origin onSaved onRolledBack)

theorem mem_of_beginDelete {i : Int} {confirmed : Option Bool}
    (hx : x ∈ (e.beginDelete i confirmed).1.rules) : x ∈ e.rules := by
  unfold beginDelete at hx
  split at hx
  · exact hx
  · split at hx
    · exact hx
    · split at hx
      · exact hx
      · rename_i book removed h_delete
        dsimp only at hx
        split at hx
        · exact hx
        · rw [rules_launch] at hx
          exact Book.mem_of_delete h_delete hx

theorem mem_of_beginMove {i : Int} {moved : Option (Book × Int × Undo)}
    (h_moved : ∀ book landed undo, moved = some (book, landed, undo) →
      ∀ x ∈ book.rules, x ∈ e.rules) (hx : x ∈ (e.beginMove i moved).1.rules) : x ∈ e.rules := by
  unfold beginMove at hx
  split at hx
  · exact hx
  · split at hx
    · exact hx
    · rw [rules_launch] at hx
      exact h_moved _ _ _ rfl x hx

theorem mem_of_beginToggle {i : Int} {enabled : Value}
    (hx : x ∈ (e.beginToggle i enabled).1.rules) :
    x ∈ e.rules ∨ ∃ r ∈ e.rules, x = r.withFlag enabled := by
  unfold beginToggle at hx
  split at hx
  · exact .inl hx
  · split at hx
    · rename_i book previous h_toggle
      rw [rules_launch] at hx
      exact Book.mem_of_toggle h_toggle hx
    · split at hx
      · exact .inl hx
      · exact .inl hx

theorem mem_of_beginSaveDialog {n : Nat} {d : Dialog} (hd : e.dialog? n = some d)
    (hx : x ∈ (e.beginSaveDialog (some n)).1.rules) :
    x ∈ e.rules ∨ ∃ draft, d.openDraft = .ok draft ∧
      x = e.form.finished (d.candidateOf draft) draft.isFinal := by
  unfold beginSaveDialog at hx
  simp only [Option.some_or, hd] at hx
  split at hx
  · split at hx
    · exact .inl hx
    · exact .inl hx
    · exact .inl hx
    · rename_i d' book r index previous h_commit
      obtain ⟨draft, h_draft, -, rfl, h_store⟩ := Dialog.rule_of_commit h_commit
      rw [rules_launch] at hx
      have h_mem : x ∈ e.book.rules ∨ x = e.form.finished (d.candidateOf draft) draft.isFinal := by
        unfold Dialog.store at h_store
        split at h_store
        · obtain ⟨⟨b, i⟩, h_insert, h⟩ := bind_eq_ok_iff.1 h_store
          obtain ⟨rfl, -⟩ := Prod.mk.inj (Except.ok.inj h)
          exact Book.mem_of_insert h_insert hx
        · obtain ⟨⟨b, r⟩, h_replace, h⟩ := bind_eq_ok_iff.1 h_store
          obtain ⟨rfl, -⟩ := Prod.mk.inj (Except.ok.inj h)
          exact Book.mem_of_replace h_replace hx
      exact h_mem.imp_right fun h => ⟨draft, h_draft, h⟩
  · exact .inl hx

theorem mem_of_beginFilled {n : Nat} {d : Dialog} (hd : e.dialog? n = some d) {values : Value}
    (hx : x ∈ (e.beginFilled n values).1.rules) :
    x ∈ e.rules ∨ ∃ entries filled draft, values = .mapping entries ∧
      d.setAll e.form entries = .ok filled ∧ filled.openDraft = .ok draft ∧
        x = e.form.finished (filled.candidateOf draft) draft.isFinal := by
  unfold beginFilled at hx
  simp only [hd] at hx
  split at hx
  · exact .inl hx
  · rw [settle, (sameBook_closeDialog e).rules] at hx
    exact .inl hx
  · rename_i filled h_fill
    obtain ⟨entries, h_entries, h_fill⟩ := map_eq_ok_iff.1 h_fill
    have h_values : values = .mapping entries := by
      cases values with
      | mapping entries' => rw [Except.ok.inj h_entries]
      | _ => exact nomatch h_entries
    have h_saved : x ∈ ((e.withDialog n filled).beginSaveDialog (some n)).1.rules := by
      generalize (e.withDialog n filled).beginSaveDialog (some n) = begun at hx ⊢
      split at hx
      · dsimp only at hx
        split at hx
        · rwa [(sameBook_closeDialog _).rules] at hx
        · exact hx
      · exact hx
    refine (mem_of_beginSaveDialog (dialog?_withDialog hd filled) h_saved).imp_right ?_
    rintro ⟨draft, h_draft, rfl⟩
    exact ⟨entries, filled, draft, h_values, h_fill, h_draft, rfl⟩

/-- A dialog that a command has opened on a rule of the list, or on a new one, and fills. -/
theorem made_of_filled {c : Command} {values : Value} {existing : Option Rule} {index : Int}
    {n : Nat} (h_open : (e.openDialog existing index).2 = .ok n)
    (h_existing : ∀ r ∈ existing, r ∈ e.rules)
    (h_entries : ∀ entries, values = .mapping entries → c.entries? = some entries)
    (hx : x ∈ ((e.openDialog existing index).1.beginFilled n values).1.rules) : Made e c x := by
  have h_same := sameBook_openDialog e existing index
  obtain ⟨d, hd, h_opened⟩ := dialog?_openDialog h_open
  rcases mem_of_beginFilled hd hx with hx | ⟨entries, filled, draft, h_values, h_fill, h_draft, rfl⟩
  · exact .kept (h_same.rules ▸ hx)
  · rw [h_same.form] at h_fill ⊢
    exact .drafted (h_entries entries h_values) h_existing h_opened h_fill h_draft

/-- **Where the rules of a list come from** when a command of the list begins. -/
theorem made_begin {c : Command} (hc : c.IsOfList) (hx : x ∈ (e.begin c).1.rules) :
    Made e c x := by
  cases c with
  | add values =>
    have h_made := @made_of_filled e x (.add values) values none (-1)
    have h_same := sameBook_openDialog e none (-1)
    simp only [begin, openAdd] at hx
    generalize e.openDialog none (-1) = opened at hx h_made h_same
    obtain ⟨e', error | n⟩ := opened
    · exact .kept (h_same.rules ▸ hx)
    · exact h_made rfl (fun r h => absurd h (Option.not_mem_none r))
        (fun entries h => by rw [h]; rfl) hx
  | update i values =>
    simp only [begin, openEdit] at hx
    cases h_get : e.book.get i with
    | error error =>
      rw [h_get] at hx
      exact .kept hx
    | ok r =>
      have h_mem : r ∈ e.rules :=
        List.mem_of_getElem? (Arrangement.at?_eq_some_iff.1 (Book.get_eq_ok_iff.1 h_get)).2
      have h_made := @made_of_filled e x (.update i values) values (some r) i
      have h_same := sameBook_openDialog e (some r) i
      rw [h_get] at hx
      dsimp only at hx
      generalize e.openDialog (some r) i = opened at hx h_made h_same
      obtain ⟨e', error | n⟩ := opened
      · have h_kept : x ∈ e'.rules := by
          cases error with
          | book error => exact hx
          | reading error => exact hx
        exact .kept (h_same.rules ▸ h_kept)
      · refine h_made rfl (fun r' h => ?_) (fun entries h => by rw [h]; rfl) hx
        rwa [← Option.mem_some_iff.1 h]
  | delete i confirmed => exact .kept (mem_of_beginDelete hx)
  | moveUp i =>
    refine .kept (mem_of_beginMove (fun book landed undo h => ?_) hx)
    obtain ⟨book', h_move, hp⟩ := Option.map_eq_some_iff.1 h
    obtain ⟨rfl, -⟩ := Prod.mk.inj hp
    exact fun x => Book.mem_of_moveUp? h_move
  | moveDown i =>
    refine .kept (mem_of_beginMove (fun book landed undo h => ?_) hx)
    obtain ⟨book', h_move, hp⟩ := Option.map_eq_some_iff.1 h
    obtain ⟨rfl, -⟩ := Prod.mk.inj hp
    exact fun x => Book.mem_of_moveDown? h_move
  | relocate source target after =>
    refine .kept (mem_of_beginMove (fun book landed undo h => ?_) hx)
    obtain ⟨⟨book', k⟩, h_relocate, hp⟩ := Option.map_eq_some_iff.1 h
    obtain ⟨rfl, -⟩ := Prod.mk.inj hp
    exact fun x => Book.mem_of_relocate? h_relocate
  | toggle i enabled =>
    rcases mem_of_beginToggle hx with hx | ⟨r, hr, rfl⟩
    · exact .kept hx
    · exact .flagged rfl hr
  | saveDialog number => exact hc.elim
  | drop target after => exact hc.elim

end Editor

end Rulebook
