/-
  Rulebook.Proofs.Editor.Keeps

  What a command of the list keeps of the list that it changes.

  A command whose list is being saved has carried out one operation of the book, at the position
  that it names (`carries_begin`).  So all that the list can lose is the rule that the command
  names: the others are in the new list, in their order, and if the command moves a rule then that
  one is there as well (`Command.Carries.keeps`).
-/
import Rulebook.Proofs.Editor.Made

namespace Rulebook

open Arrangement (at? at?_eq_some_iff swapAt transfer)

namespace Editor

/-! ## What a command does to the book -/

namespace Command

/-- What a command makes of a book: what the one operation makes of it that the command stands
for. -/
inductive Carries (b b' : Book) : Command → Prop where
  | add {values : Value} {r : Rule} {k : Nat} (h : b.insert r = .ok (b', k)) :
    Carries b b' (.add values)
  | update {i : Int} {values : Value} {r previous : Rule} (h : b.replace i r = .ok (b', previous)) :
    Carries b b' (.update i values)
  | delete {i : Int} {confirmed : Option Bool} {removed : Rule}
    (h : b.delete i = .ok (b', removed)) : Carries b b' (.delete i confirmed)
  | moveUp {i : Int} (h : b.moveUp? i = some b') : Carries b b' (.moveUp i)
  | moveDown {i : Int} (h : b.moveDown? i = some b') : Carries b b' (.moveDown i)
  | relocate {source target : Int} {after : Bool} {k : Nat}
    (h : b.relocate? source target after = some (b', k)) :
    Carries b b' (.relocate source target after)
  | toggle {i : Int} {enabled previous : Value} (h : b.toggle i enabled = .ok (b', previous)) :
    Carries b b' (.toggle i enabled)

/-- The position of the rule that a command names, if it names one. -/
def position? : Command → Option Int
  | .update i _ | .delete i _ | .moveUp i | .moveDown i | .relocate i _ _ | .toggle i _ => some i
  | .add _ | .saveDialog _ | .drop .. => none

/-- The members of a list that a command does not name. -/
def others {α : Type _} (c : Command) (xs : List α) : List α :=
  match c.position? with
  | some i => xs.eraseIdx i.toNat
  | none => xs

/-- Whether a command moves a rule. -/
def Moves : Command → Prop
  | .moveUp _ | .moveDown _ | .relocate .. => True
  | _ => False

/-- What a command keeps of a list: the rules that it does not name are there as they were, in
their order, and if it moves a rule then none is lost. -/
structure Keeps (c : Command) (rules rules' : List Rule) : Prop where
  others : (c.others rules).Sublist rules'
  moved : c.Moves → rules'.Perm rules

variable {b b' : Book} {c : Command}

/-- **What a command keeps of the list of a book.** -/
theorem Carries.keeps (h : c.Carries b b') : c.Keeps b.rules b'.rules := by
  cases h with
  | add h =>
    obtain ⟨-, rfl, rfl⟩ := Book.insert_eq_ok_iff.1 h
    exact ⟨List.sublist_insertIdx _ _ _, False.elim⟩
  | update h =>
    obtain ⟨-, -, rfl⟩ := Book.replace_eq_ok_iff.1 h
    exact ⟨Arrangement.eraseIdx_sublist_set _ _ _, False.elim⟩
  | delete h =>
    obtain ⟨-, -, rfl⟩ := Book.delete_eq_ok_iff.1 h
    exact ⟨List.Sublist.refl _, False.elim⟩
  | moveUp h =>
    obtain ⟨h0, ⟨r, hr, -⟩, rfl⟩ := Book.moveUp?_eq_some_iff.1 h
    refine ⟨?_, fun _ => Arrangement.swapAt_perm _ _⟩
    rw [Book.rules_withRules, Arrangement.swapAt_pred_eq_transfer h0 hr]
    exact Arrangement.eraseIdx_sublist_transfer _ _ _
  | moveDown h =>
    obtain ⟨⟨r, hr, -⟩, hlt, rfl⟩ := Book.moveDown?_eq_some_iff.1 h
    refine ⟨?_, fun _ => Arrangement.swapAt_perm _ _⟩
    have h0 := (Arrangement.toNat_lt_of_at? hr).1
    rw [Book.rules_withRules, Arrangement.swapAt_eq_transfer (by split at hlt <;> omega)]
    exact Arrangement.eraseIdx_sublist_transfer _ _ _
  | relocate h =>
    obtain ⟨h_landing, -, rfl⟩ := Book.relocate?_eq_some_iff.1 h
    obtain ⟨⟨r, hr, -⟩, hk, -⟩ := Arrangement.landing?_eq_some h_landing
    exact ⟨Arrangement.eraseIdx_sublist_transfer _ _ _,
      fun _ => Arrangement.transfer_perm (at?_eq_some_iff.1 hr).2 hk⟩
  | toggle h =>
    obtain ⟨r, -, -, -, rfl⟩ := Book.toggle_eq_ok_iff.1 h
    exact ⟨Arrangement.eraseIdx_sublist_set _ _ _, False.elim⟩

end Command

/-! ## Each command -/

variable {e e' : Editor} {events : List Event} {t : Ticket} {i : Int}

theorem book_of_launch {book : Book} {undo : Undo} {origin : Origin} {onSaved onRolledBack : Reply}
    {begun : Begun} (h : e.launch book undo origin onSaved onRolledBack = (e', events, begun)) :
    e'.book = book := by
  rw [← book_launch e book undo origin onSaved onRolledBack, h]

/-- What was launched is undone as the launch says. -/
theorem undo_of_launch {book : Book} {undo : Undo} {origin : Origin} {onSaved onRolledBack : Reply}
    (h : e.launch book undo origin onSaved onRolledBack = (e', events, .saving t)) :
    t.undo = undo := by
  unfold launch at h
  split at h
  · exact nomatch h
  · cases h
    rfl

theorem delete_of_beginDelete {confirmed : Option Bool}
    (h : e.beginDelete i confirmed = (e', events, .saving t)) :
    ∃ removed, e.book.delete i = .ok (e'.book, removed) ∧ t.undo = .insertAt i removed := by
  unfold beginDelete at h
  split at h
  · exact nomatch h
  · split at h
    · exact nomatch h
    · split at h
      · exact nomatch h
      · rename_i book removed h_delete
        dsimp only at h
        split at h
        · exact nomatch h
        · -- A deletion shows another thing than a plain launch, and is the same otherwise.
          generalize h_launch : e.launch book _ _ _ _ = launched at h
          obtain ⟨e₁, shown, begun⟩ := launched
          cases h
          exact ⟨removed, by rw [h_delete, book_of_launch h_launch], undo_of_launch h_launch⟩

theorem moved_of_beginMove {moved : Option (Book × Int × Undo)}
    (h : e.beginMove i moved = (e', events, .saving t)) :
    ∃ landed, moved = some (e'.book, landed, t.undo) := by
  unfold beginMove at h
  split at h
  · exact nomatch h
  · split at h
    · exact nomatch h
    · rename_i book landed undo
      exact ⟨landed, by rw [book_of_launch h, undo_of_launch h]⟩

theorem toggle_of_beginToggle {enabled : Value}
    (h : e.beginToggle i enabled = (e', events, .saving t)) :
    ∃ previous, e.book.toggle i enabled = .ok (e'.book, previous) ∧
      t.undo = .toggle i previous := by
  unfold beginToggle at h
  split at h
  · exact nomatch h
  · split at h
    · rename_i book previous h_toggle
      exact ⟨previous, by rw [h_toggle, book_of_launch h], undo_of_launch h⟩
    · split at h
      · exact nomatch h
      · exact nomatch h

/-- The rule that the draft of a dialog makes was stored in a book, and a way to undo that. -/
structure Commits (form : Form) (d : Dialog) (draft : Draft) (r : Rule) (b b' : Book)
    (undo : Undo) : Prop where
  opened : d.openDraft = .ok draft
  complaint : form.complaint (d.candidateOf draft) draft.isFinal = none
  rule : r = form.finished (d.candidateOf draft) draft.isFinal
  stored : ∃ index previous, Dialog.store b draft r = .ok (b', .stored r index previous) ∧
    undo = Dialog.undoOf index previous

namespace Commits

variable {form : Form} {d : Dialog} {draft : Draft} {r : Rule} {b b' : Book} {undo : Undo}

/-- The rule of a draft that is new was put in. -/
theorem insert (h : Commits form d draft r b b' undo) (h_new : draft.isNew = true) :
    ∃ k : Nat, b.insert r = .ok (b', k) ∧ undo = .delete k := by
  obtain ⟨index, previous, h_store, rfl⟩ := h.stored
  rw [Dialog.store, if_pos h_new] at h_store
  obtain ⟨⟨b'', k⟩, h_insert, h_pure⟩ := bind_eq_ok_iff.1 h_store
  obtain ⟨rfl, h_commit⟩ := Prod.mk.inj (Except.ok.inj h_pure)
  obtain ⟨-, rfl, rfl⟩ := Dialog.Commit.stored.inj h_commit
  exact ⟨k, h_insert, rfl⟩

/-- The rule of any other draft took the place of the one that the draft is of. -/
theorem replace (h : Commits form d draft r b b' undo) (h_old : draft.isNew = false) :
    ∃ previous, b.replace draft.index r = .ok (b', previous) ∧
      undo = .replace draft.index previous := by
  obtain ⟨index, previous, h_store, rfl⟩ := h.stored
  rw [Dialog.store, h_old, if_neg Bool.false_ne_true] at h_store
  obtain ⟨⟨b'', r'⟩, h_replace, h_pure⟩ := bind_eq_ok_iff.1 h_store
  obtain ⟨rfl, h_commit⟩ := Prod.mk.inj (Except.ok.inj h_pure)
  obtain ⟨-, rfl, rfl⟩ := Dialog.Commit.stored.inj h_commit
  exact ⟨r', h_replace, rfl⟩

end Commits

/-- A dialog that is being saved has stored its rule. -/
theorem commits_of_beginSaveDialog {number : Option Nat}
    (h : e.beginSaveDialog number = (e', events, .saving t)) :
    ∃ n d draft r, number.or e.current = some n ∧ e.dialog? n = some d ∧
      Commits e.form d draft r e.book e'.book t.undo := by
  unfold beginSaveDialog at h
  split at h
  · exact nomatch h
  · rename_i n h_number
    split at h
    · exact nomatch h
    · rename_i d hd
      split at h
      · split at h
        · exact nomatch h
        · exact nomatch h
        · exact nomatch h
        · rename_i d' book r index previous h_commit
          obtain ⟨draft, h_draft, h_complaint, h_rule, h_store⟩ := Dialog.rule_of_commit h_commit
          have h_stored :
              Dialog.store e.book draft r = .ok (e'.book, .stored r index previous) := by
            rw [h_store, book_of_launch h]
          exact ⟨n, d, draft, r, h_number, hd, h_draft, h_complaint, h_rule, index, previous,
            h_stored, undo_of_launch h⟩
      · exact nomatch h

/-- So has a dialog that was filled before. -/
theorem commits_of_beginFilled {n : Nat} {d : Dialog} (hd : e.dialog? n = some d) {values : Value}
    (h : e.beginFilled n values = (e', events, .saving t)) :
    ∃ entries filled draft r, values.entries? = .ok entries ∧
      d.setAll e.form entries = .ok filled ∧
      Commits e.form filled draft r e.book e'.book t.undo := by
  unfold beginFilled at h
  simp only [hd] at h
  split at h
  · exact nomatch h
  · exact nomatch h
  · rename_i filled h_fill
    obtain ⟨entries, h_entries, h_fill⟩ := map_eq_ok_iff.1 h_fill
    have h_save : (e.withDialog n filled).beginSaveDialog (some n) = (e', events, .saving t) := by
      generalize (e.withDialog n filled).beginSaveDialog (some n) = begun at h ⊢
      split at h
      · exact nomatch h
      · exact h
    -- The dialog that was saved is the one that was filled.
    obtain ⟨m, d', draft, r, hm, hd', h_commits⟩ := commits_of_beginSaveDialog h_save
    obtain rfl : n = m := Option.some.inj hm
    obtain rfl : filled = d' := Option.some.inj ((dialog?_withDialog hd filled).symm.trans hd')
    exact ⟨entries, filled, draft, r, h_entries, h_fill, h_commits⟩

/-- The rule of a dialog was stored that was opened on a rule of the list, or on a new one, and
whose fields were then given their values. -/
def CommitsFilled (e : Editor) (existing : Option Rule) (index : Int) (values : Value) (b' : Book)
    (undo : Undo) : Prop :=
  ∃ entries opened filled draft r, values.entries? = .ok entries ∧
    ({} : Dialog).open e.form existing index = .ok opened ∧
    opened.setAll e.form entries = .ok filled ∧ Commits e.form filled draft r e.book b' undo

theorem commits_of_opened {existing : Option Rule} {n : Nat}
    (h_open : (e.openDialog existing i).2 = .ok n) {values : Value}
    (h : (e.openDialog existing i).1.beginFilled n values = (e', events, .saving t)) :
    CommitsFilled e existing i values e'.book t.undo := by
  obtain ⟨d, hd, h_dialog⟩ := dialog?_openDialog h_open
  obtain ⟨entries, filled, draft, r, h_entries, h_fill, h_commits⟩ := commits_of_beginFilled hd h
  have h_same := sameBook_openDialog e existing i
  rw [h_same.form] at h_fill h_commits
  rw [h_same.book] at h_commits
  exact ⟨entries, d, filled, draft, r, h_entries, h_dialog, h_fill, h_commits⟩

/-- A rule that is added comes from a dialog on a new rule. -/
theorem commits_add {values : Value} (h : e.begin (.add values) = (e', events, .saving t)) :
    CommitsFilled e none (-1) values e'.book t.undo := by
  have h_commits := @commits_of_opened e e' events t (-1) none
  simp only [begin, openAdd] at h
  generalize e.openDialog none (-1) = opened at h h_commits
  obtain ⟨e₁, error | n⟩ := opened
  · cases h
  · exact h_commits rfl h

/-- A rule that is given other values comes from a dialog on the rule that stands there. -/
theorem commits_update {values : Value} (h : e.begin (.update i values) = (e', events, .saving t)) :
    ∃ previous, at? e.rules i = some previous ∧
      CommitsFilled e (some previous) i values e'.book t.undo := by
  simp only [begin, openEdit] at h
  cases h_get : e.book.get i with
  | error error =>
    rw [h_get] at h
    cases h
  | ok previous =>
    have h_commits := @commits_of_opened e e' events t i (some previous)
    rw [h_get] at h
    dsimp only at h
    generalize e.openDialog (some previous) i = opened at h h_commits
    obtain ⟨e₁, error | n⟩ := opened
    · cases error with
      | book error => cases h
      | reading error => cases h
    · exact ⟨previous, Book.get_eq_ok_iff.1 h_get, h_commits rfl h⟩

/-- A draft that is filled stays the draft of the rule at its position. -/
theorem CommitsFilled.index {existing : Option Rule} {values : Value} {b' : Book} {undo : Undo}
    (h : CommitsFilled e existing i values b' undo) (h_new : existing = none → i = -1) :
    ∃ filled draft r, draft.index = i ∧ Commits e.form filled draft r e.book b' undo := by
  obtain ⟨entries, opened, filled, draft, r, -, h_open, h_fill, h_commits⟩ := h
  have h_aims : filled.Aims i := Dialog.aims_setAll (Dialog.aims_open h_open h_new) h_fill
  exact ⟨filled, draft, r, h_aims.of_openDraft h_commits.opened, h_commits⟩

/-- **A command whose list is being saved** has carried out its operation. -/
theorem carries_begin {c : Command} (hc : c.IsOfList) (h : e.begin c = (e', events, .saving t)) :
    c.Carries e.book e'.book := by
  cases c with
  | add values =>
    -- A new rule comes from a dialog that aims in front of the first position.
    obtain ⟨filled, draft, r, h_index, h_commits⟩ := (commits_add h).index fun _ => rfl
    obtain ⟨k, h_insert, -⟩ := h_commits.insert (by rw [Draft.isNew, h_index]; rfl)
    exact .add h_insert
  | update i values =>
    -- There is a rule at the position, so the dialog on it aims at no new one.
    obtain ⟨previous, h_at, h_filled⟩ := commits_update h
    obtain ⟨h0, -⟩ := Arrangement.toNat_lt_of_at? h_at
    have h_new : some previous = none → i = -1 :=
      fun h_none => absurd h_none (Option.some_ne_none previous)
    obtain ⟨filled, draft, r, rfl, h_commits⟩ := h_filled.index h_new
    have h_old : draft.isNew = false := by
      rw [Draft.isNew, decide_eq_false_iff_not]
      omega
    obtain ⟨previous', h_replace, -⟩ := h_commits.replace h_old
    exact .update h_replace
  | delete i confirmed =>
    obtain ⟨removed, h_delete, -⟩ := delete_of_beginDelete h
    exact .delete h_delete
  | moveUp i =>
    obtain ⟨landed, h_moved⟩ := moved_of_beginMove h
    obtain ⟨book, h_move, h_eq⟩ := Option.map_eq_some_iff.1 h_moved
    obtain ⟨rfl, -⟩ := Prod.mk.inj h_eq
    exact .moveUp h_move
  | moveDown i =>
    obtain ⟨landed, h_moved⟩ := moved_of_beginMove h
    obtain ⟨book, h_move, h_eq⟩ := Option.map_eq_some_iff.1 h_moved
    obtain ⟨rfl, -⟩ := Prod.mk.inj h_eq
    exact .moveDown h_move
  | relocate source target after =>
    obtain ⟨landed, h_moved⟩ := moved_of_beginMove h
    obtain ⟨⟨book, k⟩, h_relocate, h_eq⟩ := Option.map_eq_some_iff.1 h_moved
    obtain ⟨rfl, -⟩ := Prod.mk.inj h_eq
    exact .relocate h_relocate
  | toggle i enabled =>
    obtain ⟨previous, h_toggle, -⟩ := toggle_of_beginToggle h
    exact .toggle h_toggle
  | saveDialog number => exact hc.elim
  | drop target after => exact hc.elim

end Editor

end Rulebook
