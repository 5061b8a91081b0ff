/-
  Rulebook.Proofs.Editor.InPlace

  Commands in place: to set the flag of a rule, and to give a rule other values.  Each has a target,
  which is the position of the rule.

  What such a command comes to follows from the settings, the form, the key and the rule that stands
  at its target; the other rules of the list do not matter to it.  And it changes nothing but its
  target.  Both are said at once, by comparing its beginnings in two editors that have the same rule
  there (`likewise_begin`).
-/
import Rulebook.Proofs.Book.Row
import Rulebook.Proofs.Dialog.Draft
import Rulebook.Proofs.Editor.Agree

namespace Rulebook

open Arrangement (at?)

namespace Dialog

/-- A commit in two books that have the same rule at the position that the dialog aims at comes to
the same in both. -/
theorem commit_cases (form : Form) {d : Dialog} {i : Int} {b b' : Book} (h_aims : d.Aims i)
    (h0 : 0 ≤ i) (h_row : at? b'.rules i = at? b.rules i) :
    (∃ error, d.commit form b = .error error ∧ d.commit form b' = .error error) ∨
      (∃ message index, d.commit form b = .ok (d, b, .invalid message index) ∧
        d.commit form b' = .ok (d, b', .invalid message index)) ∨
      ∃ d' r previous, at? b.rules i = some previous ∧ previous.kind = r.kind ∧
        d.commit form b = .ok (d', b.put i r, .stored r i (some previous)) ∧
        d.commit form b' = .ok (d', b'.put i r, .stored r i (some previous)) := by
  unfold commit
  cases h_draft : d.openDraft with
  | error error => exact .inl ⟨error, rfl, rfl⟩
  | ok draft =>
    have h_index : draft.index = i := h_aims.of_openDraft h_draft
    -- The draft is one of a rule that exists, so nothing is inserted.
    have h_new : draft.isNew = false := by
      rw [Draft.isNew, decide_eq_false_iff_not]
      omega
    simp only [bind, Except.bind]
    cases form.complaint (d.candidateOf draft) draft.isFinal with
    | some message => exact .inr (.inl ⟨message, draft.index, rfl, rfl⟩)
    | none =>
      dsimp only
      generalize form.finished (d.candidateOf draft) draft.isFinal = r
      simp only [store, h_new, Bool.false_eq_true, if_false, h_index, Book.replace_eq, h_row]
      cases h_at : at? b.rules i with
      | none => exact .inl ⟨_, rfl, rfl⟩
      | some previous =>
        by_cases h_kind : previous.kind = r.kind
        · simp only [h_kind, if_true]
          exact .inr (.inr ⟨_, r, previous, rfl, h_kind, rfl, rfl⟩)
        · simp only [h_kind, if_false]
          exact .inl ⟨_, rfl, rfl⟩

end Dialog

namespace Editor

/-- The position of the rule that a command changes in its place. -/
def Command.target? : Command → Option Int
  | .update i _ | .toggle i _ => some i
  | _ => none

/-- Two editors work in the same way, and have the same rule at a position. -/
structure SameRow (i : Int) (e e' : Editor) : Prop where
  settings : e'.settings = e.settings
  form : e'.form = e.form
  key : e'.saver.key = e.saver.key
  row : at? e'.rules i = at? e.rules i

/-- Two tickets stand for the same change of a rule, which may be of different lists. -/
structure Ticket.Likewise (t t' : Ticket) : Prop where
  undo : t'.undo = t.undo
  onSaved : t'.onSaved = t.onSaved
  onRolledBack : t'.onRolledBack = t.onRolledBack

/-- A command has come to the same in two editors, and has changed the rule at a position or none. -/
inductive Likewise (i : Int) (e e' : Editor) :
    Editor × List Event × Begun → Editor × List Event × Begun → Prop where
  /-- it is over without a change -/
  | settled {x y : Editor} {events : List Event} {outcome : Outcome} (h_left : SameBook e x)
      (h_right : SameBook e' y) :
      Likewise i e e' (x, events, .done outcome) (y, events, .done outcome)
  /-- the rule has changed, but there is no name to store the list under -/
  | unstorable {x y : Editor} {events : List Event} {previous r : Rule}
      (h_row : at? e.rules i = some previous) (h_left : SameBook (e.unsaved (e.book.put i r)) x)
      (h_right : SameBook (e'.unsaved (e'.book.put i r)) y) :
      Likewise i e e' (x, events, .done (.error (.reading .notName)))
        (y, events, .done (.error (.reading .notName)))
  /-- the rule has changed, and the list is being saved -/
  | saving {x y : Editor} {events : List Event} {previous r : Rule} {t t' : Ticket}
      (h_row : at? e.rules i = some previous) (h_left : SameBook (e.saving (e.book.put i r)) x)
      (h_right : SameBook (e'.saving (e'.book.put i r)) y)
      (h_undo : t.undo.Restores i r previous) (h_ticket : t.Likewise t') :
      Likewise i e e' (x, events, .saving t) (y, events, .saving t')

variable {i : Int} {e e' : Editor}

/-- It does not matter what dialogs there are before a command. -/
theorem Likewise.of_sameBook {e₁ e₁' : Editor} {x y : Editor × List Event × Begun}
    (h : Likewise i e₁ e₁' x y) (h_left : SameBook e e₁) (h_right : SameBook e' e₁') :
    Likewise i e e' x y := by
  have h_book : e₁.book = e.book := h_left.book
  have h_book' : e₁'.book = e'.book := h_right.book
  cases h with
  | settled h h' => exact .settled (h_left.trans h) (h_right.trans h')
  | unstorable h_row h h' =>
    rw [rules, h_left.saver] at h_row
    rw [h_book] at h
    rw [h_book'] at h'
    exact .unstorable h_row ((h_left.unsaved _).trans h) ((h_right.unsaved _).trans h')
  | saving h_row h h' h_undo h_ticket =>
    rw [rules, h_left.saver] at h_row
    rw [h_book] at h
    rw [h_book'] at h'
    exact .saving h_row ((h_left.saving _).trans h) ((h_right.saving _).trans h') h_undo h_ticket

theorem likewise_settle (e e' : Editor) (reply : Reply) :
    Likewise i e e' (e.settle reply) (e'.settle reply) :=
  .settled (.refl e) (.refl e')

theorem likewise_launch (h : SameRow i e e') {previous r : Rule} {undo : Undo}
    (h_row : at? e.rules i = some previous) (h_undo : undo.Restores i r previous)
    (origin origin' : Origin) (onSaved onRolledBack : Reply) :
    Likewise i e e' (e.launch (e.book.put i r) undo origin onSaved onRolledBack)
      (e'.launch (e'.book.put i r) undo origin' onSaved onRolledBack) := by
  cases h_name : e.saver.key.name? with
  | none =>
    have h_name' : e'.saver.key.name? = none := by rw [h.key, h_name]
    simp only [launch, Saver.launch, h_name, h_name']
    exact .unstorable h_row ⟨rfl, rfl, rfl⟩ ⟨rfl, rfl, rfl⟩
  | some name =>
    have h_name' : e'.saver.key.name? = some name := by rw [h.key, h_name]
    simp only [launch, Saver.launch, h_name, h_name']
    exact .saving h_row ⟨rfl, rfl, rfl⟩ ⟨rfl, rfl, rfl⟩ h_undo ⟨rfl, rfl, rfl⟩

theorem SameRow.invalidIndex_eq (h : SameRow i e e') (error : Book.Error) :
    e'.invalidIndex error = e.invalidIndex error := by
  rw [invalidIndex, invalidIndex, h.settings]

theorem SameRow.dialogError_eq (h : SameRow i e e') (error : Book.Error) :
    e'.dialogError error = e.dialogError error := by
  rw [dialogError, dialogError, h.invalidIndex_eq]

theorem SameRow.of_sameBook {e₁ e₁' : Editor} (h : SameRow i e e') (h_left : SameBook e e₁)
    (h_right : SameBook e' e₁') : SameRow i e₁ e₁' := by
  refine ⟨?_, ?_, ?_, ?_⟩
  · rw [h_right.settings, h_left.settings, h.settings]
  · rw [h_right.form, h_left.form, h.form]
  · rw [h_right.saver, h_left.saver, h.key]
  · rw [rules, rules, h_right.saver, h_left.saver]
    exact h.row

/-! ## Setting a flag -/

theorem likewise_beginToggle (h : SameRow i e e') (enabled : Value) :
    Likewise i e e' (e.beginToggle i enabled) (e'.beginToggle i enabled) := by
  have h_row : at? e'.book.rules i = at? e.book.rules i := h.row
  unfold beginToggle
  rw [h.settings]
  split
  · exact likewise_settle e e' _
  · simp only [Book.toggle_eq, h_row]
    cases h_at : at? e.book.rules i with
    | none =>
      simp only [Book.Error.isIndex, if_true, h.invalidIndex_eq]
      exact .settled (.refl e) (.refl e')
    | some previous =>
      cases h_final : previous.isFinal with
      | true =>
        simp only [h_final, if_true, Book.Error.isIndex, Bool.false_eq_true, if_false]
        exact likewise_settle e e' _
      | false =>
        simp only [h_final, Bool.false_eq_true, if_false]
        exact likewise_launch h h_at (Undo.restores_toggle h_final enabled) _ _ _ _

/-! ## Giving a rule other values -/

theorem likewise_beginSaveDialog (h : SameRow i e e') {n n' : Nat} {d : Dialog} (h0 : 0 ≤ i)
    (h_aims : d.Aims i) (hd : e.dialog? n = some d) (hd' : e'.dialog? n' = some d) :
    Likewise i e e' (e.beginSaveDialog (some n)) (e'.beginSaveDialog (some n')) := by
  unfold beginSaveDialog
  simp only [Option.some_or, hd, hd']
  rw [h.form]
  split
  · have h_row : at? e'.book.rules i = at? e.book.rules i := h.row
    rcases Dialog.commit_cases e.form h_aims h0 h_row with
      ⟨error, hc, hc'⟩ | ⟨message, index, hc, hc'⟩ | ⟨d', r, previous, h_at, h_kind, hc, hc'⟩
    · simp only [hc, hc']
      cases error with
      | refused error =>
        simp only [h.dialogError_eq]
        exact .settled (.refl e) (.refl e')
      | alreadyOpen | stillOpen | notOpen | unknownField | notName | notShown =>
        exact likewise_settle e e' _
    · simp only [hc, hc']
      exact likewise_settle e e' _
    · simp only [hc, hc']
      have h_left := sameBook_withDialog e n d'
      have h_right := sameBook_withDialog e' n' d'
      refine Likewise.of_sameBook ?_ h_left h_right
      exact likewise_launch (h.of_sameBook h_left h_right) h_at (Undo.restores_replace h_kind)
        _ _ _ _
  · exact likewise_settle e e' _

/-- Whether a dialog is given up after a command does not matter to it. -/
theorem Likewise.given_up {x y : Editor} {events : List Event} {outcome : Outcome}
    (h : Likewise i e e' (x, events, .done outcome) (y, events, .done outcome)) (p p' : Bool) :
    Likewise i e e' (if p then x.closeDialog else x, events, .done outcome)
      (if p' then y.closeDialog else y, events, .done outcome) := by
  have h_closed (x : Editor) (p : Bool) : SameBook x (if p then x.closeDialog else x) := by
    cases p with
    | true => exact sameBook_closeDialog x
    | false => exact .refl x
  cases h with
  | settled h h' => exact .settled (h.trans (h_closed x p)) (h'.trans (h_closed y p'))
  | unstorable h_row h h' =>
    exact .unstorable h_row (h.trans (h_closed x p)) (h'.trans (h_closed y p'))

theorem likewise_beginFilled (h : SameRow i e e') {n n' : Nat} {d : Dialog} (h0 : 0 ≤ i)
    (h_aims : d.Aims i) (hd : e.dialog? n = some d) (hd' : e'.dialog? n' = some d)
    (values : Value) :
    Likewise i e e' (e.beginFilled n values) (e'.beginFilled n' values) := by
  unfold beginFilled
  simp only [hd, hd']
  rw [h.form]
  split
  · exact .settled (.refl e) (.refl e')
  · exact .settled (sameBook_closeDialog e) (sameBook_closeDialog e')
  · rename_i d' h_set
    have h_aims' : d'.Aims i := by
      obtain ⟨entries, -, h_set⟩ := map_eq_ok_iff.1 h_set
      exact Dialog.aims_setAll h_aims h_set
    -- With the values set the dialogs are the same again, and aim at the same position.
    have h_left := sameBook_withDialog e n d'
    have h_right := sameBook_withDialog e' n' d'
    have h_save : Likewise i e e' ((e.withDialog n d').beginSaveDialog (some n))
        ((e'.withDialog n' d').beginSaveDialog (some n')) := by
      refine Likewise.of_sameBook ?_ h_left h_right
      exact likewise_beginSaveDialog (h.of_sameBook h_left h_right) h0 h_aims'
        (dialog?_withDialog hd d') (dialog?_withDialog hd' d')
    generalize (e.withDialog n d').beginSaveDialog (some n) = x at h_save ⊢
    generalize (e'.withDialog n' d').beginSaveDialog (some n') = y at h_save ⊢
    cases h_save with
    | @settled _ _ _ outcome h_left h_right =>
      cases outcome with
      | error error => exact .settled h_left h_right
      | ok reply => exact (Likewise.settled h_left h_right).given_up _ _
    | unstorable h_row h_left h_right => exact .unstorable h_row h_left h_right
    | saving h_row h_left h_right h_undo h_ticket =>
      exact .saving h_row h_left h_right h_undo h_ticket

theorem likewise_update (h : SameRow i e e') (values : Value) :
    Likewise i e e' (e.begin (.update i values)) (e'.begin (.update i values)) := by
  have h_row : at? e'.book.rules i = at? e.book.rules i := h.row
  simp only [begin, openEdit, Book.get, h_row]
  cases h_at : at? e.book.rules i with
  | none =>
    simp only [h.invalidIndex_eq]
    exact .settled (.refl e) (.refl e')
  | some r =>
    obtain ⟨h0, -⟩ := Arrangement.toNat_lt_of_at? h_at
    have h_left := sameBook_openDialog e (some r) i
    have h_right := sameBook_openDialog e' (some r) i
    have h_opened := openDialog_cases e (some r) i
    have h_opened' := openDialog_cases e' (some r) i
    rw [h.form] at h_opened'
    dsimp only
    generalize e.openDialog (some r) i = x at h_left h_opened ⊢
    generalize e'.openDialog (some r) i = y at h_right h_opened' ⊢
    obtain ⟨e₁, result⟩ := x
    obtain ⟨e₂, result'⟩ := y
    cases h_dialog : opened? e.form (some r) i with
    | none =>
      rw [h_dialog] at h_opened h_opened'
      obtain rfl : result = .error (.reading .notName) := h_opened
      obtain rfl : result' = .error (.reading .notName) := h_opened'
      exact .settled h_left h_right
    | some d =>
      rw [h_dialog] at h_opened h_opened'
      obtain ⟨n, rfl, hd⟩ := h_opened
      obtain ⟨n', rfl, hd'⟩ := h_opened'
      refine Likewise.of_sameBook ?_ h_left h_right
      exact likewise_beginFilled (h.of_sameBook h_left h_right) h0
        (Dialog.aims_open (open_of_opened? h_dialog)
          fun h_none => absurd h_none (Option.some_ne_none r)) hd hd' values

/-- **A command in place depends on the rule at its target, and changes no other one.** -/
theorem likewise_begin (h : SameRow i e e') {c : Command} (hc : c.target? = some i) :
    Likewise i e e' (e.begin c) (e'.begin c) := by
  cases c with
  | update index values =>
    obtain rfl : index = i := Option.some.inj hc
    exact likewise_update h values
  | toggle index enabled =>
    obtain rfl : index = i := Option.some.inj hc
    exact likewise_beginToggle h enabled
  | add | saveDialog | delete | moveUp | moveDown | relocate | drop => exact nomatch hc

end Editor

end Rulebook
