/-
  Rulebook.Proofs.Editor.Agree

  What a command of the list comes to follows from the settings, the form, the list and the key
  that it is stored under (`agrees_begin`).  Which dialogs there are or were, what is held, where
  the list is drawn and how many saves are under way does not matter to it.

  A command of the list is one that is given all that it needs: not the drop of what is held, and
  not the commit of a dialog.  So whatever is done with dialogs and with the gesture between two
  commands of the list does not matter to the second one (`Workbench.sameWork_of_isAside`).
-/
import Rulebook.Proofs.Editor.Rollback

namespace Rulebook

namespace Editor

/-- Two editors have the same list to work on, and work on it in the same way. -/
structure SameWork (e e' : Editor) : Prop where
  settings : e'.settings = e.settings
  form : e'.form = e.form
  book : e'.book = e.book
  key : e'.saver.key = e.saver.key

variable {e e' : Editor}

namespace SameWork

theorem refl (e : Editor) : SameWork e e := ⟨rfl, rfl, rfl, rfl⟩

theorem symm (h : SameWork e e') : SameWork e' e :=
  ⟨h.settings.symm, h.form.symm, h.book.symm, h.key.symm⟩

theorem trans {e'' : Editor} (h : SameWork e e') (h' : SameWork e' e'') : SameWork e e'' :=
  ⟨h'.settings.trans h.settings, h'.form.trans h.form, h'.book.trans h.book, h'.key.trans h.key⟩

end SameWork

theorem SameBook.sameWork (h : SameBook e e') : SameWork e e' :=
  ⟨h.settings, h.form, h.book, h.sameStore.key⟩

theorem SameWork.closeDialog (h : SameWork e e') : SameWork e.closeDialog e'.closeDialog :=
  ((sameBook_closeDialog e).sameWork.symm.trans h).trans (sameBook_closeDialog e').sameWork

/-! ## Beginnings that agree -/

/-- Two tickets stand for the same change, which may have come from different dialogs. -/
structure Ticket.Alike (t t' : Ticket) : Prop where
  payload : t'.payload = t.payload
  undo : t'.undo = t.undo
  onSaved : t'.onSaved = t.onSaved
  onRolledBack : t'.onRolledBack = t.onRolledBack

/-- Two beginnings come to the same. -/
inductive Begun.Alike : Begun → Begun → Prop where
  | done (outcome : Outcome) : Alike (.done outcome) (.done outcome)
  | saving {t t' : Ticket} (h : t.Alike t') : Alike (.saving t) (.saving t')

/-- Two editors have begun something, with the same list and the same answer. -/
structure Agrees (x y : Editor × List Event × Begun) : Prop where
  work : SameWork x.1 y.1
  events : y.2.1 = x.2.1
  begun : x.2.2.Alike y.2.2

theorem agrees_done (h : SameWork e e') (events : List Event) (outcome : Outcome) :
    Agrees (e, events, .done outcome) (e', events, .done outcome) :=
  ⟨h, rfl, .done outcome⟩

theorem agrees_settle (h : SameWork e e') (reply : Reply) :
    Agrees (e.settle reply) (e'.settle reply) :=
  agrees_done h [] (.ok reply)

theorem agrees_launch (h : SameWork e e') (book : Book) (undo : Undo) (origin origin' : Origin)
    (onSaved onRolledBack : Reply) :
    Agrees (e.launch book undo origin onSaved onRolledBack)
      (e'.launch book undo origin' onSaved onRolledBack) := by
  cases h_name : e.saver.key.name? with
  | none =>
    have h_name' : e'.saver.key.name? = none := by rw [h.key, h_name]
    simp only [launch, Saver.launch, h_name, h_name']
    exact ⟨⟨h.settings, h.form, rfl, h.key⟩, rfl, .done _⟩
  | some name =>
    have h_name' : e'.saver.key.name? = some name := by rw [h.key, h_name]
    simp only [launch, Saver.launch, h_name, h_name']
    exact ⟨⟨h.settings, h.form, rfl, h.key⟩, rfl, .saving ⟨rfl, rfl, rfl, rfl⟩⟩

theorem invalidIndex_congr (h : SameWork e e') (error : Book.Error) :
    e'.invalidIndex error = e.invalidIndex error := by
  rw [invalidIndex, invalidIndex, h.settings]

theorem dialogError_congr (h : SameWork e e') (error : Book.Error) :
    e'.dialogError error = e.dialogError error := by
  rw [dialogError, dialogError, invalidIndex_congr h]

/-! ## Each command -/

theorem agrees_beginDelete (h : SameWork e e') (i : Int) (confirmed : Option Bool) :
    Agrees (e.beginDelete i confirmed) (e'.beginDelete i confirmed) := by
  unfold beginDelete
  rw [h.settings, h.book]
  split
  · exact agrees_settle h _
  · split
    · exact agrees_settle h _
    · split
      · rw [invalidIndex_congr h]
        exact agrees_done h _ _
      · dsimp only
        split
        · exact agrees_done h _ _
        · obtain ⟨h_work, -, h_begun⟩ :=
            agrees_launch h _ (.insertAt i _) .list .list (.ofSaved i) (.ofRolledBack i)
          exact ⟨h_work, rfl, h_begun⟩

theorem agrees_beginMove (h : SameWork e e') (i : Int) (moved : Option (Book × Int × Undo)) :
    Agrees (e.beginMove i moved) (e'.beginMove i moved) := by
  unfold beginMove
  rw [h.settings]
  split
  · exact agrees_settle h _
  · split
    · exact agrees_settle h _
    · exact agrees_launch h ..

theorem agrees_beginToggle (h : SameWork e e') (i : Int) (enabled : Value) :
    Agrees (e.beginToggle i enabled) (e'.beginToggle i enabled) := by
  unfold beginToggle
  rw [h.settings, h.book]
  split
  · exact agrees_settle h _
  · split
    · exact agrees_launch h ..
    · split
      · rw [invalidIndex_congr h]
        exact agrees_done h _ _
      · exact agrees_settle h _

/-! ## Commands that open a dialog of their own -/

theorem dialog?_withDialog {n : Nat} {d : Dialog} (h : e.dialog? n = some d) (d' : Dialog) :
    (e.withDialog n d').dialog? n = some d' := by
  obtain ⟨hlt, -⟩ := List.getElem?_eq_some_iff.1 h
  exact List.getElem?_set_self hlt

/-- The dialog that a form opens, if it can open one. -/
def opened? (form : Form) (existing : Option Rule) (index : Int) : Option Dialog :=
  if form.schema.hasIndex then (Dialog.open form {} existing index).toOption else none

/-- Whether a dialog can be opened is up to the form, and so is the dialog. -/
theorem openDialog_cases (e : Editor) (existing : Option Rule) (index : Int) :
    match opened? e.form existing index with
    | none => (e.openDialog existing index).2 = .error (.reading .notName)
    | some d => ∃ n, (e.openDialog existing index).2 = .ok n ∧
        (e.openDialog existing index).1.dialog? n = some d := by
  have h_form : e.closeDialog.form = e.form := (sameBook_closeDialog e).form
  unfold openDialog opened?
  dsimp only
  rw [h_form]
  by_cases h_index : e.form.schema.hasIndex = true
  · rw [if_pos h_index, if_pos h_index]
    cases Dialog.open e.form {} existing index with
    | error error => rfl
    | ok d => exact ⟨_, rfl, List.getElem?_concat_length⟩
  · rw [if_neg h_index, if_neg h_index]

theorem open_of_opened? {form : Form} {existing : Option Rule} {index : Int} {d : Dialog}
    (h : opened? form existing index = some d) :
    ({} : Dialog).open form existing index = .ok d := by
  unfold opened? at h
  split at h
  · cases h_open : ({} : Dialog).open form existing index with
    | error error =>
      rw [h_open] at h
      exact nomatch h
    | ok d' =>
      rw [h_open] at h
      rw [Option.some.inj h]
  · exact nomatch h

/-- The dialog that was opened is the one with the number that is the answer. -/
theorem dialog?_openDialog {existing : Option Rule} {index : Int} {n : Nat}
    (h : (e.openDialog existing index).2 = .ok n) :
    ∃ d, (e.openDialog existing index).1.dialog? n = some d ∧
      ({} : Dialog).open e.form existing index = .ok d := by
  have h_cases := openDialog_cases e existing index
  cases h_opened : opened? e.form existing index with
  | none =>
    rw [h_opened] at h_cases
    exact nomatch h_cases.symm.trans h
  | some d =>
    rw [h_opened] at h_cases
    obtain ⟨n', h_ok, hd⟩ := h_cases
    obtain rfl : n' = n := Except.ok.inj (h_ok.symm.trans h)
    exact ⟨d, hd, open_of_opened? h_opened⟩

/-- Two editors have opened dialogs that are alike, or have failed to in the same way. -/
def OpensLike (x y : Editor × Except Error Nat) : Prop :=
  (∃ error, x.2 = .error error ∧ y.2 = .error error) ∨
    ∃ n n' d, x.2 = .ok n ∧ y.2 = .ok n' ∧ x.1.dialog? n = some d ∧ y.1.dialog? n' = some d

/-- Two editors with one form open dialogs that are alike. -/
theorem opensLike_openDialog (h_form : e'.form = e.form) (existing : Option Rule) (index : Int) :
    OpensLike (e.openDialog existing index) (e'.openDialog existing index) := by
  have h := openDialog_cases e existing index
  have h' := openDialog_cases e' existing index
  rw [h_form] at h'
  cases h_opened : opened? e.form existing index with
  | none =>
    rw [h_opened] at h h'
    exact .inl ⟨_, h, h'⟩
  | some d =>
    rw [h_opened] at h h'
    obtain ⟨n, h_ok, h_dialog⟩ := h
    obtain ⟨n', h_ok', h_dialog'⟩ := h'
    exact .inr ⟨n, n', d, h_ok, h_ok', h_dialog, h_dialog'⟩

/-- They do so while they have the same list to work on. -/
def Opens (x y : Editor × Except Error Nat) : Prop :=
  SameWork x.1 y.1 ∧ OpensLike x y

theorem opens_openDialog (h : SameWork e e') (existing : Option Rule) (index : Int) :
    Opens (e.openDialog existing index) (e'.openDialog existing index) := by
  have h_left := (sameBook_openDialog e existing index).sameWork
  have h_right := (sameBook_openDialog e' existing index).sameWork
  exact ⟨(h_left.symm.trans h).trans h_right, opensLike_openDialog h.form existing index⟩

theorem agrees_beginSaveDialog (h : SameWork e e') {n n' : Nat} {d : Dialog}
    (hd : e.dialog? n = some d) (hd' : e'.dialog? n' = some d) :
    Agrees (e.beginSaveDialog (some n)) (e'.beginSaveDialog (some n')) := by
  unfold beginSaveDialog
  simp only [Option.some_or, hd, hd']
  rw [h.form, h.book]
  split
  · split
    · rw [dialogError_congr h]
      exact agrees_done h _ _
    · exact agrees_settle h _
    · exact agrees_settle h _
    · -- The dialogs are put back under their own numbers.
      rename_i d' _ _ _ _ _
      have h_dialogs : SameWork (e.withDialog n d') (e'.withDialog n' d') :=
        ⟨h.settings, h.form, h.book, h.key⟩
      exact agrees_launch h_dialogs ..
  · exact agrees_settle h _

theorem agrees_beginFilled (h : SameWork e e') {n n' : Nat} {d : Dialog}
    (hd : e.dialog? n = some d) (hd' : e'.dialog? n' = some d) (values : Value) :
    Agrees (e.beginFilled n values) (e'.beginFilled n' values) := by
  unfold beginFilled
  simp only [hd, hd']
  rw [h.form]
  split
  · exact agrees_done h _ _
  · exact agrees_settle h.closeDialog _
  · rename_i d' _
    have h_save : Agrees ((e.withDialog n d').beginSaveDialog (some n))
        ((e'.withDialog n' d').beginSaveDialog (some n')) := by
      have h_dialogs : SameWork (e.withDialog n d') (e'.withDialog n' d') :=
        ⟨h.settings, h.form, h.book, h.key⟩
      exact agrees_beginSaveDialog h_dialogs (dialog?_withDialog hd d') (dialog?_withDialog hd' d')
    generalize (e.withDialog n d').beginSaveDialog (some n) = x at h_save ⊢
    generalize (e'.withDialog n' d').beginSaveDialog (some n') = y at h_save ⊢
    obtain ⟨e₁, events, begun⟩ := x
    obtain ⟨e₂, events', begun'⟩ := y
    obtain ⟨h_work, h_events, h_begun⟩ := h_save
    cases h_begun with
    | saving h_ticket => exact ⟨h_work, h_events, .saving h_ticket⟩
    | done outcome =>
      cases outcome with
      | error error => exact ⟨h_work, h_events, .done _⟩
      | ok reply =>
        refine ⟨?_, h_events, .done _⟩
        -- Whether one of them gives its dialog up does not matter to the list.
        have given_up (e : Editor) (p : Bool) :
            SameWork e (if p then e.closeDialog else e) := by
          cases p with
          | true => exact (sameBook_closeDialog e).sameWork
          | false => exact .refl e
        exact ((given_up e₁ _).symm.trans h_work).trans (given_up e₂ _)

/-- Whether a command is given all that it needs. -/
def Command.IsOfList : Command → Prop
  | .saveDialog _ | .drop .. => False
  | _ => True

/-- **A command of the list comes to the same** in two editors that have the same list, whatever
else they have. -/
theorem agrees_begin (h : SameWork e e') {c : Command} (hc : c.IsOfList) :
    Agrees (e.begin c) (e'.begin c) := by
  cases c with
  | add values =>
    have h_opens := opens_openDialog h none (-1)
    simp only [begin, openAdd]
    generalize e.openDialog none (-1) = x at h_opens ⊢
    generalize e'.openDialog none (-1) = y at h_opens ⊢
    obtain ⟨e₁, result⟩ := x
    obtain ⟨e₂, result'⟩ := y
    obtain ⟨h_work, ⟨error, rfl, rfl⟩ | ⟨n, n', d, rfl, rfl, hd, hd'⟩⟩ := h_opens
    · exact agrees_done h_work _ _
    · exact agrees_beginFilled h_work hd hd' values
  | update i values =>
    have h_opens : Opens (e.openEdit i) (e'.openEdit i) := by
      unfold openEdit
      rw [h.book]
      split
      · exact ⟨h, .inl ⟨_, rfl, rfl⟩⟩
      · exact opens_openDialog h _ i
    simp only [begin]
    generalize e.openEdit i = x at h_opens ⊢
    generalize e'.openEdit i = y at h_opens ⊢
    obtain ⟨e₁, result⟩ := x
    obtain ⟨e₂, result'⟩ := y
    obtain ⟨h_work, ⟨error, rfl, rfl⟩ | ⟨n, n', d, rfl, rfl, hd, hd'⟩⟩ := h_opens
    · cases error with
      | book error =>
        simp only [invalidIndex_congr h_work]
        exact agrees_done h_work _ _
      | reading error => exact agrees_done h_work _ _
    · exact agrees_beginFilled h_work hd hd' values
  | delete i confirmed => exact agrees_beginDelete h i confirmed
  | moveUp i =>
    simp only [begin, h.book]
    exact agrees_beginMove h i _
  | moveDown i =>
    simp only [begin, h.book]
    exact agrees_beginMove h i _
  | relocate source target after =>
    simp only [begin, beginRelocate, h.book]
    exact agrees_beginMove h source _
  | toggle i enabled => exact agrees_beginToggle h i enabled
  | saveDialog number => exact hc.elim
  | drop target after => exact hc.elim

/-! ## Ending a save -/

/-- The end of a save leaves dialogs alone, or closes the one that its command came from. -/
theorem finish_cases (e : Editor) (t : Ticket) (saved : Bool) :
    ∃ saver, (e.finish t saved).1 = { e with saver } ∨
      (e.finish t saved).1 = releaseDialog { e with saver } t.origin := by
  unfold finish
  generalize e.saver.finish Undo.run (.undo t.undo) saved = ended
  obtain ⟨saver, events, result⟩ := ended
  cases result with
  | saved => exact ⟨saver, .inr rfl⟩
  | rolledBack => exact ⟨saver, .inr rfl⟩
  | stuck error => exact ⟨saver, .inl rfl⟩

theorem form_finish (e : Editor) (t : Ticket) (saved : Bool) :
    (e.finish t saved).1.form = e.form := by
  obtain ⟨saver, h_left | h_released⟩ := finish_cases e t saved
  · rw [h_left]
  · rw [h_released]
    exact (sameBook_releaseDialog _ t.origin).form

theorem form_run (e : Editor) (c : Command) (save : Value → Bool) :
    (e.run c save).1.form = e.form := by
  have h_form := (begins_begin e c).form
  unfold run
  generalize e.begin c = begun at h_form
  obtain ⟨after, events, outcome | t⟩ := begun
  · exact h_form
  · exact (form_finish after t _).trans h_form

/-- The end of a save changes neither the key nor the renderer. -/
theorem sameStore_finish (e : Editor) (t : Ticket) (saved : Bool) :
    SameStore e (e.finish t saved).1 := by
  have h_release (b : Book) : SameStore e ((e.landed b).releaseDialog t.origin) :=
    (sameStore_landed e b).trans (sameBook_releaseDialog _ _).sameStore
  cases saved with
  | true =>
    rw [finish_saved]
    exact h_release e.book
  | false =>
    cases h_run : t.undo.run e.book with
    | mk b outcome =>
      cases outcome with
      | ok =>
        rw [finish_of_undone h_run]
        exact h_release b
      | error error =>
        rw [finish_of_stuck h_run]
        exact sameStore_landed e b

/-- The end of a save that has succeeded leaves the list and the way to work on it alone. -/
theorem sameWork_finish_saved (e : Editor) (t : Ticket) : SameWork e (e.finish t true).1 := by
  have h_landed : SameWork e (e.landed e.book) := ⟨rfl, rfl, rfl, rfl⟩
  rw [finish_saved]
  exact h_landed.trans (sameBook_releaseDialog _ _).sameWork

end Editor

/-! ## Whatever is done between two commands -/

namespace Workbench

/-- Whether an act is neither the start of a command nor the end of a save. -/
def IsAside : Act → Prop
  | .start _ | .finish .. => False
  | _ => True

instance : (a : Act) → Decidable (IsAside a)
  | .start _ | .finish .. => .isFalse id
  | .openAdd | .openEdit _ | .setField .. | .closeDialog | .startDrag _ | .endDrag | .attach _
  | .redraw => .isTrue trivial

/-- Whatever is done between two commands leaves the list and the way to work on it alone, and
answers nothing. -/
theorem sameWork_of_isAside (w : Workbench) {a : Act} (h : IsAside a) :
    Editor.SameWork w.editor (w.step a).1.editor ∧ (w.step a).2.outcome = none := by
  cases a with
  | openAdd => exact ⟨(Editor.sameBook_openDialog w.editor none (-1)).sameWork, rfl⟩
  | openEdit i => exact ⟨(Editor.sameBook_openEdit w.editor i).sameWork, rfl⟩
  | setField n name value =>
    simp only [step]
    split
    · rename_i h_set
      exact ⟨(sameBook_setField h_set).sameWork, rfl⟩
    · exact ⟨.refl _, rfl⟩
  | closeDialog => exact ⟨(Editor.sameBook_closeDialog w.editor).sameWork, rfl⟩
  | startDrag i =>
    simp only [step, Editor.startDrag]
    split
    · exact ⟨⟨rfl, rfl, rfl, rfl⟩, trivial⟩
    · exact ⟨⟨rfl, rfl, rfl, rfl⟩, trivial⟩
  | endDrag => exact ⟨⟨rfl, rfl, rfl, rfl⟩, rfl⟩
  | attach renderer => exact ⟨⟨rfl, rfl, rfl, rfl⟩, rfl⟩
  | redraw => exact ⟨.refl _, rfl⟩
  | start c => exact h.elim
  | finish k saved => exact h.elim

end Workbench

end Rulebook
