/-
  Rulebook.Proofs.Editor.Dialogs

  Dialogs while saves overlap: at most one of them is open, the current one, and the end of a save
  does nothing to a dialog that was opened after its command was started (`dialogs_isolated`).

  Whatever is done leads from one editor onward to another (`Editor.Onward`): a dialog that is not
  open is never opened again, and if none but the current one is open, this stays so.  A command
  that stores a draft is under way only when its dialog is not open any more.  So the end of its
  save, which closes that dialog, finds it as it was left.
-/
import Rulebook.Proofs.Dialog.Session
import Rulebook.Proofs.Editor.Serial

namespace Rulebook

namespace Dialog

variable {form : Form} {d d' : Dialog}

/-- Giving several fields their values leaves the dialog in its stage. -/
theorem stage_of_setAll {fields : List (Name × Value)} (h : d.setAll form fields = .ok d') :
    d'.stage = d.stage := by
  induction fields generalizing d with
  | nil => rw [← Except.ok.inj h]
  | cons field rest ih =>
    obtain ⟨⟨d'', told⟩, h_set, h_rest⟩ := bind_eq_ok_iff.1 h
    exact (ih h_rest).trans (stage_of_set h_set)

/-- A dialog whose rule was stored is not open any more. -/
theorem isOpen_of_stored {b b' : Book} {r : Rule} {index : Int} {previous : Option Rule}
    (h : d.commit form b = .ok (d', b', .stored r index previous)) : d'.isOpen = false := by
  obtain ⟨draft, -, h⟩ := bind_eq_ok_iff.1 h
  dsimp only at h
  split at h
  · exact nomatch h
  · split at h
    · rw [← (Prod.mk.inj (Except.ok.inj h)).1]
      rfl
    · exact nomatch h

end Dialog

namespace Editor

/-! ## From one editor to a later one -/

/-- No dialog is open but the current one. -/
def OneOpen (e : Editor) : Prop :=
  ∀ n d, e.dialog? n = some d → d.isOpen = true → e.current = some n

/-- There is a dialog with a number, and it is not open. -/
def Ended (e : Editor) (n : Nat) : Prop :=
  ∃ d, e.dialog? n = some d ∧ d.isOpen = false

/-- From one editor to a later one.  A dialog that is not open is never opened again, and if none
but the current one is open, this stays so. -/
structure Onward (e e' : Editor) : Prop where
  ended : ∀ n, e.Ended n → e'.Ended n
  oneOpen : e.OneOpen → e'.OneOpen

variable {e e' e'' : Editor} {n : Nat} {d : Dialog}

theorem Ended.lt (h : e.Ended n) : n < e.dialogs.length := by
  obtain ⟨d, hd, -⟩ := h
  exact (List.getElem?_eq_some_iff.1 hd).1

/-- A dialog that has ended is not open. -/
theorem Ended.isOpen (h : e.Ended n) (hd : e.dialog? n = some d) : d.isOpen = false := by
  obtain ⟨d', hd', h_closed⟩ := h
  obtain rfl : d' = d := Option.some.inj (hd'.symm.trans hd)
  exact h_closed

theorem Onward.refl (e : Editor) : Onward e e :=
  ⟨fun _ => id, id⟩

theorem Onward.trans (h : Onward e e') (h' : Onward e' e'') : Onward e e'' :=
  ⟨fun n hn => h'.ended n (h.ended n hn), fun h_one => h'.oneOpen (h.oneOpen h_one)⟩

/-- What is not about dialogs does not matter to them. -/
theorem Onward.of_dialogs (h_dialogs : e'.dialogs = e.dialogs) (h_current : e'.current = e.current) :
    Onward e e' := by
  have h_dialog (n : Nat) : e'.dialog? n = e.dialog? n := congrArg (·[n]?) h_dialogs
  refine ⟨fun n ⟨d, hd, h_closed⟩ => ⟨d, (h_dialog n).trans hd, h_closed⟩, fun h_one n d hd => ?_⟩
  rw [h_dialog] at hd
  rw [h_current]
  exact h_one n d hd

/-- A dialog in an editor in which one has been put in the place of another. -/
theorem dialog?_of_withDialog {m : Nat} {d' : Dialog} (h : (e.withDialog n d).dialog? m = some d') :
    m = n ∧ d' = d ∧ n < e.dialogs.length ∨ m ≠ n ∧ e.dialog? m = some d' := by
  by_cases hm : m = n
  · subst hm
    obtain ⟨hlt, h_get⟩ := List.getElem?_eq_some_iff.1 h
    refine .inl ⟨rfl, ?_, ?_⟩
    · rw [← h_get]
      exact List.getElem_set_self _
    · rwa [Editor.withDialog, List.length_set] at hlt
  · refine .inr ⟨hm, ?_⟩
    rwa [dialog?, Editor.withDialog, List.getElem?_set_ne (Ne.symm hm)] at h

theorem dialog?_withDialog_of_ne {m : Nat} (h : m ≠ n) (e : Editor) (d : Dialog) :
    (e.withDialog n d).dialog? m = e.dialog? m :=
  List.getElem?_set_ne h.symm

/-- A dialog may take the place of another one if it is open only where that one is. -/
theorem Onward.withDialog
    (h : ∀ old, e.dialog? n = some old → d.isOpen = true → old.isOpen = true) :
    Onward e (e.withDialog n d) where
  ended m := by
    rintro ⟨d', hd', h_closed⟩
    by_cases hm : m = n
    · -- If the new dialog were open, so would be the one that has ended.
      subst hm
      refine ⟨d, dialog?_withDialog hd' d, Bool.eq_false_iff.2 fun h_open => ?_⟩
      exact absurd (h d' hd' h_open) (Bool.eq_false_iff.1 h_closed)
    · exact ⟨d', (dialog?_withDialog_of_ne hm e d).trans hd', h_closed⟩
  oneOpen h_one m d' hd' h_open := by
    rcases dialog?_of_withDialog hd' with ⟨rfl, rfl, hlt⟩ | ⟨-, hd'⟩
    · have h_old := List.getElem?_eq_getElem hlt
      exact h_one m _ h_old (h _ h_old h_open)
    · exact h_one m d' hd' h_open

theorem Onward.close (e : Editor) (n : Nat) : Onward e (e.withDialog n {}) :=
  .withDialog fun _ _ h_open => nomatch h_open

/-- There need be no current dialog if the one that was current is not open. -/
theorem Onward.leave (h : ∀ n d, e.current = some n → e.dialog? n = some d → d.isOpen = false) :
    Onward e { e with current := none } where
  ended _ := id
  oneOpen h_one n d hd h_open := by
    have h_closed := h n d (h_one n d hd h_open) hd
    exact absurd h_open (Bool.eq_false_iff.1 h_closed)

/-! ## What is done to dialogs -/

theorem onward_closeDialog (e : Editor) : Onward e e.closeDialog := by
  unfold closeDialog
  split
  · exact .refl e
  · rename_i n h_current
    -- Whether or not the current dialog had to be given up, it is not open afterwards.
    have h_leave (e' : Editor) (h : e'.current = some n)
        (h_closed : ∀ d, e'.dialog? n = some d → d.isOpen = false) :
        Onward e' { e' with current := none } := by
      refine .leave fun m d hm hd => ?_
      obtain rfl : n = m := Option.some.inj (h.symm.trans hm)
      exact h_closed d hd
    dsimp only
    split
    · rename_i d hd
      split
      · refine Onward.trans (.close e n) (h_leave _ h_current ?_)
        intro d' hd'
        obtain rfl := Option.some.inj ((dialog?_withDialog hd {}).symm.trans hd')
        rfl
      · rename_i h_open
        refine h_leave e h_current fun d' hd' => ?_
        obtain rfl : d = d' := Option.some.inj (hd.symm.trans hd')
        exact Bool.eq_false_iff.2 h_open
    · rename_i h_none
      exact h_leave e h_current fun d hd => nomatch h_none.symm.trans hd

theorem current_closeDialog (e : Editor) : e.closeDialog.current = none := by
  unfold closeDialog
  split
  · assumption
  · rfl

/-- A dialog that is put behind the others becomes the current one. -/
theorem Onward.append (h : e.current = none) (d : Dialog) :
    Onward e { e with dialogs := e.dialogs ++ [d], current := some e.dialogs.length } where
  ended n hn := by
    obtain ⟨d', hd', h_closed⟩ := hn
    refine ⟨d', ?_, h_closed⟩
    rw [dialog?, List.getElem?_append_left (Ended.lt ⟨d', hd', h_closed⟩)]
    exact hd'
  oneOpen h_one n d' hd' h_open := by
    obtain ⟨hlt, -⟩ := List.getElem?_eq_some_iff.1 hd'
    rw [List.length_append, List.length_singleton] at hlt
    rcases Nat.lt_succ_iff_lt_or_eq.1 hlt with hlt | rfl
    · -- Without a current dialog none of the earlier ones is open.
      rw [dialog?, List.getElem?_append_left hlt] at hd'
      exact nomatch h.symm.trans (h_one n d' hd' h_open)
    · rfl

theorem onward_openDialog (e : Editor) (existing : Option Rule) (index : Int) :
    Onward e (e.openDialog existing index).1 := by
  have h := onward_closeDialog e
  unfold openDialog
  dsimp only
  split
  · split
    · exact h.trans (.append (current_closeDialog e) _)
    · exact h
  · exact h

theorem onward_openEdit (e : Editor) (i : Int) : Onward e (e.openEdit i).1 := by
  unfold openEdit
  split
  · exact .refl e
  · exact onward_openDialog e _ i

theorem onward_setField {name : Name} {value : Value} (h : e.setField n name value = .ok e') :
    Onward e e' := by
  unfold Editor.setField at h
  split at h
  · exact nomatch h
  · rename_i d hd
    obtain ⟨⟨d', told⟩, h_set, h⟩ := bind_eq_ok_iff.1 h
    rw [← Except.ok.inj h]
    refine .withDialog fun old h_old h_open => ?_
    obtain rfl : d = old := Option.some.inj (hd.symm.trans h_old)
    rw [Dialog.isOpen_iff] at h_open ⊢
    exact (Dialog.stage_of_set h_set).symm.trans h_open

theorem onward_releaseDialog (e : Editor) (origin : Origin) : Onward e (e.releaseDialog origin) := by
  cases origin with
  | list => exact .refl e
  | toggle i => exact .refl e
  | dialog n =>
    simp only [releaseDialog]
    split
    · rename_i h_current
      refine (Onward.close e n).trans (.leave fun m d hm hd => ?_)
      obtain rfl : n = m := Option.some.inj (h_current.symm.trans hm)
      rcases dialog?_of_withDialog hd with ⟨-, rfl, -⟩ | ⟨h_ne, -⟩
      · rfl
      · exact absurd rfl h_ne
    · exact .close e n

/-! ## Beginning a command -/

/-- What beginning a command does to dialogs: if it is stored what a dialog has made, the dialog is
not open any more. -/
structure BeginsOnward (e : Editor) (begun : Editor × List Event × Begun) : Prop where
  onward : Onward e begun.1
  ended : ∀ t n, begun.2.2 = .saving t → t.origin = .dialog n → begun.1.Ended n

namespace BeginsOnward

theorem of_onward {begun : Editor × List Event × Begun} (h : Onward e e')
    (h_begun : BeginsOnward e' begun) : BeginsOnward e begun :=
  ⟨h.trans h_begun.onward, h_begun.ended⟩

/-- A command that is over. -/
theorem done {events : List Event} {outcome : Outcome} (h : Onward e e') :
    BeginsOnward e (e', events, .done outcome) :=
  ⟨h, fun _ _ h_saving => nomatch h_saving⟩

theorem settle (e : Editor) (reply : Reply) : BeginsOnward e (e.settle reply) :=
  done (.refl e)

theorem launch (book : Book) (undo : Undo) (origin : Origin) (onSaved onRolledBack : Reply)
    (h_own : ∀ n, origin = .dialog n → e.Ended n) :
    BeginsOnward e (e.launch book undo origin onSaved onRolledBack) := by
  unfold Editor.launch
  split
  · exact done (.of_dialogs rfl rfl)
  · refine ⟨.of_dialogs rfl rfl, fun t n h_saving h_origin => ?_⟩
    obtain rfl := Begun.saving.inj h_saving
    exact h_own n h_origin

end BeginsOnward

theorem beginsOnward_beginSaveDialog (e : Editor) (number : Option Nat) :
    BeginsOnward e (e.beginSaveDialog number) := by
  unfold beginSaveDialog
  split
  · exact .settle e _
  · rename_i n _
    split
    · exact .settle e _
    · rename_i d hd
      split
      · split
        · exact .done (.refl e)
        · exact .settle e _
        · exact .settle e _
        · -- The dialog is committed, and so no more open, before the save begins.
          rename_i d' book r index previous h_commit
          have h_closed := Dialog.isOpen_of_stored h_commit
          have h_left : Onward e (e.withDialog n d') := by
            refine .withDialog fun _ _ h_open => ?_
            exact absurd h_open (Bool.eq_false_iff.1 h_closed)
          refine .of_onward h_left (.launch _ _ _ _ _ fun m hm => ?_)
          obtain rfl := Origin.dialog.inj hm
          exact ⟨d', dialog?_withDialog hd d', h_closed⟩
      · exact .settle e _

theorem beginsOnward_beginFilled (e : Editor) (n : Nat) (values : Value) :
    BeginsOnward e (e.beginFilled n values) := by
  unfold beginFilled
  split
  · exact .settle e _
  · rename_i d hd
    split
    · exact .done (.refl e)
    · exact .of_onward (onward_closeDialog e) (.settle _ _)
    · rename_i filled h_filled
      obtain ⟨fields, -, h_fill⟩ := map_eq_ok_iff.1 h_filled
      have h_left : Onward e (e.withDialog n filled) := by
        refine .withDialog fun old h_old h_open => ?_
        obtain rfl : d = old := Option.some.inj (hd.symm.trans h_old)
        rw [Dialog.isOpen_iff] at h_open ⊢
        exact (Dialog.stage_of_setAll h_fill).symm.trans h_open
      have h := beginsOnward_beginSaveDialog (e.withDialog n filled) (some n)
      refine .of_onward h_left ?_
      generalize (e.withDialog n filled).beginSaveDialog (some n) = begun at h ⊢
      obtain ⟨e', events, outcome | t⟩ := begun
      · cases outcome with
        | error error => exact h
        | ok reply =>
          -- A dialog that the command leaves open is given up.
          dsimp only
          split
          · exact .done (h.onward.trans (onward_closeDialog e'))
          · exact h
      · exact h

theorem beginsOnward_beginDelete (e : Editor) (i : Int) (confirmed : Option Bool) :
    BeginsOnward e (e.beginDelete i confirmed) := by
  unfold beginDelete
  split
  · exact .settle e _
  · split
    · exact .settle e _
    · split
      · exact .done (.refl e)
      · rename_i book removed _
        dsimp only
        split
        · exact .done (.refl e)
        · have h := BeginsOnward.launch (e := e) book (.insertAt i removed) .list (.ofSaved i)
            (.ofRolledBack i) nofun
          exact ⟨h.onward, h.ended⟩

theorem beginsOnward_beginMove (e : Editor) (i : Int) (moved : Option (Book × Int × Undo)) :
    BeginsOnward e (e.beginMove i moved) := by
  unfold beginMove
  split
  · exact .settle e _
  · split
    · exact .settle e _
    · exact .launch _ _ _ _ _ nofun

theorem beginsOnward_beginToggle (e : Editor) (i : Int) (enabled : Value) :
    BeginsOnward e (e.beginToggle i enabled) := by
  unfold beginToggle
  split
  · exact .settle e _
  · split
    · exact .launch _ _ _ _ _ nofun
    · split
      · exact .done (.refl e)
      · exact .settle e _

theorem beginsOnward_begin (e : Editor) (c : Command) : BeginsOnward e (e.begin c) := by
  cases c with
  | add values =>
    have h_opened := onward_openDialog e none (-1)
    simp only [begin, openAdd]
    generalize e.openDialog none (-1) = opened at h_opened ⊢
    obtain ⟨e', error | n⟩ := opened
    · exact .done h_opened
    · exact .of_onward h_opened (beginsOnward_beginFilled e' n values)
  | update i values =>
    have h_opened := onward_openEdit e i
    simp only [begin]
    generalize e.openEdit i = opened at h_opened ⊢
    obtain ⟨e', (error | error) | n⟩ := opened
    · exact .done h_opened
    · exact .done h_opened
    · exact .of_onward h_opened (beginsOnward_beginFilled e' n values)
  | saveDialog number => exact beginsOnward_beginSaveDialog e number
  | delete i confirmed => exact beginsOnward_beginDelete e i confirmed
  | moveUp i => exact beginsOnward_beginMove e i _
  | moveDown i => exact beginsOnward_beginMove e i _
  | relocate source target after => exact beginsOnward_beginMove e source _
  | drop target after =>
    have h_put : Onward e e.endDrag := .of_dialogs rfl rfl
    simp only [begin]
    split
    · exact .of_onward h_put (.settle _ _)
    · exact .of_onward h_put (beginsOnward_beginMove e.endDrag _ _)
  | toggle i enabled => exact beginsOnward_beginToggle e i enabled

/-! ## Ending a command -/

theorem onward_finish (e : Editor) (t : Ticket) (saved : Bool) :
    Onward e (e.finish t saved).1 := by
  obtain ⟨saver, h_left | h_released⟩ := finish_cases e t saved
  · rw [h_left]
    exact .of_dialogs rfl rfl
  · have h_saver : Onward e { e with saver } := .of_dialogs rfl rfl
    rw [h_released]
    exact h_saver.trans (onward_releaseDialog _ t.origin)

/-- The end of a save reaches no dialog but the one that its command came from. -/
theorem dialog?_finish {t : Ticket} (h : t.origin ≠ .dialog n) (saved : Bool) :
    (e.finish t saved).1.dialog? n = e.dialog? n := by
  obtain ⟨saver, h_left | h_released⟩ := finish_cases e t saved
  · rw [h_left]
    rfl
  · rw [h_released]
    cases h_origin : t.origin with
    | list => rfl
    | toggle i => rfl
    | dialog m =>
      have hm : n ≠ m := fun hm => h (by rw [h_origin, hm])
      simp only [releaseDialog]
      split
      · exact dialog?_withDialog_of_ne hm { e with saver } {}
      · exact dialog?_withDialog_of_ne hm { e with saver } {}

end Editor

/-! ## Runs -/

namespace Ledger

open Workbench (Act)

/-- From one ledger to a later one.  The saves that are under way in addition are those of commands
that were started since, and of which no dialog is open any more. -/
structure Onward (l l' : Ledger) : Prop where
  editor : l.editor.Onward l'.editor
  started : l.started ≤ l'.started
  pending : ∀ p ∈ l'.pending, p ∈ l.pending ∨
    l.started ≤ p.1 ∧ p.1 < l'.started ∧ ∀ n, p.2.origin = .dialog n → l'.editor.Ended n

/-- No dialog is open but the current one, and none that a save under way came from. -/
structure Orderly (l : Ledger) : Prop where
  oneOpen : l.editor.OneOpen
  numbered : ∀ p ∈ l.pending, p.1 < l.started
  ended : ∀ p ∈ l.pending, ∀ n, p.2.origin = .dialog n → l.editor.Ended n

variable {l l' l'' : Ledger}

theorem Onward.refl (l : Ledger) : Onward l l :=
  ⟨.refl l.editor, Nat.le_refl _, fun _ => .inl⟩

theorem Onward.trans (h : Onward l l') (h' : Onward l' l'') : Onward l l'' where
  editor := h.editor.trans h'.editor
  started := Nat.le_trans h.started h'.started
  pending p hp := by
    rcases h'.pending p hp with hp | ⟨h_first, h_last, h_ended⟩
    · refine (h.pending p hp).imp_right fun ⟨h_first, h_last, h_ended⟩ => ?_
      refine ⟨h_first, Nat.lt_of_lt_of_le h_last h'.started, fun n hn => ?_⟩
      exact h'.editor.ended n (h_ended n hn)
    · exact .inr ⟨Nat.le_trans h.started h_first, h_last, h_ended⟩

/-- What does nothing to the saves that are under way. -/
theorem Onward.of_editor {editor : Editor} (h : l.editor.Onward editor) :
    Onward l { l with editor } :=
  ⟨h, Nat.le_refl _, fun _ => .inl⟩

/-- **Whatever is done leads onward.** -/
theorem onward_step (l : Ledger) (a : Act) : l.Onward (l.step a) := by
  cases a with
  | openAdd => exact .of_editor (Editor.onward_openDialog l.editor none (-1))
  | openEdit i => exact .of_editor (Editor.onward_openEdit l.editor i)
  | setField n name value =>
    refine .of_editor ?_
    simp only [Workbench.step]
    split
    · rename_i h_set
      exact Editor.onward_setField h_set
    · exact .refl l.editor
  | closeDialog => exact .of_editor (Editor.onward_closeDialog l.editor)
  | startDrag i =>
    refine .of_editor ?_
    simp only [Workbench.step, Workbench.editor_withEditor, Editor.startDrag]
    split
    · exact .of_dialogs rfl rfl
    · exact .refl l.editor
  | endDrag | attach | redraw => exact .of_editor (.of_dialogs rfl rfl)
  | start c =>
    have h := Editor.beginsOnward_begin l.editor c
    simp only [step]
    generalize l.editor.begin c = begun at h ⊢
    obtain ⟨e, events, outcome | t⟩ := begun
    · exact ⟨h.onward, Nat.le_succ _, fun _ => .inl⟩
    · -- The save of this very command is the one that comes in addition.
      refine ⟨h.onward, Nat.le_succ _, fun p hp => ?_⟩
      rcases List.mem_cons.1 hp with rfl | hp
      · exact .inr ⟨Nat.le_refl _, Nat.lt_succ_self _, fun n hn => h.ended t n rfl hn⟩
      · exact .inl hp
  | finish k saved =>
    simp only [step]
    split
    · exact .refl l
    · rename_i n t _
      refine ⟨Editor.onward_finish l.editor t saved, Nat.le_refl _, fun p hp => ?_⟩
      exact .inl (List.mem_of_mem_eraseIdx hp)

theorem onward_run (l : Ledger) (acts : List Act) : l.Onward (acts.foldl step l) := by
  induction acts generalizing l with
  | nil => exact .refl l
  | cons a rest ih => exact (onward_step l a).trans (ih (l.step a))

theorem Orderly.onward (h : l.Orderly) (h' : l.Onward l') : l'.Orderly where
  oneOpen := h'.editor.oneOpen h.oneOpen
  numbered p hp := by
    rcases h'.pending p hp with hp | ⟨-, h_last, -⟩
    · exact Nat.lt_of_lt_of_le (h.numbered p hp) h'.started
    · exact h_last
  ended p hp n hn := by
    rcases h'.pending p hp with hp | ⟨-, -, h_ended⟩
    · exact h'.editor.ended n (h.ended p hp n hn)
    · exact h_ended n hn

theorem orderly_new (settings : Settings) (form : Form) (renderer : Option String)
    (rules : List Rule) : Orderly { editor := (Editor.new settings form renderer rules).1 } where
  oneOpen _ _ hd := nomatch hd
  numbered _ hp := absurd hp List.not_mem_nil
  ended _ hp := absurd hp List.not_mem_nil

/-- **Dialogs are isolated from saves.**  Dialogs are opened and closed, fields are given their
values and commands are started, while earlier saves are under way or not; saves end in any order,
and whatever is done to undo a failed one may be refused.  No dialog is open at any time but the
current one.  When a save ends, in whatever way, no dialog that was opened after its command was
started is another one afterwards, nor is a dialog that is open, which stays the current one; and
the dialog that the command came from can be closed by then. -/
theorem dialogs_isolated (settings : Settings) (form : Form) (renderer : Option String)
    (rules : List Rule) (acts : List Act) :
    let start : Ledger := { editor := (Editor.new settings form renderer rules).1 }
    let now := acts.foldl step start
    now.editor.OneOpen ∧
      ∀ before c between k t saved, acts = before ++ .start c :: between →
        now.pending[k]? = some ((before.foldl step start).started, t) →
        let begun := (before.foldl step start).step (.start c)
        let ended := now.step (.finish k saved)
        (∀ n, begun.editor.dialogs.length ≤ n → ended.editor.dialog? n = now.editor.dialog? n) ∧
          (∀ n d, now.editor.dialog? n = some d → d.isOpen = true →
            ended.editor.dialog? n = some d ∧ ended.editor.current = some n) ∧
          ∀ n, t.origin = .dialog n → ∃ d, now.editor.dialog? n = some d ∧ d.close = .ok {} := by
  intro start now
  have h_orderly (acts : List Act) : (acts.foldl step start).Orderly :=
    (orderly_new settings form renderer rules).onward (onward_run start acts)
  refine ⟨(h_orderly acts).oneOpen, ?_⟩
  intro before c between k t saved h_acts h_pending begun ended
  have h_mem : ((before.foldl step start).started, t) ∈ now.pending :=
    List.mem_of_getElem? h_pending
  have h_editor : ended.editor = (now.editor.finish t saved).1 := by
    simp only [ended, step, h_pending]
  have h_now : begun.Onward now := by
    have h_split : now = between.foldl step begun := by
      simp only [now, h_acts, List.foldl_append]
      rfl
    rw [h_split]
    exact onward_run begun between
  -- The save was under way as soon as the command was started, since commands that are started
  -- later have other numbers; and its dialog was not open any more by then.
  have h_own (n : Nat) (hn : t.origin = .dialog n) : begun.editor.Ended n := by
    have h_begun : begun.Orderly := (h_orderly before).onward (onward_step _ (.start c))
    have h_started : begun.started = (before.foldl step start).started + 1 :=
      started_step _ (.start c)
    rcases h_now.pending _ h_mem with h_mem | ⟨h_later, -⟩
    · exact h_begun.ended _ h_mem n hn
    · exact absurd (h_started ▸ h_later) (Nat.not_succ_le_self _)
  have h_ended (n : Nat) (hn : t.origin = .dialog n) : now.editor.Ended n :=
    h_now.editor.ended n (h_own n hn)
  refine ⟨fun n h_later => ?_, fun n d hd h_open => ?_, fun n hn => ?_⟩
  · rw [h_editor]
    refine Editor.dialog?_finish (fun hn => ?_) saved
    exact absurd (h_own n hn).lt (Nat.not_lt.2 h_later)
  · have h_other : t.origin ≠ .dialog n := by
      intro hn
      exact absurd h_open (Bool.eq_false_iff.1 ((h_ended n hn).isOpen hd))
    have h_same : ended.editor.dialog? n = some d := by
      rw [h_editor, Editor.dialog?_finish h_other, hd]
    have h_one : ended.editor.OneOpen :=
      (onward_step now (.finish k saved)).editor.oneOpen (h_orderly acts).oneOpen
    exact ⟨h_same, h_one n d h_same h_open⟩
  · obtain ⟨d, hd, h_closed⟩ := h_ended n hn
    refine ⟨d, hd, ?_⟩
    rw [Dialog.close, h_closed, if_neg Bool.false_ne_true]

/-- While the rule of a dialog is being saved another dialog is opened, and the save fails. -/
theorem dialogs_isolated_of_failed :
    let form : Form := ⟨Headers.schema, none, none⟩
    let start : Ledger := { editor := (Editor.new {} form none [.onValue "a"]).1 }
    let acts : List Act := [.openEdit 0, .start (.saveDialog none), .openAdd]
    let now := acts.foldl step start
    let ended := now.step (.finish 0 false)
    (now.pending.map fun p => (p.1, p.2.origin)) = [(0, .dialog 0)] ∧
      (now.editor.dialog? 1).any Dialog.isOpen = true ∧ now.editor.OneOpen ∧
      ended.editor.dialog? 1 = now.editor.dialog? 1 ∧ ended.editor.current = some 1 := by
  intro form start acts now ended
  obtain ⟨h_one, h_isolated⟩ := dialogs_isolated {} form none [.onValue "a"] acts
  have h_under_way : (now.pending.map fun p => (p.1, p.2.origin)) = [(0, .dialog 0)] := by decide
  have h_open : (now.editor.dialog? 1).any Dialog.isOpen = true := by decide
  obtain ⟨t, h_pending⟩ : ∃ t, now.pending[0]? = some (0, t) := by
    obtain ⟨⟨number, t⟩, h_only, h_ticket⟩ := List.map_eq_singleton_iff.1 h_under_way
    obtain ⟨rfl, -⟩ := Prod.mk.inj h_ticket
    exact ⟨t, by rw [h_only]; rfl⟩
  obtain ⟨h_later, h_current, -⟩ :=
    h_isolated [.openEdit 0] (.saveDialog none) [.openAdd] 0 t false rfl h_pending
  obtain ⟨d, hd, h_open_d⟩ := (Option.any_eq_true _ _).1 h_open
  refine ⟨h_under_way, h_open, h_one, ?_, ?_⟩
  · simp only [ended, now, start]
    exact h_later 1 (by decide)
  · simp only [ended, now, start]
    exact (h_current 1 d hd h_open_d).2

end Ledger

end Rulebook
