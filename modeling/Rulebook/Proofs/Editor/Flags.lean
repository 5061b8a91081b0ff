/-
  Rulebook.Proofs.Editor.Flags

  Who changes the flags of the rules, if rules are edited in dialogs and switched on and off, and
  none is added, deleted or moved.

  A dialog does not show the flag of its rule.  It has a copy of it, which was taken when the dialog
  was opened, and the rule that it stores has the flag of the copy.  So if every dialog finds the
  flag that it was opened with when its rule is stored, the flags are those that were set last; and
  if one does not, they are not (`flags_iff_timely`).

  To say what was set last the flags are kept in a list beside the desk, which nothing changes but a
  command that sets a flag and is answered as saved.  Beside it stands what each dialog was opened
  with (`Tally`).
-/
import Rulebook.Proofs.Dialog.Checked
import Rulebook.Proofs.Editor.Arranging
import Rulebook.Proofs.Editor.Dialogs
import Rulebook.Proofs.Editor.Overtaking

namespace Rulebook

open Arrangement (at? at?_eq_some_iff)

/-! ## The flag of a rule that is made -/

namespace Rule

theorem enabled_withFlag {r : Rule} (h : r.isFinal = false) (value : Value) :
    (r.withFlag value).enabled = value := by
  unfold withFlag
  rw [dif_pos (isFinal_eq_false_iff.1 h)]

end Rule

namespace Dialog

variable {form : Form} {d d' : Dialog} {draft : Draft}

/-! ## The copy that a dialog has -/

/-- The position of the rule that a dialog is of and the copy of its flag, as long as the dialog has
a draft. -/
def copy? (d : Dialog) : Option (Int × Value) :=
  d.draft.map fun draft => (draft.index, draft.originalEnabled)

theorem copy?_of_open {r : Rule} {i : Int} (h : d.open form (some r) i = .ok d') :
    d'.copy? = some (i, r.enabled) := by
  obtain ⟨values, -, h⟩ := open_eq_ok h
  rw [copy?, draft_of_showing h]
  rfl

/-- Giving a field a value does not change the copy. -/
theorem copy?_of_set {name : Name} {value : Value} {told : Bool}
    (h : d.set form name value = .ok (d', told)) : d'.copy? = d.copy? := by
  obtain ⟨draft, h_draft, h_set⟩ := draft_of_set h
  rw [copy?, copy?, h_set, (openDraft_eq_ok_iff.1 h_draft).2]
  rfl

/-- Nor does a commit. -/
theorem copy?_of_commit {b b' : Book} {result : Commit}
    (h : d.commit form b = .ok (d', b', result)) : d'.copy? = d.copy? := by
  obtain ⟨draft, -, h⟩ := bind_eq_ok_iff.1 h
  dsimp only at h
  split at h
  · -- The check has found something wrong, and the dialog stays as it was.
    rw [← (Prod.mk.inj (Except.ok.inj h)).1]
  · split at h
    · rw [← (Prod.mk.inj (Except.ok.inj h)).1]
      rfl
    · exact nomatch h

end Dialog

namespace Editor

variable {e e' e'' : Editor} {n m : Nat} {d : Dialog} {c : Int × Value}

/-- The copy that the dialog with a number has. -/
def copy? (e : Editor) (n : Nat) : Option (Int × Value) :=
  (e.dialog? n).bind Dialog.copy?

/-- From one editor to a later one.  Whatever copy a dialog has then it has had before. -/
def KeepsCopies (e e' : Editor) : Prop :=
  ∀ n c, e'.copy? n = some c → e.copy? n = some c

namespace KeepsCopies

theorem refl (e : Editor) : KeepsCopies e e :=
  fun _ _ h => h

theorem trans (h : KeepsCopies e e') (h' : KeepsCopies e' e'') : KeepsCopies e e'' :=
  fun n c h_copy => h n c (h' n c h_copy)

/-- What is not about dialogs does not matter to their copies. -/
theorem of_dialogs (h : e'.dialogs = e.dialogs) : KeepsCopies e e' := by
  intro n c h_copy
  rwa [Editor.copy?, dialog?, h] at h_copy

/-- A dialog may take the place of one that has the same copy. -/
theorem withDialog (h : ∀ c, d.copy? = some c → e.copy? n = some c) :
    KeepsCopies e (e.withDialog n d) := by
  intro m c h_copy
  obtain ⟨d', hd', h_own⟩ := Option.bind_eq_some_iff.1 h_copy
  rcases dialog?_of_withDialog hd' with ⟨rfl, rfl, -⟩ | ⟨-, hd'⟩
  · exact h c h_own
  · exact Option.bind_eq_some_iff.2 ⟨d', hd', h_own⟩

theorem close (e : Editor) (n : Nat) : KeepsCopies e (e.withDialog n {}) :=
  .withDialog fun _ h => nomatch h

end KeepsCopies

theorem keepsCopies_closeDialog (e : Editor) : KeepsCopies e e.closeDialog := by
  unfold closeDialog
  split
  · exact .refl e
  · rename_i n _
    split
    · split
      · exact (KeepsCopies.close e n).trans (.of_dialogs rfl)
      · exact .of_dialogs rfl
    · exact .of_dialogs rfl

theorem keepsCopies_setField {name : Name} {value : Value} (h : e.setField n name value = .ok e') :
    KeepsCopies e e' := by
  unfold setField at h
  split at h
  · exact nomatch h
  · rename_i d hd
    obtain ⟨⟨d', told⟩, h_set, h⟩ := bind_eq_ok_iff.1 h
    rw [← Except.ok.inj h]
    refine .withDialog fun c h_copy => ?_
    rw [Dialog.copy?_of_set h_set] at h_copy
    exact Option.bind_eq_some_iff.2 ⟨d, hd, h_copy⟩

theorem keepsCopies_releaseDialog (e : Editor) (origin : Origin) :
    KeepsCopies e (e.releaseDialog origin) := by
  cases origin with
  | list => exact .refl e
  | toggle i => exact .refl e
  | dialog n =>
    simp only [releaseDialog]
    split
    · exact (KeepsCopies.close e n).trans (.of_dialogs rfl)
    · exact .close e n

theorem keepsCopies_finish (e : Editor) (t : Ticket) (saved : Bool) :
    KeepsCopies e (e.finish t saved).1 := by
  obtain ⟨saver, h_left | h_released⟩ := finish_cases e t saved
  · rw [h_left]
    exact .of_dialogs rfl
  · have h_saver : KeepsCopies e { e with saver } := .of_dialogs rfl
    rw [h_released]
    exact h_saver.trans (keepsCopies_releaseDialog _ t.origin)

theorem keepsCopies_launch (e : Editor) (book : Book) (undo : Undo) (origin : Origin)
    (onSaved onRolledBack : Reply) :
    KeepsCopies e (e.launch book undo origin onSaved onRolledBack).1 := by
  unfold launch
  split
  · exact .of_dialogs rfl
  · exact .of_dialogs rfl

/-- What copies there are after a dialog was opened on a rule: the one of that dialog is of the
rule, and the others were there before. -/
theorem copy?_openDialog {r : Rule} {i : Int}
    (h : (e.openDialog (some r) i).1.copy? n = some c) :
    (e.openDialog (some r) i).2 ≠ .ok n ∧ e.copy? n = some c ∨
      (e.openDialog (some r) i).2 = .ok n ∧ c = (i, r.enabled) := by
  have h_closed := keepsCopies_closeDialog e
  unfold openDialog at h ⊢
  dsimp only at h ⊢
  generalize e.closeDialog = closed at h h_closed ⊢
  cases h_index : closed.form.schema.hasIndex with
  | false =>
    rw [h_index, if_neg Bool.false_ne_true] at h
    exact .inl ⟨nofun, h_closed n c h⟩
  | true =>
    rw [h_index, if_pos rfl] at h
    rw [if_pos rfl]
    cases h_open : ({} : Dialog).open closed.form (some r) i with
    | error error =>
      rw [h_open] at h
      exact .inl ⟨nofun, h_closed n c h⟩
    | ok d =>
      rw [h_open] at h
      obtain ⟨d', hd', h_copy⟩ := Option.bind_eq_some_iff.1 h
      have h_lt : n < (closed.dialogs ++ [d]).length := (List.getElem?_eq_some_iff.1 hd').1
      rw [List.length_append, List.length_singleton] at h_lt
      rcases Nat.lt_succ_iff_lt_or_eq.1 h_lt with h_lt | rfl
      · -- A dialog in front of the last one was there before.
        rw [dialog?, List.getElem?_append_left h_lt] at hd'
        have h_old : closed.copy? n = some c := Option.bind_eq_some_iff.2 ⟨d', hd', h_copy⟩
        refine .inl ⟨fun h_answer => ?_, h_closed n c h_old⟩
        exact absurd (Except.ok.inj h_answer) (Nat.ne_of_gt h_lt)
      · rw [dialog?, List.getElem?_concat_length, Option.some.injEq] at hd'
        rw [← hd', Dialog.copy?_of_open h_open, Option.some.injEq] at h_copy
        exact .inr ⟨rfl, h_copy.symm⟩

theorem copy?_openEdit {i : Int} (h : (e.openEdit i).1.copy? n = some c) :
    (e.openEdit i).2 ≠ .ok n ∧ e.copy? n = some c ∨
      (e.openEdit i).2 = .ok n ∧ ∃ r, at? e.rules i = some r ∧ c = (i, r.enabled) := by
  unfold openEdit at h ⊢
  cases h_get : e.book.get i with
  | error error =>
    rw [h_get] at h
    exact .inl ⟨nofun, h⟩
  | ok r =>
    rw [h_get] at h
    refine (copy?_openDialog h).imp_right fun ⟨h_answer, h_copy⟩ => ?_
    exact ⟨h_answer, r, Book.get_eq_ok_iff.1 h_get, h_copy⟩

/-! ## Commands that edit a rule in its place -/

/-- Whether a command stores the rule of a dialog or sets a flag. -/
def Command.Edits : Command → Prop
  | .saveDialog _ | .toggle .. => True
  | _ => False

variable {command : Command} {events : List Event} {t : Ticket}

theorem keepsCopies_beginSaveDialog (e : Editor) (number : Option Nat) :
    KeepsCopies e (e.beginSaveDialog number).1 := by
  unfold beginSaveDialog
  split
  · exact .refl e
  · split
    · exact .refl e
    · rename_i n _ _ d hd
      split
      · split
        · exact .refl e
        · exact .refl e
        · exact .refl e
        · -- The dialog that is committed still has its draft.
          rename_i d' book r index previous h_commit
          have h_left : KeepsCopies e (e.withDialog n d') := by
            refine .withDialog fun c h_copy => ?_
            rw [Dialog.copy?_of_commit h_commit] at h_copy
            exact Option.bind_eq_some_iff.2 ⟨d, hd, h_copy⟩
          exact h_left.trans (keepsCopies_launch _ _ _ _ _ _)
      · exact .refl e

theorem keepsCopies_beginToggle (e : Editor) (i : Int) (enabled : Value) :
    KeepsCopies e (e.beginToggle i enabled).1 := by
  unfold beginToggle
  split
  · exact .refl e
  · split
    · exact keepsCopies_launch _ _ _ _ _ _
    · split
      · exact .refl e
      · exact .refl e

theorem keepsCopies_begin (hc : command.Edits) : KeepsCopies e (e.begin command).1 := by
  cases command with
  | saveDialog number => exact keepsCopies_beginSaveDialog e number
  | toggle i enabled => exact keepsCopies_beginToggle e i enabled
  | add | update | delete | moveUp | moveDown | relocate | drop => exact hc.elim

/-- What edits a rule in its place is not undone by a move, which might not be let through. -/
theorem not_blocked_of_edits (hc : command.Edits)
    (h : e.begin command = (e', events, .saving t)) : ¬ t.undo.Blocked e'.book := by
  cases command with
  | saveDialog number =>
    obtain ⟨n, d, draft, r, -, -, h_commits⟩ := commits_of_beginSaveDialog h
    exact h_commits.not_blocked _
  | toggle i enabled =>
    obtain ⟨previous, -, h_undo⟩ := toggle_of_beginToggle h
    rw [h_undo]
    exact id
  | add | update | delete | moveUp | moveDown | relocate | drop => exact hc.elim

/-- When the rule of a dialog has the flag that the rule has whose place it takes: if that is the
flag of which the dialog has the copy, or the flag of a sentinel, which never changes. -/
theorem Commits.flag_iff {form : Form} {draft : Draft} {r : Rule} {b b' : Book} {undo : Undo}
    (h : Commits form d draft r b b' undo) (h_trims : form.OnlyTrims)
    (h_old : draft.isNew = false) :
    ∃ old, at? b.rules draft.index = some old ∧ b'.rules = b.rules.set draft.index.toNat r ∧
      (r.enabled = old.enabled ↔
        old.isFinal = true ∨ old.enabled = .bool draft.originalEnabled.flag) := by
  obtain ⟨old, h_replace, -⟩ := h.replace h_old
  obtain ⟨h_at, h_kind, rfl⟩ := Book.replace_eq_ok_iff.1 h_replace
  refine ⟨old, h_at, rfl, ?_⟩
  have h_same : r.isFinal = old.isFinal := by
    rw [Rule.isFinal, Rule.isFinal, h_kind]
  cases h_final : old.isFinal with
  | true =>
    have h_flag := (Rule.ruleType_enabled_of_isFinal h_final).2
    have h_flag' := (Rule.ruleType_enabled_of_isFinal (h_same.trans h_final)).2
    exact iff_of_true (h_flag'.trans h_flag.symm) (.inl rfl)
  | false =>
    -- A normal rule is stored with the flag of its candidate, which is the copy.
    have h_candidate : (d.candidateOf draft).isFinal = false := by
      rw [Rule.isFinal, ← h_trims.kind_finished, ← h.rule, ← Rule.isFinal, h_same, h_final]
    have h_flag : r.enabled = .bool draft.originalEnabled.flag := by
      rw [h.rule, h_trims.enabled_finished, Dialog.enabled_candidateOf, h_candidate, Bool.false_or]
    rw [h_flag, eq_comm]
    exact (or_iff_right Bool.false_ne_true).symm

end Editor

/-! ## What a command leaves alone -/

namespace Desk

variable {d : Desk} {c : Editor.Command} {fails : Bool}

theorem form_command (d : Desk) (c : Editor.Command) (fails : Bool) :
    (d.command c fails).1.editor.form = d.editor.form := by
  have h_begin := (Editor.begins_begin d.editor c).form
  apply holds_command (P := fun e => e.form = d.editor.form) d c fails h_begin
  intro e t saved h_form
  exact (Editor.form_finish e t saved).trans h_form

theorem keepsCopies_command (hc : c.Edits) (fails : Bool) :
    Editor.KeepsCopies d.editor (d.command c fails).1.editor := by
  have h_begin : Editor.KeepsCopies d.editor (d.editor.begin c).1 := Editor.keepsCopies_begin hc
  apply holds_command (P := d.editor.KeepsCopies) d c fails h_begin
  intro e t saved h_keeps
  exact h_keeps.trans (Editor.keepsCopies_finish e t saved)

/-- A command that sets a flag and is answered as saved has set it. -/
theorem rules_toggle {i : Int} {v : Value} (h : Says (d.command (.toggle i v) fails).2 .ok) :
    ∃ r : Rule, r.isFinal = false ∧
      (d.command (.toggle i v) fails).1.editor.rules =
        d.editor.rules.set i.toNat (r.withFlag v) := by
  obtain ⟨e', events, t, h_begin, h_rules⟩ := saving_of_says h
  obtain ⟨previous, h_toggle, -⟩ := Editor.toggle_of_beginToggle h_begin
  obtain ⟨r, -, h_final, -, h_book⟩ := Book.toggle_eq_ok_iff.1 h_toggle
  exact ⟨r, h_final, h_rules.trans (congrArg Book.rules h_book)⟩

/-- What a dialog has stored that is answered as saved, if no dialog is of a new rule. -/
theorem rules_saveDialog {number : Option Nat} (h_trims : d.editor.form.OnlyTrims)
    (h_old : ∀ n c, d.editor.copy? n = some c → 0 ≤ c.1)
    (h : Says (d.command (.saveDialog number) fails).2 .ok) :
    ∃ n c old new, number.or d.editor.current = some n ∧ d.editor.copy? n = some c ∧
      at? d.editor.rules c.1 = some old ∧
      (d.command (.saveDialog number) fails).1.editor.rules =
        d.editor.rules.set c.1.toNat new ∧
      (new.enabled = old.enabled ↔ old.isFinal = true ∨ old.enabled = .bool c.2.flag) := by
  obtain ⟨e', events, t, h_begin, h_rules⟩ := saving_of_says h
  obtain ⟨n, dialog, draft, new, h_number, hd, h_commits⟩ :=
    Editor.commits_of_beginSaveDialog h_begin
  have h_draft := (Dialog.openDraft_eq_ok_iff.1 h_commits.opened).2
  have h_copy : d.editor.copy? n = some (draft.index, draft.originalEnabled) := by
    rw [Editor.copy?, hd, Option.bind_some, Dialog.copy?, h_draft, Option.map_some]
  -- Since its position is one of the list, the draft is not of a new rule.
  have h_index : 0 ≤ draft.index := h_old n _ h_copy
  have h_place : draft.isNew = false := decide_eq_false (Int.not_lt.2 h_index)
  obtain ⟨old, h_at, h_stored, h_flag⟩ := h_commits.flag_iff h_trims h_place
  exact ⟨n, _, old, new, h_number, h_copy, h_at, h_rules.trans h_stored, h_flag⟩

/-- A command that edits a rule in its place and is not answered as saved has left the list as it
was. -/
theorem rules_of_not_edited {name : Name} (h_key : d.editor.saver.key.name? = some name)
    (hc : c.Edits) (h : ¬ Says (d.command c fails).2 .ok) :
    (d.command c fails).1.editor.rules = d.editor.rules :=
  rules_of_free h_key (fun _ _ _ h_begin => Editor.not_blocked_of_edits hc h_begin) h

/-- Whether an act is one of those by which rules are edited in their places: no dialog is opened on
a new rule, and a command stores the rule of a dialog or sets a flag. -/
def Act.Edits : Act → Prop
  | .aside a _ =>
    match a with
    | .openAdd => False
    | _ => True
  | .command c _ => c.Edits

end Desk

/-! ## The flags that were set -/

/-- A desk and, beside it, the flags of the rules as they were set last, and what each dialog was
opened with: the position and the flag of its rule. -/
structure Tally where
  desk : Desk
  flags : List Value
  opened : Nat → Option (Int × Value)

namespace Tally

/-- The tally in the beginning: the flags are those of the list, and no dialog was opened. -/
def new (d : Desk) : Tally :=
  { desk := d, flags := d.editor.rules.map Rule.enabled, opened := fun _ => none }

/-- The flags that were set last, after an act. -/
def set (t : Tally) (a : Desk.Act) (seen : Seen) : List Value :=
  match a with
  | .command (.toggle i v) _ => if Desk.Says seen .ok then t.flags.set i.toNat v else t.flags
  | _ => t.flags

/-- What a dialog was opened with, after an act. -/
def note (t : Tally) (a : Desk.Act) (n : Nat) : Option (Int × Value) :=
  match a with
  | .aside (.openEdit i) _ =>
    -- The dialog that is opened is known by its number, which is the answer.
    if (t.desk.editor.openEdit i).2 = .ok n then
      (at? t.desk.editor.rules i).map fun r => (i, r.enabled)
    else t.opened n
  | _ => t.opened n

/-- Does one thing. -/
def step (t : Tally) (a : Desk.Act) : Tally × Seen :=
  let (desk, seen) := t.desk.step a
  ({ desk, flags := t.set a seen, opened := t.note a }, seen)

/-- The rules have the flags that were set last. -/
def Faithful (t : Tally) : Prop :=
  t.desk.editor.rules.map Rule.enabled = t.flags

instance (t : Tally) : Decidable t.Faithful :=
  inferInstanceAs (Decidable (t.desk.editor.rules.map Rule.enabled = t.flags))

/-- If an act stores the rule of a dialog, the rule whose place it takes has the flag that the
dialog was opened with, or it is the sentinel. -/
def Timely (t : Tally) (a : Desk.Act) : Prop :=
  match a with
  | .command (.saveDialog number) fails =>
    Desk.Says (t.desk.command (.saveDialog number) fails).2 .ok →
      ∀ n ∈ number.or t.desk.editor.current, ∀ c ∈ t.opened n, ∀ r ∈ at? t.desk.editor.rules c.1,
        r.isFinal = true ∨ r.enabled = .bool c.2.flag
  | _ => True

instance (t : Tally) : (a : Desk.Act) → Decidable (t.Timely a)
  | .command (.saveDialog number) fails =>
    inferInstanceAs (Decidable (Desk.Says (t.desk.command (.saveDialog number) fails).2 .ok →
      ∀ n ∈ number.or t.desk.editor.current, ∀ c ∈ t.opened n, ∀ r ∈ at? t.desk.editor.rules c.1,
        r.isFinal = true ∨ r.enabled = .bool c.2.flag))
  | .aside .. => .isTrue trivial
  | .command (.add _) _ | .command (.update ..) _ | .command (.delete ..) _
  | .command (.moveUp _) _ | .command (.moveDown _) _ | .command (.relocate ..) _
  | .command (.drop ..) _ | .command (.toggle ..) _ => .isTrue trivial

/-- What is the case throughout a run: the list has a name to be stored under, the form changes
nothing but blanks, and the copy that a dialog has is what it was opened with. -/
structure Sound (name : Name) (t : Tally) : Prop where
  key : t.desk.editor.saver.key.name? = some name
  trims : t.desk.editor.form.OnlyTrims
  copies : ∀ n c, t.desk.editor.copy? n = some c → 0 ≤ c.1 ∧ t.opened n = some c

variable {name : Name} {t : Tally}

/-- A dialog that is opened is noted. -/
theorem copies_openEdit (h : t.Sound name) (i : Int) (h_aside : Workbench.IsAside (.openEdit i))
    {n : Nat} {c : Int × Value} (h_copy : (t.desk.editor.openEdit i).1.copy? n = some c) :
    0 ≤ c.1 ∧ t.note (.aside (.openEdit i) h_aside) n = some c := by
  rcases Editor.copy?_openEdit h_copy with ⟨h_other, h_old⟩ | ⟨h_answer, r, h_at, rfl⟩
  · obtain ⟨h0, h_opened⟩ := h.copies n c h_old
    exact ⟨h0, (if_neg h_other).trans h_opened⟩
  · refine ⟨(at?_eq_some_iff.1 h_at).1, (if_pos h_answer).trans ?_⟩
    rw [h_at, Option.map_some]

theorem sound_aside (h : t.Sound name) {a : Workbench.Act} (h_aside : Workbench.IsAside a)
    (ha : Desk.Act.Edits (.aside a h_aside)) : (t.step (.aside a h_aside)).1.Sound name := by
  obtain ⟨h_work, -⟩ := Desk.step_aside t.desk h_aside
  have h_key : (t.step (.aside a h_aside)).1.desk.editor.saver.key.name? = some name :=
    (congrArg Value.name? h_work.key).trans h.key
  have h_trims : (t.step (.aside a h_aside)).1.desk.editor.form.OnlyTrims := by
    have h_form : (t.step (.aside a h_aside)).1.desk.editor.form = t.desk.editor.form := h_work.form
    rw [h_form]
    exact h.trims
  refine ⟨h_key, h_trims, fun n c h_copy => ?_⟩
  -- Nothing but opening a dialog makes a copy, and nothing else is noted.
  have h_kept (h_keeps : t.desk.editor.KeepsCopies (t.step (.aside a h_aside)).1.desk.editor)
      (h_note : t.note (.aside a h_aside) n = t.opened n) :
      0 ≤ c.1 ∧ (t.step (.aside a h_aside)).1.opened n = some c := by
    obtain ⟨h0, h_opened⟩ := h.copies n c (h_keeps n c h_copy)
    exact ⟨h0, h_note.trans h_opened⟩
  cases a with
  | openAdd => exact ha.elim
  | openEdit i => exact copies_openEdit h i h_aside h_copy
  | setField m field value =>
    refine h_kept ?_ rfl
    simp only [step, Desk.step, Workbench.step]
    split
    · rename_i h_set
      exact Editor.keepsCopies_setField h_set
    · exact .refl _
  | closeDialog => exact h_kept (Editor.keepsCopies_closeDialog _) rfl
  | startDrag i =>
    refine h_kept (.of_dialogs ?_) rfl
    simp only [step, Desk.step, Workbench.step, Workbench.editor_withEditor, Editor.startDrag]
    split <;> rfl
  | endDrag | attach | redraw => exact h_kept (.of_dialogs rfl) rfl
  | start | finish => exact h_aside.elim

/-- Every act keeps a tally sound. -/
theorem sound_step (t : Tally) (a : Desk.Act) (h : t.Sound name) (ha : a.Edits) :
    (t.step a).1.Sound name := by
  cases a with
  | aside a h_aside => exact sound_aside h h_aside ha
  | command c fails =>
    have h_keeps := Desk.keepsCopies_command (d := t.desk) ha fails
    refine ⟨?_, ?_, fun n copy h_copy => ?_⟩
    · exact (congrArg Value.name? (Desk.key_command t.desk c fails)).trans h.key
    · have h_form := Desk.form_command t.desk c fails
      exact h_form.symm ▸ h.trims
    · exact h.copies n copy (h_keeps n copy h_copy)

/-! ## Which acts leave the flags that were set last -/

/-- Whatever leaves the list alone and sets no flag leaves the flags as they are. -/
theorem faithful_of_quiet {a : Desk.Act} (h_faithful : t.Faithful)
    (h_rules : (t.step a).1.desk.editor.rules = t.desk.editor.rules)
    (h_flags : (t.step a).1.flags = t.flags) : (t.step a).1.Faithful := by
  rw [Faithful, h_rules, h_flags]
  exact h_faithful

/-- A command that is not answered as saved leaves the list alone. -/
theorem faithful_of_not_edited (h : t.Sound name) (h_faithful : t.Faithful) {c : Editor.Command}
    {fails : Bool} (hc : c.Edits) (h_not : ¬ Desk.Says (t.desk.command c fails).2 .ok)
    (h_flags : (t.step (.command c fails)).1.flags = t.flags) :
    (t.step (.command c fails)).1.Faithful := by
  have h_rules : (t.step (.command c fails)).1.desk.editor.rules = t.desk.editor.rules :=
    Desk.rules_of_not_edited h.key hc h_not
  exact faithful_of_quiet h_faithful h_rules h_flags

/-- A command that sets a flag sets it in the list and in the tally, or in neither. -/
theorem faithful_toggle (h : t.Sound name) (h_faithful : t.Faithful) (i : Int) (v : Value)
    (fails : Bool) : (t.step (.command (.toggle i v) fails)).1.Faithful := by
  by_cases h_ok : Desk.Says (t.desk.command (.toggle i v) fails).2 .ok
  · obtain ⟨r, h_normal, h_rules⟩ := Desk.rules_toggle h_ok
    have h_list : (t.step (.command (.toggle i v) fails)).1.desk.editor.rules =
        t.desk.editor.rules.set i.toNat (r.withFlag v) := h_rules
    have h_flags : (t.step (.command (.toggle i v) fails)).1.flags = t.flags.set i.toNat v :=
      if_pos h_ok
    rw [Faithful, h_list, h_flags, List.map_set, Rule.enabled_withFlag h_normal, h_faithful]
  · exact faithful_of_not_edited h h_faithful trivial h_ok (if_neg h_ok)

/-- A dialog whose rule is stored leaves the flags exactly if it finds the one that it was opened
with. -/
theorem faithful_saveDialog_iff (h : t.Sound name) (h_faithful : t.Faithful) {number : Option Nat}
    {fails : Bool} (h_ok : Desk.Says (t.desk.command (.saveDialog number) fails).2 .ok) :
    (t.step (.command (.saveDialog number) fails)).1.Faithful ↔
      t.Timely (.command (.saveDialog number) fails) := by
  have h_places (n : Nat) (c : Int × Value) (h_copy : t.desk.editor.copy? n = some c) : 0 ≤ c.1 :=
    (h.copies n c h_copy).1
  obtain ⟨n, copy, old, new, h_number, h_copy, h_at, h_rules, h_flag⟩ :=
    Desk.rules_saveDialog h.trims h_places h_ok
  obtain ⟨-, h_opened⟩ := h.copies n copy h_copy
  -- The tally does not change, so the new rule has to have the flag of the old one.
  have h_kept : (t.step (.command (.saveDialog number) fails)).1.Faithful ↔
      new.enabled = old.enabled := by
    have h_list : (t.step (.command (.saveDialog number) fails)).1.desk.editor.rules =
        t.desk.editor.rules.set copy.1.toNat new := h_rules
    have h_flags : (t.step (.command (.saveDialog number) fails)).1.flags = t.flags := rfl
    have h_old : (t.desk.editor.rules.map Rule.enabled)[copy.1.toNat]? = some old.enabled := by
      rw [List.getElem?_map, (at?_eq_some_iff.1 h_at).2, Option.map_some]
    rw [Faithful, h_list, h_flags, List.map_set, ← h_faithful]
    exact Arrangement.set_eq_self_iff h_old
  rw [h_kept, h_flag]
  constructor
  · -- The dialog, what it was opened with and the rule in its place are no others than these.
    intro h_same _ m hm c hc r hr
    obtain rfl : n = m := Option.some.inj (h_number.symm.trans hm)
    obtain rfl : copy = c := Option.some.inj (h_opened.symm.trans hc)
    obtain rfl : old = r := Option.some.inj (h_at.symm.trans hr)
    exact h_same
  · intro h_timely
    exact h_timely h_ok n h_number copy h_opened old h_at

/-- **An act leaves the rules with the flags that were set last exactly if it is timely.** -/
theorem faithful_step_iff (t : Tally) (a : Desk.Act) (h : t.Sound name) (ha : a.Edits)
    (h_faithful : t.Faithful) : (t.step a).1.Faithful ↔ t.Timely a := by
  cases a with
  | aside a h_aside =>
    have h_rules := congrArg Book.rules (Desk.step_aside t.desk h_aside).1.book
    exact iff_of_true (faithful_of_quiet h_faithful h_rules rfl) trivial
  | command c fails =>
    cases c with
    | toggle i v => exact iff_of_true (faithful_toggle h h_faithful i v fails) trivial
    | saveDialog number =>
      by_cases h_ok : Desk.Says (t.desk.command (.saveDialog number) fails).2 .ok
      · exact faithful_saveDialog_iff h h_faithful h_ok
      · -- What is not answered as saved is timely at any time.
        have h_quiet : (t.step (.command (.saveDialog number) fails)).1.Faithful :=
          faithful_of_not_edited h h_faithful ha h_ok rfl
        exact iff_of_true h_quiet fun h_says => absurd h_says h_ok
    | add | update | delete | moveUp | moveDown | relocate | drop => exact ha.elim

/-- **Who changes the flags.**  Rules of any list are edited in dialogs and switched on and off, by
commands that are carried out one after another and whose saves may fail; dialogs may be open while
that happens, and more than one draft may be of one rule.  No rule is added, deleted or moved, and
the form, whatever else it is, changes nothing but blanks.  Then each rule has, at any time, the
flag that was set last and is said to be saved, or else the one that it had in the beginning,
exactly if each dialog whose rule was stored had been opened with the flag that the rule then had,
unless that is the sentinel. -/
theorem flags_iff_timely (d : Desk) (acts : List Desk.Act) {name : Name}
    (h_key : d.editor.saver.key.name? = some name) (h_trims : d.editor.form.OnlyTrims)
    (h_none : d.editor.dialogs = []) (h_acts : ∀ a ∈ acts, a.Edits) :
    (∀ before, before <+: acts → (Run.after step (new d) before).Faithful) ↔
      Run.Allowed step Timely (new d) acts := by
  have h_start : (new d).Sound name := by
    refine ⟨h_key, h_trims, fun n c h_copy => ?_⟩
    have h_empty : (new d).desk.editor.copy? n = none := by
      show (d.editor.dialogs[n]?).bind Dialog.copy? = none
      rw [h_none, List.getElem?_nil, Option.bind_none]
    rw [h_empty] at h_copy
    cases h_copy
  have h_faithful : (new d).Faithful := rfl
  exact Run.throughout_iff_allowed sound_step faithful_step_iff h_start
    (Run.allowed_of_forall fun _ a ha => h_acts a ha) h_faithful

/-- While a rule is edited the flag of another one is set, and its own flag cannot be saved; it is
set only after the rule of the dialog was stored, and the rule is edited once more. -/
theorem flags_iff_timely_in_turn :
    let form : Form := ⟨Headers.schema, some Headers.validate, some Headers.transform⟩
    let d := Desk.new {} form none [.onValue "a", .onValue "b"] {}
    let acts : List Desk.Act := [.aside (.openEdit 0) trivial,
      .aside (.setField 0 "match_value" (.text "c")) trivial,
      .command (.toggle 1 (.bool false)) false, .command (.toggle 0 (.bool false)) true,
      .command (.saveDialog none) false, .command (.toggle 0 (.bool false)) false,
      .aside (.openEdit 0) trivial, .command (.saveDialog none) false]
    d.editor.saver.key.name? = some (.text "rules") ∧ d.editor.form.OnlyTrims ∧
      d.editor.dialogs = [] ∧ (∀ a ∈ acts, a.Edits) ∧ Run.Allowed step Timely (new d) acts ∧
      (∀ before, before <+: acts → (Run.after step (new d) before).Faithful) ∧
      (Run.after step (new d) acts).flags = [.bool false, .bool false, .bool true] := by
  intro form d acts
  have h_trims : d.editor.form.OnlyTrims := .inr rfl
  have h_acts : ∀ a ∈ acts, a.Edits := by
    simp only [acts, List.forall_mem_cons]
    exact ⟨trivial, trivial, trivial, trivial, trivial, trivial, trivial, trivial,
      List.forall_mem_nil _⟩
  have h_timely : Run.Allowed step Timely (new d) acts := by decide +kernel
  have h_flags : (Run.after step (new d) acts).flags = [.bool false, .bool false, .bool true] := by
    decide +kernel
  exact ⟨rfl, h_trims, rfl, h_acts, h_timely,
    (flags_iff_timely d acts rfl h_trims rfl h_acts).2 h_timely, h_flags⟩

/-- A dialog is opened on a rule, the rule is switched off, and the rule of the dialog is saved, in
which nothing was changed.  The rule is on again. -/
theorem flag_lost_of_save :
    let form : Form := ⟨Headers.schema, some Headers.validate, some Headers.transform⟩
    let d := Desk.new {} form none [.onValue "a"] {}
    let opened := (d.step (.aside (.openEdit 0) trivial)).1
    let off := opened.command (.toggle 0 (.bool false)) false
    let saved := off.1.command (.saveDialog none) false
    d.editor.form.OnlyTrims ∧ Desk.Says off.2 .ok ∧ Desk.Says saved.2 .ok ∧
      off.1.editor.rules.map Rule.enabled = [.bool false, .bool true] ∧
      saved.1.editor.rules.map Rule.enabled = [.bool true, .bool true] := by
  intro form d opened off saved
  have h_trims : d.editor.form.OnlyTrims := .inr rfl
  exact ⟨h_trims, by decide +kernel, by decide +kernel, by decide +kernel, by decide +kernel⟩

end Tally

end Rulebook
