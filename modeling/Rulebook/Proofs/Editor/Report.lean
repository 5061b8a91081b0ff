/-
  Rulebook.Proofs.Editor.Report

  What the user is told of a command is what has happened.

  A desk is an editor that saves to a place in memory, one command after another.  The place
  counts how many saves were tried and keeps what was saved, so it is a witness that is
  independent of the answers of the editor.  A command can do one of four things to it
  (`taken_command`): nothing at all, a change that cannot be stored, one save that succeeds, and
  one save that fails and is undone.  What is said in each case is said in no other
  (`Taken.tells`).

  Main statement: `tells_command`, for a desk after any acts.  It also says that from the first
  time on that a command was said to be saved, the payload that was saved last is the list.
-/
import Rulebook.Proofs.Editor.Agree
import Rulebook.Storage.Memory

namespace Rulebook

/-- An editor that saves to a place in memory. -/
structure Desk where
  editor : Editor
  memory : Storage.Memory := {}

namespace Desk

/-- What can be done at a desk. -/
inductive Act where
  /-- whatever can be done between two commands -/
  | aside (a : Workbench.Act) (h : Workbench.IsAside a)
  /-- a command, and whether its save fails -/
  | command (c : Editor.Command) (fails : Bool)

/-- Carries a command out, and saves the list if it has changed. -/
def command (d : Desk) (c : Editor.Command) (fails : Bool) : Desk × Seen :=
  let memory := { d.memory with fails }
  match d.editor.begin c with
  | (editor, events, .done outcome) => ({ editor, memory }, { events, outcome })
  | (editor, events, .saving t) =>
    let (memory, saved) := memory.save t.payload
    let (editor, more, outcome) := editor.finish t saved
    ({ editor, memory }, { events := events ++ more, payload := some t.payload, outcome })

/-- Does one thing. -/
def step (d : Desk) : Act → Desk × Seen
  | .aside a _ =>
    let (w, seen) := Workbench.step { editor := d.editor } a
    ({ d with editor := w.editor }, seen)
  | .command c fails => d.command c fails

/-- A desk with an editor of a raw list and a place to save it to. -/
def new (settings : Settings) (form : Form) (renderer : Option String) (rules : List Rule)
    (memory : Storage.Memory) : Desk :=
  { editor := (Editor.new settings form renderer rules).1, memory }

/-! ## What a command comes to -/

/-- What happened is what is reported, after the question that a command may ask first. -/
def Reports (seen : Seen) (news : List Event) : Prop :=
  ∃ asked, (∀ event ∈ asked, event = .asked) ∧ seen.events = asked ++ news

/-- The answer has a status. -/
def Says (seen : Seen) (status : Editor.Status) : Prop :=
  ∃ reply, seen.outcome = some (.ok reply) ∧ reply.status = status

instance decidableReplies (outcome : Editor.Outcome) (status : Editor.Status) :
    Decidable (∃ reply, outcome = .ok reply ∧ reply.status = status) :=
  match outcome with
  | .ok reply =>
    decidable_of_iff (reply.status = status)
      ⟨fun h => ⟨reply, rfl, h⟩, fun ⟨_, h_reply, h⟩ => Except.ok.inj h_reply ▸ h⟩
  | .error _ => .isFalse fun ⟨_, h_reply, _⟩ => nomatch h_reply

instance decidableSays (seen : Seen) (status : Editor.Status) : Decidable (Says seen status) :=
  match h : seen.outcome with
  | some outcome =>
    decidable_of_iff (∃ reply, outcome = .ok reply ∧ reply.status = status)
      (by rw [Says, h]; simp only [Option.some.injEq])
  | none => .isFalse fun ⟨_, h_reply, _⟩ => nomatch h.symm.trans h_reply

/-- The command was not carried out: there was nothing to do, it was refused or not right, or it
ended in an error of the book. -/
def Declines (seen : Seen) : Prop :=
  Says seen .noop ∨ Says seen .rejected ∨ Says seen .invalid ∨
    ∃ error, seen.outcome = some (.error (.book error))

/-- What a command can do to a desk, and what it then says. -/
inductive Taken (d d' : Desk) (seen : Seen) : Prop where
  /-- the command is over without a change -/
  | ended (h_book : d'.editor.book = d.editor.book)
      (h_attempts : d'.memory.attempts = d.memory.attempts)
      (h_saved : d'.memory.saved = d.memory.saved) (h_news : Reports seen [])
      (h_ok : ¬ Says seen .ok) (h_rolledBack : ¬ Says seen .rolledBack)
  /-- the list has changed, but there is no name to store it under -/
  | unstorable {u : Undo} (h_edit : Edit d.editor.book d'.editor.book u)
      (h_key : d.editor.saver.key.name? = none)
      (h_attempts : d'.memory.attempts = d.memory.attempts)
      (h_saved : d'.memory.saved = d.memory.saved)
      (h_outcome : seen.outcome = some (.error (.reading .notName)))
  /-- the list has changed and was saved -/
  | saved {u : Undo} {name : Name} (h_edit : Edit d.editor.book d'.editor.book u)
      (h_key : d.editor.saver.key.name? = some name)
      (h_attempts : d'.memory.attempts = d.memory.attempts + 1)
      (h_saved : d'.memory.saved = d.memory.saved ++ [d'.editor.book.toValue name])
      (h_news : Reports seen (.afterSave true :: d'.editor.render)) (h_answer : Says seen .ok)
  /-- the list has changed, could not be saved, and is what it was -/
  | undone (h_book : d'.editor.book = d.editor.book)
      (h_attempts : d'.memory.attempts = d.memory.attempts + 1)
      (h_saved : d'.memory.saved = d.memory.saved)
      (h_news : Reports seen
        (.afterSave false :: d'.editor.render ++ [.notice saveFailedNotice]))
      (h_answer : Says seen .rolledBack)

/-- Nobody is told two things at once. -/
theorem Says.unique {seen : Seen} {status status' : Editor.Status} (h : Says seen status)
    (h' : Says seen status') : status = status' := by
  obtain ⟨reply, h, rfl⟩ := h
  obtain ⟨reply', h', rfl⟩ := h'
  rw [h] at h'
  rw [Except.ok.inj (Option.some.inj h')]

/-- The answer of a command that is over without a save says nothing of a save. -/
theorem not_says_of_idle {events : List Event} {outcome : Editor.Outcome}
    (h : Editor.Idle outcome) :
    ¬ Says { events, outcome } .ok ∧ ¬ Says { events, outcome } .rolledBack := by
  constructor
  · rintro ⟨reply, h_reply, h_status⟩
    exact (h reply (Option.some.inj h_reply)).1 h_status
  · rintro ⟨reply, h_reply, h_status⟩
    exact (h reply (Option.some.inj h_reply)).2 h_status

variable {d : Desk}

/-- What is drawn after a dialog was released is the list of before. -/
theorem render_releaseDialog (e : Editor) (origin : Editor.Origin) :
    (e.releaseDialog origin).render = e.render := by
  rw [Editor.render, (Editor.sameBook_releaseDialog e origin).saver]
  rfl

/-- **What a command comes to**, if the book is in order: there are four cases. -/
theorem taken_command (h_order : d.editor.book.InOrder) (c : Editor.Command) (fails : Bool) :
    Taken d (d.command c fails).1 (d.command c fails).2 := by
  have h := Editor.begins_begin d.editor c
  simp only [command]
  generalize d.editor.begin c = begun at h ⊢
  cases h with
  | ended h_same h_events h_idle =>
    obtain ⟨h_ok, h_rolledBack⟩ := not_says_of_idle h_idle
    exact .ended h_same.book rfl rfl ⟨_, h_events, (List.append_nil _).symm⟩ h_ok h_rolledBack
  | @unstorable e' _ book _ h_edit h_key h_same =>
    have h_book : e'.book = book := h_same.book
    exact .unstorable (by rwa [h_book]) h_key rfl rfl rfl
  | @saving e' events book name t h_edit h_key h_payload h_same h_events h_ok h_rolledBack =>
    have h_book : e'.book = book := h_same.book
    cases fails with
    | false =>
      dsimp only [Storage.Memory.save]
      rw [if_neg Bool.false_ne_true, Editor.finish_saved]
      have h_release : ((e'.landed e'.book).releaseDialog t.origin).book = book := by
        rw [(Editor.sameBook_releaseDialog _ _).book]
        exact h_book
      refine .saved (u := t.undo) ?_ h_key rfl ?_ ⟨events, h_events, ?_⟩
        ⟨_, rfl, h_ok⟩
      · rw [h_release]
        exact h_edit
      · rw [h_release, h_payload]
      · rw [render_releaseDialog]
    | true =>
      have h_undo : t.undo.run e'.book = (d.editor.book, .ok ()) := by
        rw [h_book]
        exact h_edit.run_undo h_order.rules.endsFixed
      dsimp only [Storage.Memory.save]
      rw [if_pos rfl, Editor.finish_of_undone h_undo]
      refine .undone ?_ rfl rfl ⟨events, h_events, ?_⟩ ⟨_, rfl, h_rolledBack⟩
      · exact (Editor.sameBook_releaseDialog _ _).book
      · rw [render_releaseDialog]

/-! ## What is said, and what has happened -/

/-- What is told of a command, compared with the list and the place where it is saved. -/
structure Tells (d d' : Desk) (seen : Seen) : Prop where
  /-- a command is said to be saved exactly if its only save has succeeded -/
  ok_iff : Says seen .ok ↔ d'.memory.attempts = d.memory.attempts + 1 ∧
    ∃ payload, d'.memory.saved = d.memory.saved ++ [payload]
  /-- then it is reported that the save has succeeded, and the list is drawn once -/
  of_ok : Says seen .ok → Reports seen (.afterSave true :: d'.editor.render)
  /-- a command is said to be undone exactly if its only save has failed -/
  rolledBack_iff : Says seen .rolledBack ↔ d'.memory.attempts = d.memory.attempts + 1 ∧
    d'.memory.saved = d.memory.saved
  /-- then it is reported that the save has failed, the list is drawn once, and there is one
  notice -/
  of_rolledBack : Says seen .rolledBack →
    Reports seen (.afterSave false :: d'.editor.render ++ [.notice saveFailedNotice])
  /-- a command that was not carried out has tried no save, left the list alone and reported
  nothing -/
  of_declines : Declines seen → d'.memory.attempts = d.memory.attempts ∧
    d'.memory.saved = d.memory.saved ∧ Reports seen [] ∧ d'.editor.rules = d.editor.rules

theorem not_declines {seen : Seen} {status : Editor.Status} (h : Says seen status)
    (h_status : status = .ok ∨ status = .rolledBack) : ¬ Declines seen := by
  rintro (h' | h' | h' | ⟨error, h'⟩)
  · rcases h_status with rfl | rfl <;> exact nomatch h.unique h'
  · rcases h_status with rfl | rfl <;> exact nomatch h.unique h'
  · rcases h_status with rfl | rfl <;> exact nomatch h.unique h'
  · obtain ⟨reply, h, -⟩ := h
    exact nomatch h.symm.trans h'

theorem Taken.tells {d' : Desk} {seen : Seen} (h : Taken d d' seen) : Tells d d' seen := by
  cases h with
  | ended h_book h_attempts h_saved h_news h_ok h_rolledBack =>
    have h_none : d'.memory.attempts ≠ d.memory.attempts + 1 := by omega
    constructor
    · exact ⟨fun h => absurd h h_ok, fun h => absurd h.1 h_none⟩
    · exact fun h => absurd h h_ok
    · exact ⟨fun h => absurd h h_rolledBack, fun h => absurd h.1 h_none⟩
    · exact fun h => absurd h h_rolledBack
    · exact fun _ => ⟨h_attempts, h_saved, h_news, congrArg Book.rules h_book⟩
  | unstorable _ _ h_attempts _ h_outcome =>
    have h_none : d'.memory.attempts ≠ d.memory.attempts + 1 := by omega
    have h_answer (status : Editor.Status) : ¬ Says seen status := by
      rintro ⟨reply, h, -⟩
      exact nomatch h.symm.trans h_outcome
    constructor
    · exact ⟨fun h => absurd h (h_answer _), fun h => absurd h.1 h_none⟩
    · exact fun h => absurd h (h_answer _)
    · exact ⟨fun h => absurd h (h_answer _), fun h => absurd h.1 h_none⟩
    · exact fun h => absurd h (h_answer _)
    · rintro (h | h | h | ⟨error, h⟩)
      · exact absurd h (h_answer _)
      · exact absurd h (h_answer _)
      · exact absurd h (h_answer _)
      · exact nomatch h.symm.trans h_outcome
  | saved _ _ h_attempts h_saved h_news h_answer =>
    constructor
    · exact ⟨fun _ => ⟨h_attempts, _, h_saved⟩, fun _ => h_answer⟩
    · exact fun _ => h_news
    · -- One more payload is not none.
      refine ⟨fun h => (nomatch h_answer.unique h), fun h => ?_⟩
      exact absurd (h_saved.symm.trans h.2) (by simp)
    · exact fun h => nomatch h_answer.unique h
    · exact fun h => absurd h (not_declines h_answer (.inl rfl))
  | undone _ h_attempts h_saved h_news h_answer =>
    constructor
    · refine ⟨fun h => (nomatch h_answer.unique h), fun ⟨_, payload, h⟩ => ?_⟩
      exact absurd (h_saved.symm.trans h) (by simp)
    · exact fun h => nomatch h_answer.unique h
    · exact ⟨fun _ => ⟨h_attempts, h_saved⟩, fun _ => h_answer⟩
    · exact fun _ => h_news
    · exact fun h => absurd h (not_declines h_answer (.inr rfl))

/-! ## Runs -/

/-- The book is in order and is stored under a key. -/
structure Keeps (key : Value) (d : Desk) : Prop where
  book : d.editor.book.InOrder
  key : d.editor.saver.key = key

/-- The payload that was saved last is the list of the editor. -/
def Stored (key : Value) (d : Desk) : Prop :=
  ∃ name, key.name? = some name ∧ d.memory.load = some (d.editor.book.toValue name)

/-- Whatever is done between two commands leaves the list, its key and the place alone. -/
theorem step_aside (d : Desk) {a : Workbench.Act} (h : Workbench.IsAside a) :
    Editor.SameWork d.editor (d.step (.aside a h)).1.editor ∧
      (d.step (.aside a h)).1.memory = d.memory ∧ (d.step (.aside a h)).2.outcome = none := by
  obtain ⟨h_work, h_outcome⟩ := Workbench.sameWork_of_isAside { editor := d.editor } h
  exact ⟨h_work, rfl, h_outcome⟩

/-- What holds of the editor once a command is begun, and is kept by the end of a save, holds after
the command. -/
theorem holds_command {P : Editor → Prop} (d : Desk) (c : Editor.Command) (fails : Bool)
    (h_begin : P (d.editor.begin c).1)
    (h_finish : ∀ e t saved, P e → P (Editor.finish e t saved).1) :
    P (d.command c fails).1.editor := by
  simp only [command]
  generalize d.editor.begin c = begun at h_begin ⊢
  obtain ⟨e, events, outcome | t⟩ := begun
  · exact h_begin
  · exact h_finish e t _ h_begin

/-- A command leaves the key alone. -/
theorem key_command (d : Desk) (c : Editor.Command) (fails : Bool) :
    (d.command c fails).1.editor.saver.key = d.editor.saver.key := by
  have h_begin := (Editor.begins_begin d.editor c).sameStore.key
  apply holds_command (P := fun e => e.saver.key = d.editor.saver.key) d c fails h_begin
  intro e t saved h_key
  exact (Editor.sameStore_finish e t saved).key.trans h_key

/-- Every act keeps the book in order and the key. -/
theorem keeps_step {key : Value} (d : Desk) (a : Act) (h : d.Keeps key) :
    (d.step a).1.Keeps key := by
  cases a with
  | aside a h_aside =>
    obtain ⟨h_work, -⟩ := step_aside d h_aside
    exact ⟨h_work.book ▸ h.book, h_work.key.trans h.key⟩
  | command c fails =>
    refine ⟨?_, (key_command d c fails).trans h.key⟩
    cases taken_command h.book c fails with
    | ended h_book => exact h_book ▸ h.book
    | unstorable h_edit => exact h_edit.inOrder h.book
    | saved h_edit => exact h_edit.inOrder h.book
    | undone h_book => exact h_book ▸ h.book

/-- A command that is said to be saved has stored the list. -/
theorem stored_of_answer {key : Value} (d : Desk) (a : Act) (h : d.Keeps key)
    (h_answer : Says (d.step a).2 .ok) : (d.step a).1.Stored key := by
  cases a with
  | aside a h_aside =>
    obtain ⟨-, -, h_none⟩ := step_aside d h_aside
    obtain ⟨reply, h_some, -⟩ := h_answer
    cases h_none.symm.trans h_some
  | command c fails =>
    cases taken_command h.book c fails with
    | ended _ _ _ _ h_ok => exact absurd h_answer h_ok
    | unstorable _ _ _ _ h_outcome =>
      obtain ⟨reply, h_some, -⟩ := h_answer
      cases h_outcome.symm.trans h_some
    | @saved _ name _ h_key _ h_saved =>
      refine ⟨name, h.key ▸ h_key, ?_⟩
      rw [Storage.Memory.load, step, h_saved, List.getLast?_concat]
    | undone _ _ _ _ h_rolledBack => cases h_answer.unique h_rolledBack

/-- Whatever is done when the list is stored leaves the list stored. -/
theorem stored_step {key : Value} (d : Desk) (a : Act) (h : d.Keeps key) (h_stored : d.Stored key) :
    (d.step a).1.Stored key := by
  obtain ⟨name, h_name, h_load⟩ := h_stored
  have unchanged {d' : Desk} (h_book : d'.editor.book = d.editor.book)
      (h_saved : d'.memory.saved = d.memory.saved) : d'.Stored key :=
    ⟨name, h_name, by rw [Storage.Memory.load, h_saved, h_book]; exact h_load⟩
  cases a with
  | aside a h_aside =>
    obtain ⟨h_work, h_memory, -⟩ := step_aside d h_aside
    exact unchanged h_work.book (congrArg _ h_memory)
  | command c fails =>
    cases taken_command h.book c fails with
    | ended h_book _ h_saved => exact unchanged h_book h_saved
    | unstorable _ h_none =>
      rw [h.key] at h_none
      cases h_none.symm.trans h_name
    | saved _ _ _ _ _ h_answer => exact stored_of_answer d (.command c fails) h h_answer
    | undone h_book _ h_saved => exact unchanged h_book h_saved

/-- **What the user is told is what has happened.**  An editor with a sentinel is made of any raw
list and saves to a place in memory; commands are carried out one after another, and each save
may fail.  Whatever has been done so far, the answer to the next command is that it was saved
exactly if its only save has succeeded, and that it was undone exactly if its only save has
failed; both are reported in full, and a command that was not carried out has tried no save.  Once
a command was said to be saved, the payload that was saved last is the list. -/
theorem tells_command (settings : Settings) (form : Form) (renderer : Option String)
    (rules : List Rule) (memory : Storage.Memory) (acts : List Act) (c : Editor.Command)
    (fails : Bool) (h_final : settings.hasFinal = true) :
    let start := new settings form renderer rules memory
    let d := Run.after step start acts
    Tells d (d.command c fails).1 (d.command c fails).2 ∧
      ((∃ seen ∈ Run.shown step start acts, Says seen .ok) → d.Stored settings.ruleKey) := by
  intro start d
  have h_start : start.Keeps settings.ruleKey :=
    ⟨Workbench.inOrder_new form renderer rules h_final, rfl⟩
  have h_acts : Run.Allowed step (fun _ _ => True) start acts :=
    Run.allowed_of_forall fun _ _ _ => trivial
  constructor
  · have h_keeps : d.Keeps settings.ruleKey :=
      Run.inv_after (fun d a h _ => keeps_step d a h) h_start h_acts
    exact (taken_command h_keeps.book c fails).tells
  · intro h_answer
    exact Run.once_shown (fun d a h _ => keeps_step d a h) (fun d a h _ => stored_of_answer d a h)
      (fun d a h _ => stored_step d a h) h_start h_acts (.inr h_answer)

/-- A deletion that is saved, a move that is not, and then a refused deletion of the sentinel. -/
theorem tells_refused_deletion :
    let start := new {} ⟨{}, none, none⟩ (some "table") [.onValue "a", .onValue "b", .onValue "c"] {}
    let acts : List Act := [.command (.delete 0 (some true)) false, .aside (.startDrag 1) trivial,
      .command (.drop 0 false) true]
    let d := Run.after step start acts
    Settings.hasFinal {} = true ∧
      Tells d (d.command (.delete 2 none) false).1 (d.command (.delete 2 none) false).2 ∧
      ((∃ seen ∈ Run.shown step start acts, Says seen .ok) → d.Stored (Settings.ruleKey {})) :=
  ⟨rfl, tells_command {} _ _ _ {} _ _ false rfl⟩

end Desk

end Rulebook
