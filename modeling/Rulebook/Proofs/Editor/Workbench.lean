/-
  Rulebook.Proofs.Editor.Workbench

  An editor at work: commands are started, and the saves that they begin are ended, in any order.
  Whatever a user and a storage may do to an editor is a list of acts on a workbench, and a run
  of such a list is a run of commands.  In between dialogs may be opened, filled and closed, rules
  may be picked up, and the list may be drawn.

  Two statements about one act carry all statements about runs.

    * `turn_step`: what an act can do to the book and to the saves.
    * `shows_step`: whatever an act has drawn or handed to the storage is the list that it
      leaves.
-/
import Rulebook.Proofs.Editor.Begin
import Rulebook.Proofs.Run

namespace Rulebook

/-! ## Ending a save -/

theorem Saver.render_eq_map (s : Saver) :
    s.render = s.renderer.toList.map fun name => .rendered name s.book.rules := by
  unfold render
  cases s.renderer <;> rfl

/-- The list is drawn as it is. -/
theorem Saver.rendered_render {s : Saver} {name : String} {rules : List Rule}
    (h : .rendered name rules ∈ s.render) : rules = s.book.rules := by
  rw [render_eq_map] at h
  obtain ⟨_, -, h⟩ := List.mem_map.1 h
  exact (Event.rendered.inj h).2.symm

namespace Editor

variable {e : Editor} {t : Ticket}

/-- The editor with a book, after a save has ended. -/
def landed (e : Editor) (book : Book) : Editor :=
  { e with saver := { e.saver with book, inFlight := e.saver.inFlight - 1 } }

/-- A save that has succeeded leaves the book alone; the list is drawn. -/
theorem finish_saved (e : Editor) (t : Ticket) :
    e.finish t true =
      ((e.landed e.book).releaseDialog t.origin, .afterSave true :: (e.landed e.book).render,
        .ok t.onSaved) := rfl

/-- If the undo of a command whose save has failed leads to a book, the list of it is drawn, a
notice is given, and the answer is that the command was undone. -/
theorem finish_of_undone {b : Book} (h : t.undo.run e.book = (b, .ok ())) :
    e.finish t false =
      ((e.landed b).releaseDialog t.origin,
        .afterSave false :: (e.landed b).render ++ [.notice saveFailedNotice],
        .ok t.onRolledBack) := by
  have h : t.undo.run e.saver.book = (b, .ok ()) := h
  simp only [finish, Saver.finish, Saver.recover, h]
  rfl

/-- If the undo is refused, nothing is drawn. -/
theorem finish_of_stuck {b : Book} {error : Book.Error}
    (h : t.undo.run e.book = (b, .error error)) :
    e.finish t false = (e.landed b, [.afterSave false], (e.landed b).stuck t.origin error) := by
  have h : t.undo.run e.saver.book = (b, .error error) := h
  simp only [finish, Saver.finish, Saver.recover, h]
  rfl

/-- The end of a save leaves the book alone if it has succeeded, and undoes the command if not. -/
theorem book_finish (e : Editor) (t : Ticket) (saved : Bool) :
    (e.finish t saved).1.book = if saved then e.book else (t.undo.run e.book).1 := by
  have h_release (b : Book) : ((e.landed b).releaseDialog t.origin).book = b :=
    (sameBook_releaseDialog (e.landed b) t.origin).book
  cases saved with
  | true =>
    rw [finish_saved]
    exact h_release e.book
  | false =>
    rw [if_neg Bool.false_ne_true]
    cases h : t.undo.run e.book with
    | mk b outcome =>
      cases outcome with
      | ok =>
        rw [finish_of_undone h]
        exact h_release b
      | error error =>
        rw [finish_of_stuck h]
        rfl

/-- What is drawn at the end of a save is the list that is left. -/
theorem rendered_finish {saved : Bool} {name : String} {rules : List Rule}
    (h : .rendered name rules ∈ (e.finish t saved).2.1) :
    rules = (e.finish t saved).1.book.rules := by
  rw [book_finish]
  cases saved with
  | true =>
    rw [finish_saved] at h
    rcases List.mem_cons.1 h with h | h
    · exact nomatch h
    · exact Saver.rendered_render h
  | false =>
    rw [if_neg Bool.false_ne_true]
    cases h_run : t.undo.run e.book with
    | mk b outcome =>
      cases outcome with
      | error error =>
        rw [finish_of_stuck h_run] at h
        exact absurd (List.mem_singleton.1 h) nofun
      | ok =>
        rw [finish_of_undone h_run] at h
        rcases List.mem_append.1 h with h | h
        · rcases List.mem_cons.1 h with h | h
          · exact nomatch h
          · exact Saver.rendered_render h
        · exact absurd (List.mem_singleton.1 h) nofun

end Editor

/-! ## The workbench -/

/-- An editor, and the saves that are under way, the last one first. -/
structure Workbench where
  editor : Editor
  pending : List Editor.Ticket := []

/-- What can be seen of an act. -/
structure Seen where
  /-- what was reported -/
  events : List Event := []
  /-- what was handed to the storage -/
  payload : Option Value := none
  /-- the answer, if a command has ended -/
  outcome : Option Editor.Outcome := none

/-- Whatever was drawn or handed to the storage is the list of a book. -/
structure Seen.Shows (seen : Seen) (b : Book) : Prop where
  drawn : ∀ name rules, .rendered name rules ∈ seen.events → rules = b.rules
  stored : ∀ payload ∈ seen.payload, ∃ key, payload = b.toValue key

/-- To ask the user, or to do less than that, is to show no list. -/
theorem Seen.shows_of_asked {events : List Event} {outcome : Option Editor.Outcome} {b : Book}
    (h : ∀ event ∈ events, event = .asked) : Shows { events, outcome } b := by
  constructor
  · intro name rules hmem
    exact nomatch h _ hmem
  · intro payload hmem
    exact nomatch hmem

namespace Workbench

/-- What can be done at a workbench. -/
inductive Act where
  | openAdd
  | openEdit (i : Int)
  | setField (number : Nat) (name : Name) (value : Value)
  | closeDialog
  | startDrag (i : Int)
  | endDrag
  | attach (renderer : Option String)
  | redraw
  /-- begins a command; if it changes the list, its save is under way afterwards -/
  | start (c : Editor.Command)
  /-- ends one of the saves that are under way -/
  | finish (k : Nat) (saved : Bool)

/-- The workbench with the editor in another state. -/
def withEditor (w : Workbench) (editor : Editor) : Workbench :=
  { w with editor }

@[simp] theorem editor_withEditor (w : Workbench) (editor : Editor) :
    (w.withEditor editor).editor = editor := rfl

/-- Does one thing. -/
def step (w : Workbench) : Act → Workbench × Seen
  | .openAdd => (w.withEditor w.editor.openAdd.1, {})
  | .openEdit i => (w.withEditor (w.editor.openEdit i).1, {})
  | .setField n name value =>
    match w.editor.setField n name value with
    | .ok editor => (w.withEditor editor, {})
    | .error _ => (w, {})
  | .closeDialog => (w.withEditor w.editor.closeDialog, {})
  | .startDrag i => (w.withEditor (w.editor.startDrag i).1, {})
  | .endDrag => (w.withEditor w.editor.endDrag, {})
  | .attach renderer => (w.withEditor (w.editor.attach renderer), {})
  | .redraw => (w, { events := w.editor.render })
  | .start c =>
    match w.editor.begin c with
    | (editor, events, .done outcome) => (w.withEditor editor, { events, outcome })
    | (editor, events, .saving t) =>
      ({ editor, pending := t :: w.pending }, { events, payload := some t.payload })
  | .finish k saved =>
    match w.pending[k]? with
    | none => (w, {})
    | some t =>
      let (editor, events, outcome) := w.editor.finish t saved
      ({ editor, pending := w.pending.eraseIdx k }, { events, outcome })

/-- A workbench with an editor of a raw list, which is drawn. -/
def new (settings : Settings) (form : Form) (renderer : Option String) (rules : List Rule) :
    Workbench × Seen :=
  let (editor, events) := Editor.new settings form renderer rules
  ({ editor }, { events })

/-! ## What an act comes to -/

/-- What an act can do to the book and to the saves. -/
inductive Turn (w w' : Workbench) : Act → Prop where
  /-- both are as they were -/
  | quiet {a : Act} (h_book : w'.editor.book = w.editor.book) (h_pending : w'.pending = w.pending) :
      Turn w w' a
  /-- a command has changed the list, which cannot be saved -/
  | edited {c : Editor.Command} {u : Undo} (h_edit : Edit w.editor.book w'.editor.book u)
      (h_pending : w'.pending = w.pending) : Turn w w' (.start c)
  /-- a command has changed the list, which is being saved -/
  | started {c : Editor.Command} {t : Editor.Ticket}
      (h_edit : Edit w.editor.book w'.editor.book t.undo) (h_pending : w'.pending = t :: w.pending) :
      Turn w w' (.start c)
  /-- a save has ended -/
  | finished {k : Nat} {saved : Bool} {t : Editor.Ticket} (h_ticket : w.pending[k]? = some t)
      (h_book : w'.editor.book = if saved then w.editor.book else (t.undo.run w.editor.book).1)
      (h_pending : w'.pending = w.pending.eraseIdx k) : Turn w w' (.finish k saved)

variable {w : Workbench}

theorem Turn.of_sameBook {a : Act} {editor : Editor} (h : Editor.SameBook w.editor editor) :
    Turn w (w.withEditor editor) a :=
  .quiet h.book rfl

theorem sameBook_setField {e e' : Editor} {n : Nat} {name : Name} {value : Value}
    (h : e.setField n name value = .ok e') : Editor.SameBook e e' := by
  unfold Editor.setField at h
  split at h
  · exact nomatch h
  · obtain ⟨⟨d, _⟩, -, h⟩ := bind_eq_ok_iff.1 h
    rw [← Except.ok.inj h]
    exact Editor.sameBook_withDialog e n d

theorem turn_step (w : Workbench) (a : Act) : Turn w (w.step a).1 a := by
  cases a with
  | openAdd => exact .of_sameBook (Editor.sameBook_openDialog w.editor none (-1))
  | openEdit i => exact .of_sameBook (Editor.sameBook_openEdit w.editor i)
  | setField n name value =>
    simp only [step]
    split
    · rename_i h
      exact .of_sameBook (sameBook_setField h)
    · exact .quiet rfl rfl
  | closeDialog => exact .of_sameBook (Editor.sameBook_closeDialog w.editor)
  | startDrag i =>
    refine .quiet ?_ rfl
    simp only [step, withEditor, Editor.startDrag]
    split <;> rfl
  | endDrag => exact .quiet rfl rfl
  | attach renderer => exact .quiet rfl rfl
  | redraw => exact .quiet rfl rfl
  | start c =>
    have h := Editor.begins_begin w.editor c
    simp only [step]
    generalize w.editor.begin c = begun at h ⊢
    cases h with
    | ended h_same => exact .of_sameBook h_same
    | @unstorable e' _ book _ h_edit _ h_same =>
      have h_book : e'.book = book := h_same.book
      exact .edited (by rwa [editor_withEditor, h_book]) rfl
    | @saving e' _ book _ t h_edit _ _ h_same =>
      have h_book : e'.book = book := h_same.book
      exact .started (by rwa [h_book]) rfl
  | finish k saved =>
    simp only [step]
    split
    · exact .quiet rfl rfl
    · rename_i t h_ticket
      exact .finished h_ticket (Editor.book_finish w.editor t saved) rfl

/-- Whatever an act has drawn or handed to the storage is the list that it leaves. -/
theorem shows_step (w : Workbench) (a : Act) : (w.step a).2.Shows (w.step a).1.editor.book := by
  have h_nothing {b : Book} : Seen.Shows {} b := Seen.shows_of_asked fun _ hmem => nomatch hmem
  cases a with
  | openAdd => exact h_nothing
  | openEdit i => exact h_nothing
  | setField n name value =>
    simp only [step]
    split
    · exact h_nothing
    · exact h_nothing
  | closeDialog => exact h_nothing
  | startDrag i => exact h_nothing
  | endDrag => exact h_nothing
  | attach renderer => exact h_nothing
  | redraw =>
    constructor
    · intro name rules hmem
      exact Saver.rendered_render hmem
    · intro payload hmem
      exact nomatch hmem
  | start c =>
    have h := Editor.begins_begin w.editor c
    simp only [step]
    generalize w.editor.begin c = begun at h ⊢
    cases h with
    | ended _ h_events => exact Seen.shows_of_asked h_events
    | unstorable _ _ _ h_events => exact Seen.shows_of_asked h_events
    | @saving e' _ book key t _ _ h_payload h_same h_events =>
      have h_book : e'.book = book := h_same.book
      constructor
      · intro name rules hmem
        exact nomatch h_events _ hmem
      · intro payload hmem
        refine ⟨key, ?_⟩
        rw [← Option.some.inj hmem, h_payload, h_book]
  | finish k saved =>
    simp only [step]
    split
    · exact h_nothing
    · constructor
      · intro name rules hmem
        exact Editor.rendered_finish hmem
      · intro payload hmem
        exact nomatch hmem

end Workbench

end Rulebook
