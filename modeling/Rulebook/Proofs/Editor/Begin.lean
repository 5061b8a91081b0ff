/-
  Rulebook.Proofs.Editor.Begin

  What beginning a command comes to, for every command at once (`begins_begin`).

    * The command is over, and nothing has changed but dialogs and the gesture.
    * The list has changed by one edit and is being saved.  The ticket holds the payload of the
      new list and undoes that edit.
    * The list has changed by one edit, but its key is no name, so there is nothing to save.

  All that is said later about runs of commands is said from these three cases; no other module
  opens a command.
-/
import Rulebook.Proofs.Book.Edit

namespace Rulebook

/-! ## What a commit does to the book -/

namespace Dialog

variable {b b' : Book}

/-- How the edit of a commit is undone. -/
def undoOf (index : Int) (previous : Option Rule) : Undo :=
  match previous with
  | none => .delete index
  | some previous => .replace index previous

/-- Storing a draft is one edit. -/
theorem edit_of_store {draft : Draft} {r r' : Rule} {index : Int} {previous : Option Rule}
    (h : store b draft r = .ok (b', .stored r' index previous)) :
    Edit b b' (undoOf index previous) := by
  unfold store at h
  split at h
  · obtain ⟨⟨b'', i⟩, hi, h⟩ := bind_eq_ok_iff.1 h
    obtain ⟨rfl, hc⟩ := Prod.mk.inj (Except.ok.inj h)
    obtain ⟨-, rfl, rfl⟩ := Commit.stored.inj hc
    exact .insert hi
  · obtain ⟨⟨b'', r''⟩, hr, h⟩ := bind_eq_ok_iff.1 h
    obtain ⟨rfl, hc⟩ := Prod.mk.inj (Except.ok.inj h)
    obtain ⟨-, rfl, rfl⟩ := Commit.stored.inj hc
    exact .replace hr

/-- A commit that stores its rule edits the book once. -/
theorem edit_of_commit {form : Form} {d d' : Dialog} {r : Rule} {index : Int}
    {previous : Option Rule} (h : d.commit form b = .ok (d', b', .stored r index previous)) :
    Edit b b' (undoOf index previous) := by
  obtain ⟨draft, -, h⟩ := bind_eq_ok_iff.1 h
  dsimp only at h
  split at h
  · exact nomatch h
  · split at h
    · rename_i p hs
      obtain ⟨-, h⟩ := Prod.mk.inj (Except.ok.inj h)
      obtain ⟨rfl, rfl⟩ := Prod.mk.inj h
      exact edit_of_store hs
    · exact nomatch h

end Dialog

namespace Editor

/-! ## What dialogs and the gesture leave alone -/

/-- Two editors differ in their dialogs and in the gesture at most. -/
structure SameBook (e e' : Editor) : Prop where
  settings : e'.settings = e.settings
  form : e'.form = e.form
  saver : e'.saver = e.saver

namespace SameBook

variable {e e' e'' : Editor}

theorem refl (e : Editor) : SameBook e e := ⟨rfl, rfl, rfl⟩

theorem trans (h : SameBook e e') (h' : SameBook e' e'') : SameBook e e'' :=
  ⟨h'.settings.trans h.settings, h'.form.trans h.form, h'.saver.trans h.saver⟩

theorem book (h : SameBook e e') : e'.book = e.book := congrArg Saver.book h.saver

end SameBook

theorem sameBook_withDialog (e : Editor) (n : Nat) (d : Dialog) : SameBook e (e.withDialog n d) :=
  ⟨rfl, rfl, rfl⟩

theorem sameBook_closeDialog (e : Editor) : SameBook e e.closeDialog := by
  unfold closeDialog
  split
  · exact .refl e
  · split
    · split
      · exact ⟨rfl, rfl, rfl⟩
      · exact ⟨rfl, rfl, rfl⟩
    · exact ⟨rfl, rfl, rfl⟩

theorem sameBook_openDialog (e : Editor) (existing : Option Rule) (index : Int) :
    SameBook e (e.openDialog existing index).1 := by
  have h := sameBook_closeDialog e
  unfold openDialog
  dsimp only
  split
  · split
    · exact h.trans ⟨rfl, rfl, rfl⟩
    · exact h
  · exact h

theorem sameBook_openEdit (e : Editor) (i : Int) : SameBook e (e.openEdit i).1 := by
  unfold openEdit
  split
  · exact .refl e
  · exact sameBook_openDialog e _ i

theorem sameBook_releaseDialog (e : Editor) (origin : Origin) :
    SameBook e (e.releaseDialog origin) := by
  cases origin with
  | list => exact .refl e
  | toggle i => exact .refl e
  | dialog n =>
    simp only [releaseDialog]
    split
    · exact ⟨rfl, rfl, rfl⟩
    · exact sameBook_withDialog e n {}

/-! ## The three cases -/

/-- A command that is over without a save: it answers neither that it was saved nor that it was
undone. -/
def Idle (outcome : Outcome) : Prop :=
  ∀ reply, outcome = .ok reply → reply.status ≠ .ok ∧ reply.status ≠ .rolledBack

/-- The editor with a book that is being saved. -/
def saving (e : Editor) (book : Book) : Editor :=
  { e with saver := { e.saver with book, inFlight := e.saver.inFlight + 1 } }

/-- The editor with a book that cannot be saved. -/
def unsaved (e : Editor) (book : Book) : Editor :=
  { e with saver := { e.saver with book } }

/-- What beginning a command comes to. -/
inductive Begins (e : Editor) : Editor × List Event × Begun → Prop where
  /-- the command is over -/
  | ended {e' : Editor} {events : List Event} {outcome : Outcome} (h_same : SameBook e e')
      (h_events : ∀ event ∈ events, event = .asked) (h_idle : Idle outcome) :
      Begins e (e', events, .done outcome)
  /-- the list has changed, but there is no name to store it under -/
  | unstorable {e' : Editor} {events : List Event} {book : Book} {u : Undo}
      (h_edit : Edit e.book book u) (h_key : e.saver.key.name? = none)
      (h_same : SameBook (e.unsaved book) e') (h_events : ∀ event ∈ events, event = .asked) :
      Begins e (e', events, .done (.error (.reading .notName)))
  /-- the list has changed and is being saved -/
  | saving {e' : Editor} {events : List Event} {book : Book} {name : Name} {t : Ticket}
      (h_edit : Edit e.book book t.undo) (h_key : e.saver.key.name? = some name)
      (h_payload : t.payload = book.toValue name) (h_same : SameBook (e.saving book) e')
      (h_events : ∀ event ∈ events, event = .asked) (h_saved : t.onSaved.status = .ok)
      (h_rolledBack : t.onRolledBack.status = .rolledBack) :
      Begins e (e', events, .saving t)

variable {e e' : Editor}

theorem SameBook.unsaved (h : SameBook e e') (book : Book) :
    SameBook (e.unsaved book) (e'.unsaved book) :=
  ⟨h.settings, h.form, by rw [Editor.unsaved, Editor.unsaved, h.saver]⟩

theorem SameBook.saving (h : SameBook e e') (book : Book) :
    SameBook (e.saving book) (e'.saving book) :=
  ⟨h.settings, h.form, by rw [Editor.saving, Editor.saving, h.saver]⟩

/-- It does not matter to a command what dialogs there are before it. -/
theorem Begins.of_sameBook {begun : Editor × List Event × Begun} (h : Begins e' begun)
    (h_same : SameBook e e') : Begins e begun := by
  cases h with
  | ended h h_events h_idle => exact .ended (h_same.trans h) h_events h_idle
  | unstorable h_edit h_key h h_events =>
    rw [h_same.book] at h_edit
    rw [h_same.saver] at h_key
    exact .unstorable h_edit h_key ((h_same.unsaved _).trans h) h_events
  | saving h_edit h_key h_payload h h_events h_saved h_rolledBack =>
    rw [h_same.book] at h_edit
    rw [h_same.saver] at h_key
    exact .saving h_edit h_key h_payload ((h_same.saving _).trans h) h_events h_saved h_rolledBack

/-- Nor does it matter to a command that the user is asked. -/
theorem Begins.of_asked {events events' : List Event} {begun : Begun}
    (h : Begins e (e', events, begun)) (h_asked : ∀ event ∈ events', event = .asked) :
    Begins e (e', events', begun) := by
  cases h with
  | ended h_same _ h_idle => exact .ended h_same h_asked h_idle
  | unstorable h_edit h_key h_same _ => exact .unstorable h_edit h_key h_same h_asked
  | saving h_edit h_key h_payload h_same _ h_saved h_rolledBack =>
    exact .saving h_edit h_key h_payload h_same h_asked h_saved h_rolledBack

theorem Begins.form {begun : Editor × List Event × Begun} (h : Begins e begun) :
    begun.1.form = e.form := by
  cases h with
  | ended h_same => exact h_same.form
  | unstorable _ _ h_same => exact h_same.form
  | saving _ _ _ h_same => exact h_same.form

theorem begins_settle (e : Editor) (reply : Reply)
    (h : reply.status ≠ .ok ∧ reply.status ≠ .rolledBack) : Begins e (e.settle reply) := by
  refine .ended (.refl e) (fun _ hmem => nomatch hmem) fun reply' hreply => ?_
  rw [← Except.ok.inj hreply]
  exact h

/-- A book that is one edit away is taken over. -/
theorem begins_launch {book : Book} {undo : Undo} (origin : Origin) (landed source : Int)
    (rule : Option Rule) (h_edit : Edit e.book book undo) :
    Begins e (e.launch book undo origin (.ofSaved landed rule) (.ofRolledBack source rule)) := by
  unfold launch Saver.launch
  cases hk : e.saver.key.name? with
  | none => exact .unstorable h_edit hk ⟨rfl, rfl, rfl⟩ fun _ hmem => nomatch hmem
  | some name =>
    exact .saving h_edit hk rfl ⟨rfl, rfl, rfl⟩ (fun _ hmem => nomatch hmem) rfl rfl

theorem idle_invalidIndex (e : Editor) (error : Book.Error) : Idle (e.invalidIndex error) := by
  intro reply hreply
  unfold invalidIndex at hreply
  split at hreply
  · exact nomatch hreply
  · rw [← Except.ok.inj hreply]
    exact ⟨nofun, nofun⟩

theorem idle_dialogError (e : Editor) (error : Book.Error) : Idle (e.dialogError error) := by
  unfold dialogError
  split
  · exact idle_invalidIndex e error
  · intro reply hreply
    rw [← Except.ok.inj hreply]
    exact ⟨nofun, nofun⟩

theorem idle_error (error : Error) : Idle (.error error) :=
  fun _ hreply => nomatch hreply

/-! ## Each command -/

/-- A command that is over without an event. -/
theorem Begins.silent {outcome : Outcome} (h_same : SameBook e e') (h_idle : Idle outcome) :
    Begins e (e', [], .done outcome) :=
  .ended h_same (fun _ hmem => nomatch hmem) h_idle

theorem begins_beginSaveDialog (e : Editor) (number : Option Nat) :
    Begins e (e.beginSaveDialog number) := by
  have h_noDialog : Begins e (e.settle { status := .noop, message := "No open dialog" }) :=
    begins_settle e _ ⟨nofun, nofun⟩
  unfold beginSaveDialog
  split
  · exact h_noDialog
  · rename_i n _
    split
    · exact h_noDialog
    · rename_i d _
      split
      · split
        · rename_i error _
          exact .silent (.refl e) (idle_dialogError e error)
        · exact h_noDialog
        · exact begins_settle e _ ⟨nofun, nofun⟩
        · -- The one case with an edit: the draft was stored in the book.
          rename_i d' book r index previous h_commit
          have h_edit : Edit (e.withDialog n d').book book (Dialog.undoOf index previous) :=
            Dialog.edit_of_commit h_commit
          cases previous with
          | none => exact (begins_launch _ _ _ _ h_edit).of_sameBook (sameBook_withDialog e n d')
          | some previous =>
            exact (begins_launch _ _ _ _ h_edit).of_sameBook (sameBook_withDialog e n d')
      · exact h_noDialog

theorem begins_beginFilled (e : Editor) (n : Nat) (values : Value) :
    Begins e (e.beginFilled n values) := by
  unfold beginFilled
  split
  · exact begins_settle e _ ⟨nofun, nofun⟩
  · split
    · exact .silent (.refl e) (idle_error _)
    · refine Begins.of_sameBook ?_ (sameBook_closeDialog e)
      exact begins_settle e.closeDialog _ ⟨nofun, nofun⟩
    · rename_i d _
      have h := (begins_beginSaveDialog (e.withDialog n d) (some n)).of_sameBook
        (sameBook_withDialog e n d)
      generalize (e.withDialog n d).beginSaveDialog (some n) = begun at h ⊢
      cases h with
      | unstorable h_edit h_key h_same h_events =>
        exact .unstorable h_edit h_key h_same h_events
      | saving h_edit h_key h_payload h_same h_events h_saved h_rolledBack =>
        exact .saving h_edit h_key h_payload h_same h_events h_saved h_rolledBack
      | @ended e' events outcome h_same h_events h_idle =>
        cases outcome with
        | error error => exact .ended h_same h_events h_idle
        | ok reply =>
          -- A dialog that the command leaves open is given up, which no list can tell.
          dsimp only
          split
          · exact .ended (h_same.trans (sameBook_closeDialog e')) h_events h_idle
          · exact .ended h_same h_events h_idle

theorem begins_beginDelete (e : Editor) (i : Int) (confirmed : Option Bool) :
    Begins e (e.beginDelete i confirmed) := by
  have h_asked : ∀ event ∈ (if confirmed.isSome then [Event.asked] else []),
      event = Event.asked := by
    intro event hmem
    split at hmem
    · exact List.mem_singleton.1 hmem
    · exact absurd hmem List.not_mem_nil
  unfold beginDelete
  split
  · exact begins_settle e _ ⟨nofun, nofun⟩
  · split
    · exact begins_settle e _ ⟨nofun, nofun⟩
    · split
      · rename_i error _
        exact .silent (.refl e) (idle_invalidIndex e error)
      · rename_i book removed h_delete
        dsimp only
        split
        · refine .ended (.refl e) h_asked fun reply hreply => ?_
          rw [← Except.ok.inj hreply]
          exact ⟨nofun, nofun⟩
        · -- What begins is the save; whether the user was asked comes on top of it.
          have h := begins_launch (e := e) .list i i none (.delete h_delete)
          generalize e.launch book _ _ _ _ = begun at h ⊢
          exact h.of_asked h_asked

/-- A move begins as the move of the book says, if that is one edit. -/
theorem begins_beginMove (e : Editor) (i : Int) (moved : Option (Book × Int × Undo))
    (h_moved : ∀ book landed undo, moved = some (book, landed, undo) → Edit e.book book undo) :
    Begins e (e.beginMove i moved) := by
  unfold beginMove
  split
  · exact begins_settle e _ ⟨nofun, nofun⟩
  · split
    · exact begins_settle e _ ⟨nofun, nofun⟩
    · rename_i book landed undo
      exact begins_launch .list landed i none (h_moved book landed undo rfl)

theorem begins_beginRelocate (e : Editor) (source target : Int) (after : Bool) :
    Begins e (e.beginRelocate source target after) := by
  refine begins_beginMove e source _ fun book landed undo h => ?_
  obtain ⟨⟨book', k⟩, h_relocate, hp⟩ := Option.map_eq_some_iff.1 h
  obtain ⟨rfl, rfl, rfl⟩ : book' = book ∧ (k : Int) = landed ∧ Undo.carry k source = undo := by
    simpa using hp
  exact .relocate h_relocate

theorem begins_beginToggle (e : Editor) (i : Int) (enabled : Value) :
    Begins e (e.beginToggle i enabled) := by
  unfold beginToggle
  split
  · exact begins_settle e _ ⟨nofun, nofun⟩
  · split
    · rename_i book previous h_toggle
      exact begins_launch (.toggle i) i i none (.toggle h_toggle)
    · rename_i error _
      split
      · exact .silent (.refl e) (idle_invalidIndex e error)
      · exact begins_settle e _ ⟨nofun, nofun⟩

/-- **What beginning a command comes to.**  Every command is over without a change of the list, or
has changed it by one edit. -/
theorem begins_begin (e : Editor) (c : Command) : Begins e (e.begin c) := by
  cases c with
  | add values =>
    have h_same := sameBook_openDialog e none (-1)
    simp only [begin, openAdd]
    generalize e.openDialog none (-1) = opened at h_same ⊢
    obtain ⟨e', result⟩ := opened
    cases result with
    | error error => exact .silent h_same (idle_error error)
    | ok n => exact (begins_beginFilled e' n values).of_sameBook h_same
  | update i values =>
    have h_same := sameBook_openEdit e i
    simp only [begin]
    generalize e.openEdit i = opened at h_same ⊢
    obtain ⟨e', result⟩ := opened
    cases result with
    | ok n => exact (begins_beginFilled e' n values).of_sameBook h_same
    | error error =>
      cases error with
      | book error => exact .silent h_same (idle_invalidIndex e' error)
      | reading error => exact .silent h_same (idle_error _)
  | saveDialog number => exact begins_beginSaveDialog e number
  | delete i confirmed => exact begins_beginDelete e i confirmed
  | moveUp i =>
    refine begins_beginMove e i _ fun book landed undo h => ?_
    obtain ⟨book', h_move, hp⟩ := Option.map_eq_some_iff.1 h
    obtain ⟨rfl, rfl, rfl⟩ : book' = book ∧ i - 1 = landed ∧ Undo.moveDown (i - 1) = undo := by
      simpa using hp
    exact .moveUp h_move
  | moveDown i =>
    refine begins_beginMove e i _ fun book landed undo h => ?_
    obtain ⟨book', h_move, hp⟩ := Option.map_eq_some_iff.1 h
    obtain ⟨rfl, rfl, rfl⟩ : book' = book ∧ i + 1 = landed ∧ Undo.moveUp (i + 1) = undo := by
      simpa using hp
    exact .moveDown h_move
  | relocate source target after => exact begins_beginRelocate e source target after
  | drop target after =>
    -- The gesture ends first, whether anything was held or not.
    have h_same : SameBook e e.endDrag := ⟨rfl, rfl, rfl⟩
    simp only [begin]
    split
    · refine Begins.of_sameBook ?_ h_same
      exact begins_settle e.endDrag _ ⟨nofun, nofun⟩
    · exact (begins_beginRelocate e.endDrag _ target after).of_sameBook h_same
  | toggle i enabled => exact begins_beginToggle e i enabled

end Editor

end Rulebook
