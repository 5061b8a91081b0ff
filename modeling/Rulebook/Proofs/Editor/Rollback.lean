/-
  Rulebook.Proofs.Editor.Rollback

  Saves that fail in the reverse of the order in which they were begun are undone exactly, however
  many of them overlap (`rollback_nested`).

  The saves that are under way are a stack.  Each command leaves its own undo on top, and the
  commands that are started after it take back what they did before it is its turn: `startFail`,
  which starts commands and then fails all their saves, leaves the book and the stack as they
  were.
-/
import Rulebook.Proofs.Editor.Sentinel

namespace Rulebook

namespace Editor

/-- Two editors store their lists under one key, and draw them in one place. -/
structure SameStore (e e' : Editor) : Prop where
  key : e'.saver.key = e.saver.key
  renderer : e'.saver.renderer = e.saver.renderer

namespace SameStore

variable {e e' e'' : Editor}

theorem refl (e : Editor) : SameStore e e := ⟨rfl, rfl⟩

theorem symm (h : SameStore e e') : SameStore e' e :=
  ⟨h.key.symm, h.renderer.symm⟩

theorem trans (h : SameStore e e') (h' : SameStore e' e'') : SameStore e e'' :=
  ⟨h'.key.trans h.key, h'.renderer.trans h.renderer⟩

end SameStore

theorem SameBook.sameStore {e e' : Editor} (h : SameBook e e') : SameStore e e' := by
  constructor
  · rw [h.saver]
  · rw [h.saver]

theorem Begins.sameStore {e : Editor} {begun : Editor × List Event × Begun} (h : Begins e begun) :
    SameStore e begun.1 := by
  cases h with
  | ended h_same => exact h_same.sameStore
  | @unstorable _ _ book _ _ _ h_same =>
    have h_unsaved : SameStore e (e.unsaved book) := ⟨rfl, rfl⟩
    exact h_unsaved.trans h_same.sameStore
  | @saving _ _ book _ _ _ _ _ h_same =>
    have h_saving : SameStore e (e.saving book) := ⟨rfl, rfl⟩
    exact h_saving.trans h_same.sameStore

theorem sameStore_landed (e : Editor) (b : Book) : SameStore e (e.landed b) := ⟨rfl, rfl⟩

end Editor

namespace Workbench

variable {w : Workbench}

/-- How many saves were begun. -/
def saves (seen : List Seen) : Nat :=
  seen.countP fun s => s.payload.isSome

/-- The acts that start commands one after another. -/
def starts (commands : List Editor.Command) : List Act :=
  commands.map .start

/-- The workbench after commands were started and all their saves have failed, the last one
first. -/
def startFail (w : Workbench) (commands : List Editor.Command) : Workbench :=
  Run.after step w (starts commands ++
    List.replicate (saves (Run.shown step w (starts commands))) (.finish 0 false))

/-! ## One save -/

/-- What starting a command does to a workbench whose list can be stored. -/
theorem start_cases {name : Name} (h_key : w.editor.saver.key.name? = some name)
    (c : Editor.Command) :
    let w' := (w.step (.start c)).1
    Editor.SameStore w.editor w'.editor ∧
      (w'.editor.book = w.editor.book ∧ w'.pending = w.pending ∧
          (w.step (.start c)).2.payload = none ∨
        ∃ t, Edit w.editor.book w'.editor.book t.undo ∧ w'.pending = t :: w.pending ∧
          (w.step (.start c)).2.payload = some t.payload ∧ t.onRolledBack.status = .rolledBack) := by
  have h := Editor.begins_begin w.editor c
  have h_store := h.sameStore
  simp only [step]
  generalize w.editor.begin c = begun at h h_store ⊢
  cases h with
  | ended h_same => exact ⟨h_store, .inl ⟨h_same.book, rfl, rfl⟩⟩
  | unstorable _ h_none =>
    exact absurd (h_key.symm.trans h_none) (Option.some_ne_none name)
  | @saving e' _ book _ t h_edit _ _ h_same _ _ h_rolledBack =>
    have h_book : e'.book = book := h_same.book
    exact ⟨h_store, .inr ⟨t, by rwa [h_book], rfl, rfl, h_rolledBack⟩⟩

/-- A list that is handed to the storage has a name there. -/
theorem key_of_payload {c : Editor.Command}
    (h_saving : (w.step (.start c)).2.payload.isSome = true) :
    ∃ name, w.editor.saver.key.name? = some name := by
  have h := Editor.begins_begin w.editor c
  simp only [step] at h_saving
  generalize w.editor.begin c = begun at h h_saving
  cases h with
  | ended => exact absurd h_saving Bool.false_ne_true
  | unstorable => exact absurd h_saving Bool.false_ne_true
  | saving _ h_key => exact ⟨_, h_key⟩

/-- The last save that was begun fails, and the undo of its command leads to a book. -/
theorem step_finish_of_undone {t : Editor.Ticket} {rest : List Editor.Ticket} {b : Book}
    (h_pending : w.pending = t :: rest) (h_run : t.undo.run w.editor.book = (b, .ok ())) :
    let w' := (w.step (.finish 0 false)).1
    w'.editor.book = b ∧ w'.pending = rest ∧ Editor.SameStore w.editor w'.editor ∧
      (w.step (.finish 0 false)).2 =
        { events := .afterSave false ::
            (w.editor.saver.renderer.toList.map fun name => .rendered name b.rules) ++
              [.notice saveFailedNotice]
          outcome := some (.ok t.onRolledBack) } := by
  have h_ticket : w.pending[0]? = some t := by rw [h_pending, List.getElem?_cons_zero]
  have h_release := Editor.sameBook_releaseDialog (w.editor.landed b) t.origin
  have h_landed := Editor.sameStore_landed w.editor b
  simp only [step, h_ticket, Editor.finish_of_undone h_run]
  refine ⟨h_release.book, ?_, h_landed.trans h_release.sameStore, ?_⟩
  · rw [h_pending, List.eraseIdx_cons_zero]
  · rw [Editor.render, Saver.render_eq_map]
    rfl

/-! ## Saves that overlap -/

/-- Commands whose saves fail, the last one first, leave nothing behind. -/
theorem startFail_eq {name : Name} (h_key : w.editor.saver.key.name? = some name)
    (h_order : w.editor.book.InOrder) (commands : List Editor.Command) :
    (w.startFail commands).editor.book = w.editor.book ∧
      (w.startFail commands).pending = w.pending ∧
        Editor.SameStore w.editor (w.startFail commands).editor := by
  induction commands generalizing w with
  | nil => exact ⟨rfl, rfl, .refl _⟩
  | cons c rest ih =>
    obtain ⟨h_store, h_cases⟩ := start_cases h_key c
    have h_key' : (w.step (.start c)).1.editor.saver.key.name? = some name := by
      rw [h_store.key, h_key]
    rcases h_cases with ⟨h_book, h_pending, h_payload⟩ | ⟨t, h_edit, h_pending, h_payload, -⟩
    · -- The command has begun no save, so nothing of it is to be undone.
      have h_rest : w.startFail (c :: rest) = (w.step (.start c)).1.startFail rest := by
        simp only [startFail, starts, saves, List.map_cons, List.cons_append, Run.after, Run.shown,
          List.countP_cons, h_payload, Option.isSome_none, Bool.false_eq_true, if_false,
          Nat.add_zero]
      obtain ⟨hb, hp, hs⟩ := ih h_key' (by rw [h_book]; exact h_order)
      rw [h_rest, hb, hp]
      exact ⟨h_book, h_pending, h_store.trans hs⟩
    · -- The saves of the later commands have failed, so its own is the last one again.
      have h_rest : w.startFail (c :: rest) =
          (((w.step (.start c)).1.startFail rest).step (.finish 0 false)).1 := by
        simp only [startFail, starts, saves, List.map_cons, List.cons_append, Run.after, Run.shown,
          List.countP_cons, h_payload, Option.isSome_some, if_true, List.replicate_succ',
          ← List.append_assoc, Run.after_append]
      obtain ⟨hb, hp, hs⟩ := ih h_key' (h_edit.inOrder h_order)
      have h_run : t.undo.run ((w.step (.start c)).1.startFail rest).editor.book =
          (w.editor.book, .ok ()) := by
        rw [hb]
        exact h_edit.run_undo h_order.rules.endsFixed
      obtain ⟨hb', hp', hs', -⟩ := step_finish_of_undone (hp.trans h_pending) h_run
      rw [h_rest, hb', hp']
      exact ⟨rfl, rfl, (h_store.trans hs).trans hs'⟩

/-- Starting commands keeps the book in order. -/
theorem inOrder_starts (h_order : w.editor.book.InOrder) (commands : List Editor.Command) :
    (Run.after step w (starts commands)).editor.book.InOrder := by
  have h_allowed : Run.Allowed step (fun w a => ¬ w.Overshoots a) w (starts commands) := by
    refine Run.allowed_of_forall fun w a ha => ?_
    obtain ⟨c, -, rfl⟩ := List.mem_map.1 ha
    exact id
  exact Run.inv_after inOrder_step h_order h_allowed

/-- **Failed saves are undone exactly.**  Commands are started one after another while the saves
of the earlier ones are under way, and then all these saves fail, the last one first.  When it is
the turn of one of them, the list becomes what it was immediately before that command was started.
It is drawn once, if there is a renderer, one notice is given, and the answer is that the command
was undone. -/
theorem rollback_nested (w : Workbench) (before later : List Editor.Command) (c : Editor.Command)
    (h_order : w.editor.book.InOrder)
    (h_saving : ((Run.after step w (starts before)).step (.start c)).2.payload.isSome = true) :
    let earlier := Run.after step w (starts before)
    let ended := ((earlier.step (.start c)).1.startFail later).step (.finish 0 false)
    ended.1.editor.rules = earlier.editor.rules ∧ ended.1.pending = earlier.pending ∧
      ended.2.events = .afterSave false ::
        (earlier.editor.saver.renderer.toList.map fun name =>
          .rendered name earlier.editor.rules) ++ [.notice saveFailedNotice] ∧
      ∃ reply, ended.2.outcome = some (.ok reply) ∧ reply.status = .rolledBack := by
  -- The earlier commands matter only in that they leave the book in order.
  have h_earlier := inOrder_starts h_order before
  generalize Run.after step w (starts before) = earlier at h_saving h_earlier
  obtain ⟨name, h_key⟩ := key_of_payload h_saving
  obtain ⟨h_store, ⟨-, -, h_none⟩ | ⟨t, h_edit, h_pending, -, h_status⟩⟩ := start_cases h_key c
  · rw [h_none] at h_saving
    exact absurd h_saving Bool.false_ne_true
  · have h_key' : (earlier.step (.start c)).1.editor.saver.key.name? = some name := by
      rw [h_store.key, h_key]
    obtain ⟨hb, hp, hs⟩ := startFail_eq h_key' (h_edit.inOrder h_earlier) later
    have h_run : t.undo.run ((earlier.step (.start c)).1.startFail later).editor.book =
        (earlier.editor.book, .ok ()) := by
      rw [hb]
      exact h_edit.run_undo h_earlier.rules.endsFixed
    obtain ⟨h_book, h_rest, -, h_seen⟩ := step_finish_of_undone (hp.trans h_pending) h_run
    refine ⟨congrArg Book.rules h_book, h_rest, ?_, t.onRolledBack, ?_, h_status⟩
    · rw [h_seen, (h_store.trans hs).renderer]
      rfl
    · rw [h_seen]

/-- A rule is dropped behind the next one after a deletion and before a move; the saves of the move
and of the drop fail. -/
theorem rollback_dropped :
    let w := (new {} ⟨{}, none, none⟩ (some "table") [.onValue "a", .onValue "b", .onValue "c"]).1
    let earlier := Run.after step w (starts [.delete 0 none])
    let ended := ((earlier.step (.start (.relocate 0 1 true))).1.startFail [.moveUp 1]).step
      (.finish 0 false)
    w.editor.book.InOrder ∧
      (earlier.step (.start (.relocate 0 1 true))).2.payload.isSome = true ∧
      ended.1.editor.rules = earlier.editor.rules ∧ ended.1.pending = earlier.pending ∧
      ended.2.events = .afterSave false ::
        (earlier.editor.saver.renderer.toList.map fun name =>
          .rendered name earlier.editor.rules) ++ [.notice saveFailedNotice] ∧
      ∃ reply, ended.2.outcome = some (.ok reply) ∧ reply.status = .rolledBack :=
  ⟨inOrder_new _ _ _ rfl, by decide,
    rollback_nested _ [.delete 0 none] [.moveUp 1] _ (inOrder_new _ _ _ rfl) (by decide)⟩

end Workbench

end Rulebook
