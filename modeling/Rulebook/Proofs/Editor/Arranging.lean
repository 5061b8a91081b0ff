/-
  Rulebook.Proofs.Editor.Arranging

  Commands that arrange the list: a rule is deleted, or is taken to another place.

  Such a command changes no rule, so what it does to a list of rules can be done to a list of
  anything that stands beside the rules (`Command.arrange`).  It has arranged the list if it is
  answered as saved (`Desk.rules_command`), and has left it as it was if not; and it leaves dialogs
  alone in any case (`Desk.dialogs_command`).
-/
import Rulebook.Proofs.Editor.Undone

namespace Rulebook

namespace Editor

open Arrangement (landing? swapAt transfer)

/-- Whether a command arranges the list. -/
def Command.Arranges : Command → Prop
  | .delete .. | .moveUp _ | .moveDown _ | .relocate .. => True
  | _ => False

/-- Does to a list of anything what a command that is carried out does to the list of a book. -/
def Command.arrange {α : Type _} (c : Command) (b : Book) (xs : List α) : List α :=
  match c with
  | .delete i _ => xs.eraseIdx i.toNat
  | .moveUp i => swapAt xs (i - 1).toNat
  | .moveDown i => swapAt xs i.toNat
  | .relocate source target after =>
    match landing? Rule.isFinal b.rules source target after with
    | some k => transfer xs source.toNat k
    | none => xs
  | _ => xs

/-- What the members are does not matter to an arrangement. -/
theorem Command.map_arrange {α β : Type _} (f : α → β) (c : Command) (b : Book) (xs : List α) :
    (c.arrange b xs).map f = c.arrange b (xs.map f) := by
  cases c with
  | delete i confirmed => exact (List.eraseIdx_map f xs _).symm
  | moveUp i => exact Arrangement.map_swapAt f xs _
  | moveDown i => exact Arrangement.map_swapAt f xs _
  | relocate source target after =>
    simp only [arrange]
    cases landing? Rule.isFinal b.rules source target after with
    | none => rfl
    | some k => exact Arrangement.map_transfer f xs _ k
  | add | update | saveDialog | drop | toggle => rfl

theorem Command.nodup_arrange {α : Type _} {xs : List α} (h : xs.Nodup) (c : Command) (b : Book) :
    (c.arrange b xs).Nodup := by
  cases c with
  | delete i confirmed => exact h.sublist (List.eraseIdx_sublist xs _)
  | moveUp i => exact (Arrangement.swapAt_perm xs _).nodup_iff.2 h
  | moveDown i => exact (Arrangement.swapAt_perm xs _).nodup_iff.2 h
  | relocate source target after =>
    simp only [arrange]
    cases landing? Rule.isFinal b.rules source target after with
    | none => exact h
    | some k => exact Arrangement.nodup_transfer h _ k
  | add | update | saveDialog | drop | toggle => exact h

/-- What beginning a command comes to that arranges the list. -/
inductive Arranged (e : Editor) (c : Command) : Editor × List Event × Begun → Prop where
  /-- nothing has changed -/
  | settled {events : List Event} {outcome : Outcome} : Arranged e c (e, events, .done outcome)
  /-- the list was arranged -/
  | launched {saver : Saver} {events : List Event} {begun : Begun}
      (h_rules : saver.book.rules = c.arrange e.book e.rules)
      (h_origin : ∀ t, begun = .saving t → t.origin = .list) :
      Arranged e c ({ e with saver }, events, begun)

variable {e : Editor} {c : Command}

theorem arranged_launch {book : Book} (h_rules : book.rules = c.arrange e.book e.rules) (undo : Undo)
    (onSaved onRolledBack : Reply) :
    Arranged e c (e.launch book undo .list onSaved onRolledBack) := by
  unfold launch Saver.launch
  cases e.saver.key.name? with
  | none => exact .launched h_rules fun t h => nomatch h
  | some name =>
    refine .launched h_rules fun t h => ?_
    rw [← Begun.saving.inj h]

theorem arranged_beginMove {moved : Option (Book × Int × Undo)} (i : Int)
    (h_moved : ∀ book landed undo, moved = some (book, landed, undo) →
      book.rules = c.arrange e.book e.rules) : Arranged e c (e.beginMove i moved) := by
  unfold beginMove
  split
  · exact .settled
  · split
    · exact .settled
    · rename_i book landed undo
      exact arranged_launch (h_moved book landed undo rfl) _ _ _

theorem arranged_begin (e : Editor) (hc : c.Arranges) : Arranged e c (e.begin c) := by
  cases c with
  | delete i confirmed =>
    simp only [begin, beginDelete]
    split
    · exact .settled
    · split
      · exact .settled
      · split
        · exact .settled
        · rename_i book removed h_delete
          split
          · exact .settled
          · obtain ⟨-, -, rfl⟩ := Book.delete_eq_ok_iff.1 h_delete
            have h : Arranged e (.delete i confirmed)
                (e.launch (e.book.withRules (e.book.rules.eraseIdx i.toNat)) (.insertAt i removed)
                  .list (.ofSaved i) (.ofRolledBack i)) := arranged_launch rfl _ _ _
            -- A deletion differs from a plain launch in what is seen of it.
            generalize e.launch _ _ _ _ _ = begun at h ⊢
            cases h with
            | settled => exact .settled
            | launched h_rules h_origin => exact .launched h_rules h_origin
  | moveUp i =>
    refine arranged_beginMove i fun book landed undo h => ?_
    obtain ⟨book', h_move, hp⟩ := Option.map_eq_some_iff.1 h
    obtain ⟨rfl, -⟩ := Prod.mk.inj hp
    obtain ⟨-, -, rfl⟩ := Book.moveUp?_eq_some_iff.1 h_move
    rfl
  | moveDown i =>
    refine arranged_beginMove i fun book landed undo h => ?_
    obtain ⟨book', h_move, hp⟩ := Option.map_eq_some_iff.1 h
    obtain ⟨rfl, -⟩ := Prod.mk.inj hp
    obtain ⟨-, -, rfl⟩ := Book.moveDown?_eq_some_iff.1 h_move
    rfl
  | relocate source target after =>
    refine arranged_beginMove source fun book landed undo h => ?_
    obtain ⟨⟨book', k⟩, h_relocate, hp⟩ := Option.map_eq_some_iff.1 h
    obtain ⟨rfl, -⟩ := Prod.mk.inj hp
    obtain ⟨h_landing, -, rfl⟩ := Book.relocate?_eq_some_iff.1 h_relocate
    rw [Command.arrange, show landing? Rule.isFinal e.book.rules source target after = some k
      from h_landing]
    rfl
  | add | update | saveDialog | drop | toggle => exact hc.elim

/-- The end of a save leaves dialogs alone if the command did not come from one. -/
theorem dialogs_finish {t : Ticket} (h_origin : t.origin = .list) (e : Editor) (saved : Bool) :
    (e.finish t saved).1.dialogs = e.dialogs := by
  cases saved with
  | true =>
    rw [finish_saved, h_origin]
    rfl
  | false =>
    cases h_run : t.undo.run e.book with
    | mk b outcome =>
      cases outcome with
      | ok =>
        rw [finish_of_undone h_run, h_origin]
        rfl
      | error error =>
        rw [finish_of_stuck h_run]
        rfl

end Editor

namespace Desk

variable {d : Desk} {c : Editor.Command}

/-- A command that arranges the list leaves dialogs alone. -/
theorem dialogs_command (d : Desk) (hc : c.Arranges) (fails : Bool) :
    (d.command c fails).1.editor.dialogs = d.editor.dialogs := by
  have h := Editor.arranged_begin d.editor hc
  simp only [command]
  generalize d.editor.begin c = begun at h ⊢
  cases h with
  | settled => rfl
  | @launched _ _ begun _ h_origin =>
    cases begun with
    | done outcome => rfl
    | saving t => exact Editor.dialogs_finish (h_origin t rfl) _ _

/-- A command that is answered as saved has left the list with which its save was begun. -/
theorem begin_of_says {fails : Bool} (h : Says (d.command c fails).2 .ok) :
    (∃ t, (d.editor.begin c).2.2 = .saving t) ∧
      (d.command c fails).1.editor.rules = (d.editor.begin c).1.rules := by
  have h_begins := Editor.begins_begin d.editor c
  simp only [command] at h ⊢
  generalize d.editor.begin c = begun at h h_begins ⊢
  obtain ⟨e', events, outcome | t⟩ := begun
  · cases h_begins with
    | ended _ _ h_idle => exact absurd h (not_says_of_idle h_idle).1
    | unstorable => exact absurd h (not_says_of_idle (Editor.idle_error _)).1
  · obtain ⟨reply, h_reply, h_ok⟩ := h
    have h_saved := h_begins.fair.saved_of_ok (Option.some.inj h_reply) h_ok
    dsimp only
    rw [h_saved]
    exact ⟨⟨t, rfl⟩, congrArg Book.rules (Editor.sameWork_finish_saved e' t).book⟩

/-- So its save was begun. -/
theorem saving_of_says {fails : Bool} (h : Says (d.command c fails).2 .ok) :
    ∃ e events t, d.editor.begin c = (e, events, .saving t) ∧
      (d.command c fails).1.editor.rules = e.rules := by
  obtain ⟨⟨t, h_saving⟩, h_rules⟩ := begin_of_says h
  generalize d.editor.begin c = begun at h_saving h_rules
  obtain ⟨e, events, outcome⟩ := begun
  obtain rfl : outcome = .saving t := h_saving
  exact ⟨e, events, t, rfl, h_rules⟩

/-- A list that was saved has a name to be stored under. -/
theorem key_of_says {fails : Bool} (h : Says (d.command c fails).2 .ok) :
    ∃ name, d.editor.saver.key.name? = some name := by
  obtain ⟨⟨t, h_saving⟩, -⟩ := begin_of_says h
  have h_begins := Editor.begins_begin d.editor c
  generalize d.editor.begin c = begun at h_saving h_begins
  cases h_begins with
  | ended => exact nomatch h_saving
  | unstorable => exact nomatch h_saving
  | saving _ h_key => exact ⟨_, h_key⟩

/-- **A command that arranges the list has done so if it is answered as saved.** -/
theorem rules_command (hc : c.Arranges) {fails : Bool} (h : Says (d.command c fails).2 .ok) :
    (d.command c fails).1.editor.rules = c.arrange d.editor.book d.editor.rules := by
  obtain ⟨⟨t, h_saving⟩, h_rules⟩ := begin_of_says h
  have h_arranged := Editor.arranged_begin d.editor hc
  rw [h_rules]
  generalize d.editor.begin c = begun at h_saving h_arranged ⊢
  cases h_arranged with
  | settled => exact nomatch h_saving
  | launched h_rules => exact h_rules

/-- A command that is not answered as saved leaves the list as it was, if the list has a name to be
stored under. -/
theorem rules_of_not_says {fails : Bool} (h_order : d.editor.book.InOrder) {name : Name}
    (h_key : d.editor.saver.key.name? = some name) (h : ¬ Says (d.command c fails).2 .ok) :
    (d.command c fails).1.editor.rules = d.editor.rules := by
  cases taken_command h_order c fails with
  | ended h_book => exact congrArg Book.rules h_book
  | unstorable _ h_none => exact nomatch h_none.symm.trans h_key
  | saved _ _ _ _ _ h_answer => exact absurd h_answer h
  | undone h_book => exact congrArg Book.rules h_book

end Desk

end Rulebook
