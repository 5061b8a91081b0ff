/-
  Rulebook.Proofs.Editor.Overtaking

  Whether a command that could not be saved leaves the list as it was, if the list need not end with
  a sentinel and may hold sentinels anywhere.

  The command is undone by the opposite operation, on the list that it has made.  All of them are
  let through but one.  If the last rule was moved up over a sentinel (`Command.Overtakes`), the
  sentinel is the last rule by then, and no rule may go down into its place: the list stays as the
  move has made it, and the answer is nevertheless that the command was undone (`rules_of_failed`).
-/
import Rulebook.Proofs.Editor.Keeps
import Rulebook.Proofs.Editor.Undone

namespace Rulebook

open Arrangement (at? at?_eq_some_iff endsFixed endsFixed_iff swapAt)

namespace Book

variable {b b' : Book} {i : Int}

/-- After a move up the last place lets nothing back exactly if the rule was the last one and has
changed places with a sentinel. -/
theorem blocked_of_moveUp? (h : b.moveUp? i = some b') :
    (Undo.moveDown (i - 1)).Blocked b' ↔
      i + 1 = b.rules.length ∧ ∃ r ∈ at? b.rules (i - 1), r.isFinal = true := by
  obtain ⟨h0, ⟨r, hr, -⟩, rfl⟩ := moveUp?_eq_some_iff.1 h
  obtain ⟨-, hlt⟩ := Arrangement.toNat_lt_of_at? hr
  simp only [Undo.Blocked, endsFixed_iff, rules_withRules, Arrangement.length_swapAt]
  -- If the rule was the last one, the one in front of it is the last one now.
  have h_last (h_length : i + 1 = b.rules.length) :
      (swapAt b.rules (i - 1).toNat).getLast? = at? b.rules (i - 1) := by
    have h_at : at? b.rules (i - 1) = b.rules[(i - 1).toNat]? := if_pos (by omega)
    have h_end : b.rules.length - 1 = (i - 1).toNat + 1 := by omega
    rw [h_at, List.getLast?_eq_getElem?, Arrangement.length_swapAt,
      Arrangement.getElem?_swapAt _ (by omega), h_end, if_neg (by omega), if_pos rfl]
  constructor
  · rintro ⟨⟨sentinel, h_sentinel, h_final⟩, h_length⟩
    have h_length : i + 1 = b.rules.length := by omega
    rw [h_last h_length] at h_sentinel
    exact ⟨h_length, sentinel, h_sentinel, h_final⟩
  · rintro ⟨h_length, sentinel, h_sentinel, h_final⟩
    rw [h_last h_length]
    exact ⟨⟨sentinel, h_sentinel, h_final⟩, by omega⟩

end Book

namespace Editor

/-- Whether a command moves the last rule of a list up over a sentinel. -/
def Command.Overtakes (c : Command) (rules : List Rule) : Prop :=
  match c with
  | .moveUp i => i + 1 = rules.length ∧ ∃ r ∈ at? rules (i - 1), r.isFinal = true
  | _ => False

instance (c : Command) (rules : List Rule) : Decidable (c.Overtakes rules) :=
  match c with
  | .moveUp i =>
    inferInstanceAs (Decidable (i + 1 = rules.length ∧ ∃ r ∈ at? rules (i - 1), r.isFinal = true))
  | .add _ | .update .. | .saveDialog _ | .delete .. | .moveDown _ | .relocate .. | .drop ..
  | .toggle .. => .isFalse id

variable {e e' : Editor} {c : Command} {events : List Event} {t : Ticket}

/-- What stores the rule of a dialog is not undone by a move. -/
theorem Commits.not_blocked {form : Form} {d : Dialog} {draft : Draft} {r : Rule} {b b' : Book}
    {undo : Undo} (h : Commits form d draft r b b' undo) (book : Book) : ¬ undo.Blocked book := by
  obtain ⟨index, previous, -, rfl⟩ := h.stored
  cases previous with
  | none => exact id
  | some previous => exact id

/-- **When an undo is not let through**: the command has moved the last rule up over a sentinel. -/
theorem blocked_iff_overtakes (hc : c.IsOfList) (h : e.begin c = (e', events, .saving t)) :
    t.undo.Blocked e'.book ↔ c.Overtakes e.rules := by
  cases c with
  | moveUp i =>
    obtain ⟨landed, h_moved⟩ := moved_of_beginMove h
    obtain ⟨book, h_move, h_eq⟩ := Option.map_eq_some_iff.1 h_moved
    obtain ⟨rfl, h_landed⟩ := Prod.mk.inj h_eq
    have h_undo : Undo.moveDown (i - 1) = t.undo := (Prod.mk.inj h_landed).2
    rw [← h_undo]
    exact Book.blocked_of_moveUp? h_move
  | add values =>
    obtain ⟨entries, opened, filled, draft, r, -, -, -, h_commits⟩ := commits_add h
    exact iff_of_false (h_commits.not_blocked _) id
  | update i values =>
    obtain ⟨previous, -, entries, opened, filled, draft, r, -, -, -, h_commits⟩ := commits_update h
    exact iff_of_false (h_commits.not_blocked _) id
  | delete i confirmed =>
    obtain ⟨removed, -, h_undo⟩ := delete_of_beginDelete h
    rw [h_undo]
    exact Iff.rfl
  | moveDown i =>
    obtain ⟨landed, h_moved⟩ := moved_of_beginMove h
    obtain ⟨book, h_move, h_eq⟩ := Option.map_eq_some_iff.1 h_moved
    have h_undo : Undo.moveUp (i + 1) = t.undo := (Prod.mk.inj (Prod.mk.inj h_eq).2).2
    rw [← h_undo]
    exact Iff.rfl
  | relocate source target after =>
    obtain ⟨landed, h_moved⟩ := moved_of_beginMove h
    obtain ⟨⟨book, k⟩, h_relocate, h_eq⟩ := Option.map_eq_some_iff.1 h_moved
    have h_undo : Undo.carry k source = t.undo := (Prod.mk.inj (Prod.mk.inj h_eq).2).2
    rw [← h_undo]
    exact Iff.rfl
  | toggle i enabled =>
    obtain ⟨previous, -, h_undo⟩ := toggle_of_beginToggle h
    rw [h_undo]
    exact Iff.rfl
  | saveDialog number => exact hc.elim
  | drop target after => exact hc.elim

/-- A command that moves the last rule up over a sentinel has exchanged the two. -/
theorem Command.Carries.rules_of_overtakes {b b' : Book} (h : c.Carries b b')
    (h_over : c.Overtakes b.rules) :
    b'.rules = swapAt b.rules (b.rules.length - 2) ∧ b'.rules ≠ b.rules := by
  cases h with
  | @moveUp i h =>
    obtain ⟨h0, ⟨r, hr, hf⟩, rfl⟩ := Book.moveUp?_eq_some_iff.1 h
    obtain ⟨h_length, sentinel, h_sentinel, h_final⟩ := h_over
    have h_place : (i - 1).toNat = b.rules.length - 2 := by omega
    refine ⟨by rw [Book.rules_withRules, h_place], fun h_same => ?_⟩
    -- The rule in front of the last one was a sentinel, and is none any more.
    have h_next : (i - 1).toNat + 1 = i.toNat := by omega
    have h_here : (b.withRules (swapAt b.rules (i - 1).toNat)).rules[(i - 1).toNat]? =
        b.rules[(i - 1).toNat]? := by rw [h_same]
    rw [Book.rules_withRules, Arrangement.getElem?_swapAt _ (by omega), if_pos rfl, h_next,
      (at?_eq_some_iff.1 hr).2, (at?_eq_some_iff.1 h_sentinel).2, Option.some.injEq] at h_here
    rw [h_here, h_final] at hf
    exact nomatch hf
  | add | update | delete | moveDown | relocate | toggle => exact h_over.elim

end Editor

namespace Desk

variable {d : Desk} {c : Editor.Command}

/-- A command that is not answered as saved has left any list as it was, if the list has a name to
be stored under and the undo of the command is let through. -/
theorem rules_of_free {fails : Bool} {name : Name}
    (h_key : d.editor.saver.key.name? = some name)
    (h_free : ∀ e events t, d.editor.begin c = (e, events, .saving t) → ¬ t.undo.Blocked e.book)
    (h : ¬ Says (d.command c fails).2 .ok) :
    (d.command c fails).1.editor.rules = d.editor.rules := by
  have h_begins := Editor.begins_begin d.editor c
  simp only [command] at h ⊢
  generalize d.editor.begin c = begun at h h_begins h_free ⊢
  cases h_begins with
  | ended h_same => exact congrArg Book.rules h_same.book
  | unstorable _ h_none =>
    rw [h_none] at h_key
    cases h_key
  | @saving e events book _ t h_edit _ _ h_same _ h_saved =>
    cases fails with
    | false => exact absurd ⟨_, rfl, h_saved⟩ h
    | true =>
      have h_book : e.book = book := h_same.book
      rw [← h_book] at h_edit
      have h_undone : t.undo.run e.book = (d.editor.book, .ok ()) :=
        h_edit.run_undo_of_not_blocked (h_free e events t rfl)
      have h_left : (e.finish t false).1.book = d.editor.book := by
        rw [Editor.book_finish, h_undone, if_neg Bool.false_ne_true]
      exact congrArg Book.rules h_left

/-- A command whose save was tried and has failed is answered as undone, and has left the list that
its undo leads to. -/
theorem undone_of_tried
    (h_tried : (d.command c true).1.memory.attempts = d.memory.attempts + 1) :
    ∃ e events t, d.editor.begin c = (e, events, .saving t) ∧ Edit d.editor.book e.book t.undo ∧
      Says (d.command c true).2 .rolledBack ∧
      (d.command c true).1.editor.book = (t.undo.run e.book).1 := by
  have h_begins := Editor.begins_begin d.editor c
  simp only [command] at h_tried ⊢
  generalize d.editor.begin c = begun at h_tried h_begins ⊢
  cases h_begins with
  | ended =>
    have h_tried : d.memory.attempts = d.memory.attempts + 1 := h_tried
    omega
  | unstorable =>
    have h_tried : d.memory.attempts = d.memory.attempts + 1 := h_tried
    omega
  | @saving e events book _ t h_edit _ _ h_same _ _ h_rolledBack =>
    have h_book : e.book = book := h_same.book
    rw [← h_book] at h_edit
    refine ⟨e, events, t, rfl, h_edit, ?_⟩
    dsimp only [Storage.Memory.save]
    rw [if_pos rfl, Editor.finish_of_undone h_edit.applies.run_eq]
    exact ⟨⟨_, rfl, h_rolledBack⟩, (Editor.sameBook_releaseDialog _ _).book⟩

/-- **What a command leaves that could not be saved.**  At a desk whose list is any list, with or
without a sentinel and with sentinels anywhere, a command of the list is carried out by itself, and
its save is tried and fails.  The answer is that the command was undone.  The list is as it was
exactly if the command did not move the last rule up over a sentinel; if it did, the two have
changed places. -/
theorem rules_of_failed (d : Desk) (c : Editor.Command) (hc : c.IsOfList)
    (h_tried : (d.command c true).1.memory.attempts = d.memory.attempts + 1) :
    let ended := d.command c true
    Says ended.2 .rolledBack ∧
      (ended.1.editor.rules = d.editor.rules ↔ ¬ c.Overtakes d.editor.rules) ∧
      (c.Overtakes d.editor.rules →
        ended.1.editor.rules = swapAt d.editor.rules (d.editor.rules.length - 2)) := by
  intro ended
  obtain ⟨e, events, t, h_begin, h_edit, h_answer, h_book⟩ := undone_of_tried h_tried
  have h_blocked := Editor.blocked_iff_overtakes hc h_begin
  refine ⟨h_answer, ?_⟩
  by_cases h_over : c.Overtakes d.editor.rules
  · have h_stays : ended.1.editor.book = e.book := by
      rw [h_book, (h_blocked.2 h_over).run_eq]
    obtain ⟨h_swapped, h_ne⟩ := (Editor.carries_begin hc h_begin).rules_of_overtakes h_over
    have h_rules : ended.1.editor.rules = e.book.rules := congrArg Book.rules h_stays
    rw [h_rules]
    exact ⟨iff_of_false h_ne (not_not_intro h_over), fun _ => h_swapped⟩
  · have h_restored : ended.1.editor.book = d.editor.book := by
      rw [h_book, h_edit.run_undo_of_not_blocked (mt h_blocked.1 h_over)]
    have h_rules : ended.1.editor.rules = d.editor.rules := congrArg Book.rules h_restored
    exact ⟨iff_of_true h_rules h_over, fun h => absurd h h_over⟩

/-- A rule is moved up over a sentinel, with another rule behind it; the save fails. -/
theorem rules_of_failed_overtaking :
    let sentinel := Rule.fallback Rule.defaultFinalDescription
    let d := Desk.new { hasFinal := false } ⟨{}, none, none⟩ none
      [sentinel, .onValue "a", .onValue "b"] {}
    let ended := d.command (.moveUp 1) true
    Editor.Command.IsOfList (.moveUp 1) ∧ ended.1.memory.attempts = d.memory.attempts + 1 ∧
      Says ended.2 .rolledBack ∧
      (ended.1.editor.rules = d.editor.rules ↔
        ¬ Editor.Command.Overtakes (.moveUp 1) d.editor.rules) ∧
      (Editor.Command.Overtakes (.moveUp 1) d.editor.rules →
        ended.1.editor.rules = swapAt d.editor.rules (d.editor.rules.length - 2)) := by
  intro sentinel d ended
  have h_tried : ended.1.memory.attempts = d.memory.attempts + 1 := by decide
  exact ⟨trivial, h_tried, rules_of_failed d (.moveUp 1) trivial h_tried⟩

/-- The last rule of a list is moved up over a sentinel, and the save fails.  The answer is that the
move was undone; the sentinel has stayed behind the rule. -/
theorem moved_of_failed :
    let sentinel := Rule.fallback Rule.defaultFinalDescription
    let d := Desk.new { hasFinal := false } ⟨{}, none, none⟩ none [sentinel, .onValue "a"] {}
    let ended := d.command (.moveUp 1) true
    ended.1.memory.attempts = d.memory.attempts + 1 ∧ Says ended.2 .rolledBack ∧
      d.editor.rules = [sentinel, .onValue "a"] ∧
      ended.1.editor.rules = [.onValue "a", sentinel] := by
  intro sentinel d ended
  exact ⟨by decide, by decide, rfl, by decide⟩

end Desk

end Rulebook
