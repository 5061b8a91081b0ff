/-
  Rulebook.Proofs.Editor.Unordered

  Fields that are given their values in one order or another.

  A command that fills a dialog of its own gives the fields their values one after another, and what
  is shown may change with each of them.  In the end the dialog is the same in any order
  (`Dialog.setAll_perm`), so the command does the same from there on.  If it names fields which the
  dialog does not have, it is over with the first of them; which one that is depends on the order, and
  nothing else does.

  Main statement: `Desk.command_fill_perm`.
-/
import Rulebook.Proofs.Dialog.Filled
import Rulebook.Proofs.Editor.Forgets
import Rulebook.Proofs.Editor.Report

namespace Rulebook

open Arrangement (at?)

namespace Editor

/-- The command that gives fields their values: those of a new rule, or of the rule at a position. -/
def Command.fill (place : Option Int) (values : Value) : Command :=
  match place with
  | none => .add values
  | some i => .update i values

/-- The rule that such a command opens its dialog on. -/
def filled? (e : Editor) (place : Option Int) : Option Rule :=
  place.bind (at? e.rules)

/-- The reply to a command that names a field which its dialog does not have. -/
def Reply.ofUnknown (name : Name) : Reply :=
  { status := .invalid, message := "Unknown field: " ++ name.shown }

/-- The command is over because of one of its entries: the dialog on a rule has no such field.  It
leaves an editor that has other dialogs at most. -/
def Stops (e : Editor) (existing : Option Rule) (entries : Entries) (left : Editor)
    (begun : Editor × List Event × Begun) : Prop :=
  SameBook e left ∧ ∃ name ∈ Record.keys entries,
    e.form.schema.knows (existing.any Rule.isFinal) name = false ∧
      begun = left.settle (.ofUnknown name)

variable {e : Editor} {n : Nat} {d : Dialog} {entries entries' : Entries}

/-- What is made of a dialog depends on what it is once its fields have their values. -/
theorem beginFilled_congr (hd : e.dialog? n = some d)
    (h : d.setAll e.form entries' = d.setAll e.form entries) :
    e.beginFilled n (.mapping entries') = e.beginFilled n (.mapping entries) := by
  unfold beginFilled
  simp only [hd, Value.entries?, Except.map, h]

theorem beginFilled_unknown {name : Name} (hd : e.dialog? n = some d)
    (h : d.setAll e.form entries = .error (.unknownField name)) :
    e.beginFilled n (.mapping entries) = e.closeDialog.settle (.ofUnknown name) := by
  unfold beginFilled
  simp only [hd, Value.entries?, Except.map, h]
  rfl

/-- A dialog that was opened for a command may be filled in either order. -/
theorem beginFilled_perm {existing : Option Rule} {index : Int}
    (h_open : (e.openDialog existing index).2 = .ok n) (h_perm : entries.Perm entries')
    (h_distinct : Record.Distinct (Record.keys entries)) :
    let opened := (e.openDialog existing index).1
    opened.beginFilled n (.mapping entries') = opened.beginFilled n (.mapping entries) ∨
      ∃ left, Stops e existing entries left (opened.beginFilled n (.mapping entries)) ∧
        Stops e existing entries' left (opened.beginFilled n (.mapping entries')) := by
  intro opened
  have h_same : SameBook e opened := sameBook_openDialog e existing index
  obtain ⟨d, hd, h_opened⟩ := dialog?_openDialog h_open
  have h_names := Dialog.hasNames_of_open h_opened
  obtain ⟨values, h_values, rfl⟩ := Dialog.open_eq_ofDraft h_opened
  have h_knows (name : Name) :
      values.has name = e.form.schema.knows (existing.any Rule.isFinal) name :=
    Dialog.has_of_startValues h_names h_values name
  rcases Dialog.setAll_perm h_names (Dialog.firstDraft existing index values) h_perm
      h_distinct with h | ⟨name, h_name, name', h_name', ⟨h_none, h⟩, h_none', h'⟩
  · exact .inl (beginFilled_congr hd (by rw [h_same.form]; exact h))
  · have h_book := h_same.trans (sameBook_closeDialog opened)
    refine .inr ⟨opened.closeDialog, ⟨h_book, name, h_name, ?_, ?_⟩, h_book, name', h_name', ?_, ?_⟩
    · exact (h_knows name).symm.trans h_none
    · exact beginFilled_unknown hd (by rw [h_same.form]; exact h)
    · exact (h_knows name').symm.trans h_none'
    · exact beginFilled_unknown hd (by rw [h_same.form]; exact h')

/-- **A command that fills a dialog begins in the same way in any order of its entries.** -/
theorem begin_fill_perm (e : Editor) (place : Option Int) (h_perm : entries.Perm entries')
    (h_distinct : Record.Distinct (Record.keys entries)) :
    let c := Command.fill place (.mapping entries)
    let c' := Command.fill place (.mapping entries')
    e.begin c' = e.begin c ∨
      ∃ left, Stops e (e.filled? place) entries left (e.begin c) ∧
        Stops e (e.filled? place) entries' left (e.begin c') := by
  intro c c'
  cases place with
  | none =>
    have h_filled (n : Nat) (h : (e.openDialog none (-1)).2 = .ok n) :=
      beginFilled_perm h h_perm h_distinct
    simp only [c, c', Command.fill, begin, openAdd]
    generalize e.openDialog none (-1) = opened at h_filled ⊢
    obtain ⟨e₁, error | n⟩ := opened
    · exact .inl rfl
    · exact h_filled n rfl
  | some i =>
    simp only [c, c', Command.fill, begin, openEdit]
    cases h_get : e.book.get i with
    | error error => exact .inl rfl
    | ok r =>
      have h_filled (n : Nat) (h : (e.openDialog (some r) i).2 = .ok n) :=
        beginFilled_perm h h_perm h_distinct
      have h_at : e.filled? (some i) = some r := Book.get_eq_ok_iff.1 h_get
      rw [h_at]
      dsimp only
      generalize e.openDialog (some r) i = opened at h_filled ⊢
      obtain ⟨e₁, error | n⟩ := opened
      · cases error with
        | book error => exact .inl rfl
        | reading error => exact .inl rfl
      · exact h_filled n rfl

end Editor

namespace Desk

open Editor (Command)

/-- The command that gives fields their values is answered as not right because of one of its
entries, which is for no field that the rule's kind has.  The place has kept nothing new, and the
editor has other dialogs at most. -/
def StopsAt (d : Desk) (place : Option Int) (entries : Entries) (fails : Bool) (left : Editor) :
    Prop :=
  Editor.SameBook d.editor left ∧ ∃ name ∈ Record.keys entries,
    d.editor.form.schema.knows ((d.editor.filled? place).any Rule.isFinal) name = false ∧
      d.command (.fill place (.mapping entries)) fails =
        (⟨left, { d.memory with fails }⟩, { outcome := some (.ok (.ofUnknown name)) })

theorem stopsAt_of_stops {d : Desk} {place : Option Int} {entries : Entries} {left : Editor}
    (h : Editor.Stops d.editor (d.editor.filled? place) entries left
      (d.editor.begin (.fill place (.mapping entries)))) (fails : Bool) :
    d.StopsAt place entries fails left := by
  obtain ⟨h_book, name, h_name, h_unknown, h_begin⟩ := h
  refine ⟨h_book, name, h_name, h_unknown, ?_⟩
  rw [command, h_begin]
  rfl

/-- **The order in which fields are given does not matter.**  A rule is added, or the one at a
position is given other values, in any state of an editor of any schema, check and change, and the
entries are named in one order or in another; a save that comes of it succeeds or fails.  Then all
comes out the same in both orders: the answer with its status, its rule and its position, the list,
the payload and what the place has kept, and what is reported.  The one exception is a command that
names fields which the rule's kind does not have.  It is answered as not right in both orders, each
time because of one such field, and neither the book nor what the place has kept has changed. -/
theorem command_fill_perm (d : Desk) (place : Option Int) (entries entries' : Entries)
    (fails : Bool) (h_perm : entries.Perm entries')
    (h_distinct : Record.Distinct (Record.keys entries)) :
    d.command (.fill place (.mapping entries')) fails =
        d.command (.fill place (.mapping entries)) fails ∨
      ∃ left, d.StopsAt place entries fails left ∧ d.StopsAt place entries' fails left := by
  rcases Editor.begin_fill_perm d.editor place h_perm h_distinct with h | ⟨left, h, h'⟩
  · left
    rw [command, command, h]
  · exact .inr ⟨left, stopsAt_of_stops h fails, stopsAt_of_stops h' fails⟩

/-- The value to write is shown only once the action rewrites, and is given before that in one of the
orders. -/
theorem command_fill_perm_rewriting :
    let form : Form := ⟨Headers.schema, some Headers.validate, some Headers.transform⟩
    let d := Desk.new {} form none [.onValue "a"] {}
    let entries : Entries := [("action", "REPLACE"), ("match_value", "b"), ("rewrite_value", "c")]
    let entries' : Entries := [("rewrite_value", "c"), ("action", "REPLACE"), ("match_value", "b")]
    entries.Perm entries' ∧ Record.Distinct (Record.keys entries) ∧
      (d.command (.fill (some 0) (.mapping entries')) false =
          d.command (.fill (some 0) (.mapping entries)) false ∨
        ∃ left, d.StopsAt (some 0) entries false left ∧ d.StopsAt (some 0) entries' false left) := by
  intro form d entries entries'
  have h_perm : entries.Perm entries' := by decide
  have h_distinct : Record.Distinct (Record.keys entries) := by decide
  exact ⟨h_perm, h_distinct, command_fill_perm d (some 0) entries entries' false h_perm h_distinct⟩

end Desk

end Rulebook
