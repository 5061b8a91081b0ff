/-
  Rulebook.Editor.Basic

  The editor: a book that is saved after every change, a drag gesture, and dialogs.  Every dialog
  that was ever opened keeps its number; at most one of them is the current one.
-/
import Rulebook.Dialog
import Rulebook.Drag
import Rulebook.Saving
import Rulebook.Settings

namespace Rulebook

/-- An editor. -/
structure Editor where
  settings : Settings
  form : Form
  saver : Saver
  drag : Drag := {}
  /-- the dialogs that were opened, by number -/
  dialogs : List Dialog := []
  /-- the number of the current dialog -/
  current : Option Nat := none

namespace Editor

/-- The book that is edited. -/
def book (e : Editor) : Book :=
  e.saver.book

/-- The rules of the list. -/
def rules (e : Editor) : List Rule :=
  e.saver.book.rules

/-- Draws the list, if there is a renderer. -/
def render (e : Editor) : List Event :=
  e.saver.render

/-- An editor of a raw list, which is drawn. -/
def new (settings : Settings) (form : Form) (renderer : Option String) (rules : List Rule) :
    Editor × List Event :=
  let e : Editor := {
    settings, form
    saver := { book := settings.book rules, key := settings.ruleKey, renderer } }
  (e, e.render)

/-- The rules of a payload that was stored; nothing stored is an empty list.  All of them are read
before the first one is held. -/
def rulesOf (settings : Settings) (payload : Value) : Except ReadingError (List Rule) := do
  let es ← if payload.truth then payload.entries? else pure []
  let stored := (es.get? (← settings.ruleKey.asName)).getD (.list [])
  let rules ← (← stored.items?).mapM Rule.ofValue
  if rules.all Rule.isHoldable then return rules else throw .tooDeep

/-- The editor with another renderer. -/
def attach (e : Editor) (renderer : Option String) : Editor :=
  { e with saver := { e.saver with renderer } }

/-- The rows of the table. -/
def rows (e : Editor) : Except ReadingError (List Row) :=
  Row.all e.form.schema e.settings.may e.rules

/-! ## Dialogs -/

/-- The dialog with a number. -/
def dialog? (e : Editor) (n : Nat) : Option Dialog :=
  e.dialogs[n]?

/-- The editor with a dialog in another state. -/
def withDialog (e : Editor) (n : Nat) (d : Dialog) : Editor :=
  { e with dialogs := e.dialogs.set n d }

/-- Gives up the current dialog, if it is open; there is no current one any more. -/
def closeDialog (e : Editor) : Editor :=
  match e.current with
  | none => e
  | some n =>
    let e := match e.dialog? n with
      | some d => if d.isOpen then e.withDialog n {} else e
      | none => e
    { e with current := none }

/-- Why a call on an editor fails. -/
inductive Error where
  /-- the book refuses it -/
  | book (error : Book.Error)
  /-- a value is of the wrong shape -/
  | reading (error : ReadingError)
deriving DecidableEq, Repr

/-- What an error says. -/
def Error.message : Error → String
  | .book e => e.message
  | .reading e => e.message

/-- Opens a dialog on a rule at a position, or on a new rule.  Its number is the answer, if it can
be opened.  The dialog that was current is given up in any case. -/
def openDialog (e : Editor) (existing : Option Rule) (index : Int) : Editor × Except Error Nat :=
  let e := e.closeDialog
  if e.form.schema.hasIndex then
    match Dialog.open e.form {} existing index with
    | .ok d =>
      let n := e.dialogs.length
      ({ e with dialogs := e.dialogs ++ [d], current := some n }, .ok n)
    | .error _ => (e, .error (.reading .notName))
  else (e, .error (.reading .notName))

/-- Opens a dialog on a new rule. -/
def openAdd (e : Editor) : Editor × Except Error Nat :=
  e.openDialog none (-1)

/-- Opens a dialog on the rule at a position. -/
def openEdit (e : Editor) (i : Int) : Editor × Except Error Nat :=
  match e.book.get i with
  | .error error => (e, .error (.book error))
  | .ok r => e.openDialog (some r) i

/-- Gives a field of a dialog a value. -/
def setField (e : Editor) (n : Nat) (name : Name) (value : Value) :
    Except Dialog.Error Editor :=
  match e.dialog? n with
  | none => .error (.notOpen .closed)
  | some d => do
    let (d, _) ← d.set e.form name value
    return e.withDialog n d

/-! ## Dragging -/

/-- Picks up the rule at a position, and whether it can be picked up. -/
def startDrag (e : Editor) (i : Int) : Editor × Bool :=
  if e.settings.may.move then
    let (drag, ok) := e.drag.start Rule.isFinal e.rules i
    ({ e with drag }, ok)
  else (e, false)

/-- Whether the rule that is held can be dropped on the one at a position. -/
def dragOver (e : Editor) (i : Int) : Bool :=
  e.drag.canDrop Rule.isFinal e.rules i

/-- Lets go of the rule that is held. -/
def endDrag (e : Editor) : Editor :=
  { e with drag := .idle }

end Editor

end Rulebook
