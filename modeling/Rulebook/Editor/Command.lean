/-
  Rulebook.Editor.Command

  The commands of the editor.  `Editor.begin` carries a command out as far as the book goes: it
  is over at once, or the list is being saved and the command waits as a `Ticket` for the end of
  the save.  `Editor.finish` ends it.  `Editor.run` does both in a row.

  A refused command says why; a command whose save failed has been undone.
-/
import Rulebook.Editor.Basic

namespace Rulebook

/-- How a command undoes what it did to the book. -/
inductive Undo where
  | delete (index : Int)
  | replace (index : Int) (previous : Rule)
  | insertAt (index : Int) (removed : Rule)
  | moveUp (index : Int)
  | moveDown (index : Int)
  /-- the rule that landed at one position goes back to another -/
  | carry (landed source : Int)
  | toggle (index : Int) (previous : Value)
deriving DecidableEq, Repr

namespace Undo

/-- The book after a step that may be refused, which then changes nothing. -/
def step {α : Type} (b : Book) (outcome : Except Book.Error α) (next : α → Book) :
    Book × Except Book.Error Unit :=
  match outcome with
  | .ok a => (next a, .ok ())
  | .error e => (b, .error e)

/-- Undoes what a command did, on the book as it now is. -/
def run (u : Undo) (b : Book) : Book × Except Book.Error Unit :=
  match u with
  | .delete i => step b (b.delete i) Prod.fst
  | .replace i r => step b (b.replace i r) Prod.fst
  | .insertAt i r => step b (b.insertAt i r) id
  | .moveUp i => ((b.moveUp? i).getD b, .ok ())
  | .moveDown i => ((b.moveDown? i).getD b, .ok ())
  | .carry landed source =>
    match b.delete landed with
    | .error e => (b, .error e)
    | .ok (b, r) => step b (b.insertAt source r) id
  | .toggle i flag => step b (b.toggle i flag) Prod.fst

end Undo

namespace Editor

/-! ## Replies -/

/-- What became of a command. -/
inductive Status where
  /-- done and saved -/
  | ok
  /-- there was nothing to do -/
  | noop
  /-- refused -/
  | rejected
  /-- the rule is not right; the dialog stays open -/
  | invalid
  /-- done, but not saved, and undone -/
  | rolledBack
deriving DecidableEq, Repr, Inhabited

/-- The name of a status. -/
def Status.name : Status → String
  | .ok => "ok"
  | .noop => "noop"
  | .rejected => "rejected"
  | .invalid => "invalid"
  | .rolledBack => "rolled_back"

/-- The reply to a command. -/
structure Reply where
  status : Status
  message : String := ""
  rule : Option Rule := none
  index : Int := -1
deriving DecidableEq, Repr

/-- A reply, or an error that reaches the user. -/
abbrev Outcome := Except Error Reply

/-- The reply to a command that is saved. -/
def Reply.ofSaved (index : Int) (rule : Option Rule := none) : Reply :=
  { status := .ok, rule, index }

/-- The reply to a command that could not be saved. -/
def Reply.ofRolledBack (index : Int) (rule : Option Rule := none) : Reply :=
  { status := .rolledBack, message := saveFailedNotice, rule, index }

/-- The reply to a command that the settings do not allow, or that the sentinel is protected
from. -/
def Reply.ofRejected (index : Int) (message : String) : Reply :=
  { status := .rejected, message, index }

/-! ## Commands -/

/-- A command that may change the list. -/
inductive Command where
  /-- adds a rule with a mapping of values -/
  | add (values : Value)
  /-- gives the rule at a position a mapping of values -/
  | update (index : Int) (values : Value)
  /-- stores the draft of a dialog, of the current one if no number is given -/
  | saveDialog (number : Option Nat)
  /-- deletes a rule, after asking the user if an answer is given -/
  | delete (index : Int) (confirmed : Option Bool)
  | moveUp (index : Int)
  | moveDown (index : Int)
  | relocate (source target : Int) (after : Bool)
  | drop (target : Int) (after : Bool)
  | toggle (index : Int) (enabled : Value)
deriving DecidableEq, Repr

/-- Where a command that is being saved came from, which decides what an undo that is refused
comes to. -/
inductive Origin where
  | list
  | toggle (index : Int)
  | dialog (number : Nat)
deriving DecidableEq, Repr

/-- A command whose save is under way. -/
structure Ticket where
  payload : Value
  undo : Undo
  origin : Origin
  onSaved : Reply
  onRolledBack : Reply
deriving DecidableEq, Repr

/-- What came of beginning a command. -/
inductive Begun where
  | done (outcome : Outcome)
  | saving (ticket : Ticket)
deriving Repr

/-- What an error about a position comes to: nothing to do, unless the settings ask for errors. -/
def invalidIndex (e : Editor) (error : Book.Error) : Outcome :=
  if e.settings.debug then .error (.book error)
  else .ok { status := .noop, message := error.message, index := error.index }

/-- A command that is over at once. -/
def settle (e : Editor) (reply : Reply) : Editor × List Event × Begun :=
  (e, [], .done (.ok reply))

/-- Takes a changed book over and begins to save it. -/
def launch (e : Editor) (book : Book) (undo : Undo) (origin : Origin)
    (onSaved onRolledBack : Reply) : Editor × List Event × Begun :=
  match e.saver.launch book with
  | (saver, none) => ({ e with saver }, [], .done (.error (.reading .notName)))
  | (saver, some payload) =>
    ({ e with saver }, [], .saving { payload, undo, origin, onSaved, onRolledBack })

/-! ## Beginning -/

/-- What an error of the book comes to in a dialog. -/
def dialogError (e : Editor) (error : Book.Error) : Outcome :=
  if error.isIndex then e.invalidIndex error
  else .ok (.ofRejected error.index error.message)

/-- Stores the draft of a dialog. -/
def beginSaveDialog (e : Editor) (number : Option Nat) : Editor × List Event × Begun :=
  match number.or e.current with
  | none => e.settle { status := .noop, message := "No open dialog" }
  | some n =>
    match e.dialog? n with
    | none => e.settle { status := .noop, message := "No open dialog" }
    | some d =>
      if d.isOpen then
        match d.commit e.form e.book with
        | .error (.refused error) => (e, [], .done (e.dialogError error))
        | .error _ => e.settle { status := .noop, message := "No open dialog" }
        | .ok (_, _, .invalid message index) =>
          e.settle { status := .invalid, message, index }
        | .ok (d, book, .stored r index previous) =>
          let undo := match previous with
            | none => .delete index
            | some previous => .replace index previous
          (e.withDialog n d).launch book undo (.dialog n) (.ofSaved index r)
            (.ofRolledBack index r)
      else e.settle { status := .noop, message := "No open dialog" }

/-- Gives the fields of a dialog their values and stores its draft.  A dialog that is still open
afterwards is given up, unless the values are no mapping. -/
def beginFilled (e : Editor) (n : Nat) (values : Value) : Editor × List Event × Begun :=
  match e.dialog? n with
  | none => e.settle { status := .noop, message := "No open dialog" }
  | some d =>
    match values.entries?.map (d.setAll e.form) with
    | .error error => (e, [], .done (.error (.reading error)))
    | .ok (.error error) =>
      e.closeDialog.settle { status := .invalid, message := "Unknown field: " ++ error.message }
    | .ok (.ok d) =>
      match (e.withDialog n d).beginSaveDialog (some n) with
      | (e, events, .done (.ok reply)) =>
        let e := if (e.dialog? n).any Dialog.isOpen then e.closeDialog else e
        (e, events, .done (.ok reply))
      | begun => begun

/-- Deletes a rule. -/
def beginDelete (e : Editor) (i : Int) (confirmed : Option Bool) :
    Editor × List Event × Begun :=
  if !e.settings.may.delete then e.settle (.ofRejected i "Deleting rules is disabled")
  else if e.book.isFinalAt i then e.settle (.ofRejected i "FINAL rule cannot be deleted")
  else
    match e.book.delete i with
    | .error error => (e, [], .done (e.invalidIndex error))
    | .ok (book, removed) =>
      let asked := if confirmed.isSome then [Event.asked] else []
      if confirmed = some false then
        (e, asked, .done (.ok { status := .noop, message := "Deletion cancelled", index := i }))
      else
        let (e, _, begun) := e.launch book (.insertAt i removed) .list (.ofSaved i)
          (.ofRolledBack i)
        (e, asked, begun)

/-- Moves a rule, where the book moves it to `landed` and undoes that with `undo`. -/
def beginMove (e : Editor) (i : Int) (moved : Option (Book × Int × Undo)) :
    Editor × List Event × Begun :=
  if !e.settings.may.move then e.settle (.ofRejected i "Moving rules is disabled")
  else
    match moved with
    | none => e.settle { status := .noop, index := i }
    | some (book, landed, undo) => e.launch book undo .list (.ofSaved landed) (.ofRolledBack i)

/-- Drops a rule on another one. -/
def beginRelocate (e : Editor) (source target : Int) (after : Bool) :
    Editor × List Event × Begun :=
  e.beginMove source ((e.book.relocate? source target after).map fun (book, landed) =>
    (book, (landed : Int), .carry landed source))

/-- Sets the flag of a rule. -/
def beginToggle (e : Editor) (i : Int) (enabled : Value) : Editor × List Event × Begun :=
  if !e.settings.may.toggle then e.settle (.ofRejected i "Toggling rules is disabled")
  else
    match e.book.toggle i enabled with
    | .ok (book, previous) =>
      e.launch book (.toggle i previous) (.toggle i) (.ofSaved i) (.ofRolledBack i)
    | .error error =>
      if error.isIndex then (e, [], .done (e.invalidIndex error))
      else e.settle (.ofRejected i "FINAL rule is always enabled")

/-- Carries a command out as far as the book goes. -/
def begin (e : Editor) (c : Command) : Editor × List Event × Begun :=
  match c with
  | .add values =>
    match e.openAdd with
    | (e, .error error) => (e, [], .done (.error error))
    | (e, .ok n) => e.beginFilled n values
  | .update i values =>
    match e.openEdit i with
    | (e, .error (.book error)) => (e, [], .done (e.invalidIndex error))
    | (e, .error error) => (e, [], .done (.error error))
    | (e, .ok n) => e.beginFilled n values
  | .saveDialog number => e.beginSaveDialog number
  | .delete i confirmed => e.beginDelete i confirmed
  | .moveUp i =>
    e.beginMove i ((e.book.moveUp? i).map fun book => (book, i - 1, .moveDown (i - 1)))
  | .moveDown i =>
    e.beginMove i ((e.book.moveDown? i).map fun book => (book, i + 1, .moveUp (i + 1)))
  | .relocate source target after => e.beginRelocate source target after
  | .drop target after =>
    match e.drag.held with
    | none => e.endDrag.settle { status := .noop, message := "No drag in progress" }
    | some source => e.endDrag.beginRelocate source target after
  | .toggle i enabled => e.beginToggle i enabled

/-! ## Finishing -/

/-- The editor after a dialog has done its work. -/
def releaseDialog (e : Editor) (origin : Origin) : Editor :=
  match origin with
  | .dialog n =>
    let e := e.withDialog n {}
    if e.current = some n then { e with current := none } else e
  | _ => e

/-- What an undo that is refused comes to. -/
def stuck (e : Editor) (origin : Origin) (error : Book.Error) : Outcome :=
  match origin with
  | .list => .error (.book error)
  | .toggle i =>
    if error.isIndex then e.invalidIndex error
    else .ok (.ofRejected i "FINAL rule is always enabled")
  | .dialog _ => e.dialogError error

/-- Ends a command whose save has succeeded or failed. -/
def finish (e : Editor) (t : Ticket) (saved : Bool) : Editor × List Event × Outcome :=
  let (saver, events, result) := e.saver.finish Undo.run (.undo t.undo) saved
  let e := { e with saver }
  match result with
  | .saved => (e.releaseDialog t.origin, events, .ok t.onSaved)
  | .rolledBack => (e.releaseDialog t.origin, events, .ok t.onRolledBack)
  | .stuck error => (e, events, e.stuck t.origin error)

/-- Carries a command out and ends it at once; `save` says what becomes of a save. -/
def run (e : Editor) (c : Command) (save : Value → Bool) : Editor × List Event × Outcome :=
  match e.begin c with
  | (e, events, .done outcome) => (e, events, outcome)
  | (e, events, .saving ticket) =>
    let (e, more, outcome) := e.finish ticket (save ticket.payload)
    (e, events ++ more, outcome)

end Editor

end Rulebook
