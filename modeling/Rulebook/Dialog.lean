/-
  Rulebook.Dialog

  The dialog in which a rule is edited.  From the moment it is opened until it is committed or
  cancelled it owns a draft, which is a copy: the book changes only when a commit succeeds.

      closed → open → committed → closed
                    → cancelled → closed

  What is shown is not worked out after every change of the draft, but only after a change to a
  field that others depend on.
-/
import Rulebook.Book
import Rulebook.Field.Visibility
import Rulebook.Schema.Basic

namespace Rulebook

/-- What a dialog is about: the schema, and the check and the change before a rule is stored. -/
structure Form where
  schema : Schema
  validator : Option Validator := none
  transformer : Option Transformer := none

namespace Form

/-- What the check says of a rule; to say nothing at all is to find nothing wrong. -/
def complaint (form : Form) (r : Rule) (isFinal : Bool) : Option String :=
  match form.validator with
  | none => none
  | some check => (check r isFinal).filter fun message => !message.isEmpty

/-- The rule that is stored. -/
def finished (form : Form) (r : Rule) (isFinal : Bool) : Rule :=
  match form.transformer with
  | none => r
  | some change => (change r isFinal).getD r

end Form

/-- The working copy of a rule. -/
structure Draft where
  values : Entries
  isFinal : Bool
  /-- the position of the rule, negative for a new one -/
  index : Int
  /-- the flag of the rule, which the dialog does not edit -/
  originalEnabled : Value
deriving DecidableEq, Repr

/-- Whether a draft is of a new rule. -/
def Draft.isNew (d : Draft) : Bool :=
  d.index < 0

/-- Where a dialog stands. -/
inductive Stage where
  | closed
  | opened
  | committed
  | cancelled
deriving DecidableEq, Repr, Inhabited

/-- The name of a stage. -/
def Stage.name : Stage → String
  | .closed => "closed"
  | .opened => "open"
  | .committed => "committed"
  | .cancelled => "cancelled"

/-- A dialog. -/
structure Dialog where
  stage : Stage := .closed
  draft : Option Draft := none
  visibility : Visibility := []
deriving DecidableEq, Repr, Inhabited

namespace Dialog

/-- Why a call on a dialog is refused. -/
inductive Error where
  /-- it is open already -/
  | alreadyOpen
  /-- it has to be committed or cancelled first -/
  | stillOpen
  /-- it is not open -/
  | notOpen (stage : Stage)
  /-- the draft has no such field -/
  | unknownField (name : Name)
  /-- the schema has something else where a name is needed -/
  | notName
  /-- the name of a field is no name, so it cannot be worked out what is shown; the dialog is as
  it then is -/
  | notShown (left : Dialog)
  /-- the book refused the rule -/
  | refused (error : Book.Error)
deriving DecidableEq, Repr

/-- What an error says. -/
def Error.message : Error → String
  | .alreadyOpen => "Edit session is already open"
  | .stillOpen => "Commit or cancel the edit session before closing it"
  | .notOpen stage => "Edit session is not open (state: " ++ stage.name ++ ")"
  | .unknownField name => name.shown
  | .notName | .notShown _ => ReadingError.message .notName
  | .refused e => e.message

/-- Whether a dialog is open. -/
def isOpen (d : Dialog) : Bool :=
  d.stage == .opened

/-- Whether the sentinel is being edited. -/
def isFinalEdit (d : Dialog) : Bool :=
  d.draft.any Draft.isFinal

/-- The draft of a dialog that is open. -/
def openDraft (d : Dialog) : Except Error Draft :=
  match d.stage, d.draft with
  | .opened, some draft => .ok draft
  | _, _ => .error (.notOpen d.stage)

/-! ## Opening -/

/-- The value of a field in a new draft: the one of the rule, or the default if there is no rule
or it has nothing there. -/
def startValue (schema : Schema) (existing : Option Rule) (isFinal : Bool) (f : Field Value) :
    Except ReadingError (Name × Value) := do
  let name ← f.name.asName
  let v := match existing with
    | some r => r.get name
    | none => .null
  if v = .null ∨ v = .text "" then return (name, ← schema.defaultFor f isFinal)
  else return (name, v)

/-- The values of a new draft: one for each field that the kind of rule has. -/
def startValues (schema : Schema) (existing : Option Rule) (isFinal : Bool) :
    Except ReadingError Entries := do
  let values ← (schema.fields.filter fun f => f.appliesTo isFinal).mapM
    (startValue schema existing isFinal)
  return Record.ofList values

/-- The dialog with what is shown of its draft worked out. -/
def showing (form : Form) (d : Dialog) (draft : Draft) : Except Error Dialog :=
  let d := { d with draft := some draft }
  if form.schema.hasNames then
    .ok { d with
      visibility := Visibility.compute form.schema.namedFields draft.values draft.isFinal }
  else .error (.notShown d)

/-- Opens the dialog on a rule at a position, or on a new rule. -/
def «open» (form : Form) (d : Dialog) (existing : Option Rule) (index : Int) :
    Except Error Dialog :=
  if d.isOpen then .error .alreadyOpen
  else
    let isFinal := existing.any Rule.isFinal
    match startValues form.schema existing isFinal with
    | .error _ => .error .notName
    | .ok values =>
      showing form { d with stage := .opened } {
        values, isFinal
        index := if existing.isSome then index else -1
        originalEnabled := match existing with
          | some r => r.enabled
          | none => .bool true }

/-! ## Editing -/

/-- Gives a field of the draft a value.  What is shown is worked out again if a field depends on
it; the answer says whether it was. -/
def set (form : Form) (d : Dialog) (name : Name) (value : Value) :
    Except Error (Dialog × Bool) := do
  let draft ← d.openDraft
  if draft.values.has name then
    let draft := { draft with values := draft.values.put name value }
    if (Visibility.Index.ofFields form.schema.namedFields).hasDependents name then
      return (← showing form d draft, true)
    else return ({ d with draft := some draft }, false)
  else throw (.unknownField name)

/-- Gives several fields their values, one after another. -/
def setAll (form : Form) (d : Dialog) : List (Name × Value) → Except Error Dialog
  | [] => .ok d
  | (name, value) :: rest => do
    let (d, _) ← d.set form name value
    setAll form d rest

/-- The values of the fields that are shown. -/
def shownValues (d : Dialog) (draft : Draft) : Entries :=
  draft.values.filter fun e => d.visibility.isShown e.1

/-- The values of the fields that are shown, while the dialog is open. -/
def collect (d : Dialog) : Except Error Entries := do
  let draft ← d.openDraft
  return d.shownValues draft

/-- The rule that a draft makes.  Its flag is the one of the rule that it was opened on, and the
sentinel stays the sentinel. -/
def candidateOf (d : Dialog) (draft : Draft) : Rule :=
  let values := d.shownValues draft
  let values := if draft.isFinal then values.put "type" Rule.finalType else values
  Rule.ofEntries (values.put "enabled" draft.originalEnabled)

/-- The rule that the draft makes, while the dialog is open. -/
def candidate (d : Dialog) : Except Error Rule := do
  let draft ← d.openDraft
  return d.candidateOf draft

/-! ## Ending -/

/-- What a commit came to. -/
inductive Commit where
  /-- the rule was stored at a position, in the place of another one unless it is new -/
  | stored (rule : Rule) (index : Int) (previous : Option Rule)
  /-- the check found something wrong -/
  | invalid (message : String) (index : Int)
deriving DecidableEq, Repr

/-- Stores the rule of a draft in the book: a new one where the book puts new rules, any other in
the place that the dialog was opened on. -/
def store (b : Book) (draft : Draft) (r : Rule) : Except Book.Error (Book × Commit) :=
  if draft.isNew then do
    let (b, i) ← b.insert r
    return (b, .stored r i none)
  else do
    let (b, previous) ← b.replace draft.index r
    return (b, .stored r draft.index (some previous))

/-- Checks, changes and stores the draft.  If the check finds something wrong the dialog stays
open. -/
def commit (form : Form) (d : Dialog) (b : Book) : Except Error (Dialog × Book × Commit) := do
  let draft ← d.openDraft
  let r := d.candidateOf draft
  match form.complaint r draft.isFinal with
  | some message => return (d, b, .invalid message draft.index)
  | none =>
    match store b draft (form.finished r draft.isFinal) with
    | .ok (b, result) => return ({ d with stage := .committed }, b, result)
    | .error e => throw (.refused e)

/-- Gives the draft up. -/
def cancel (d : Dialog) : Except Error Dialog := do
  let _ ← d.openDraft
  return { stage := .cancelled }

/-- Closes the dialog after its end. -/
def close (d : Dialog) : Except Error Dialog :=
  if d.isOpen then .error .stillOpen else .ok {}

end Dialog

end Rulebook
