/-
  Rulebook.Schema.Basic

  What the editor knows about one kind of rule list: the fields of the dialog, the types and the
  actions that can be chosen, and the columns of the table.
-/
import Rulebook.Field.Basic
import Rulebook.Rule.Basic

namespace Rulebook

/-- What a column of the table shows. -/
inductive ColumnKind where
  | checkbox
  | index
  | label
  | value
  | actions
deriving DecidableEq, Repr, Inhabited

namespace ColumnKind

/-- The name of a kind of column. -/
def name : ColumnKind → String
  | .checkbox => "checkbox"
  | .index => "index"
  | .label => "label"
  | .value => "value"
  | .actions => "actions"

/-- The kind of column with the name that a value is. -/
def ofValue? : Value → Except ReadingError ColumnKind
  | .text "checkbox" => .ok .checkbox
  | .text "index" => .ok .index
  | .text "label" => .ok .label
  | .text "value" => .ok .value
  | .text "actions" => .ok .actions
  | v => .error (.unknownChoice v "ColumnKind")

end ColumnKind

/-- A column of the table. -/
structure Column where
  kind : ColumnKind
  /-- the attribute that the column shows -/
  field : Value := ""
  title : Value := ""
  /-- whether the row of the sentinel shows a placeholder -/
  hideForFinal : Bool := false
deriving DecidableEq, Repr

/-- A check of a rule about to be stored, which says what is wrong with it.  It is told whether
the sentinel is being edited. -/
abbrev Validator := Rule → Bool → Option String

/-- A change of a rule about to be stored; it may decline to make one. -/
abbrev Transformer := Rule → Bool → Option Rule

/-- What the editor knows about one kind of rule list. -/
structure Schema where
  fields : List (Field Value) := []
  ruleTypes : List Choice := []
  actions : List Choice := []
  /-- the actions of the sentinel, if they are other ones -/
  finalActions : List Choice := []
  columns : List Column := []
  finalLabel : Value := .text "FINAL"
deriving DecidableEq, Repr

namespace Schema

/-- The field with a name. -/
def field? (s : Schema) (name : Value) : Option (Field Value) :=
  s.fields.find? fun f => f.name.alike name

/-- The fields whose names are names. -/
def namedFields (s : Schema) : List (Field Name) :=
  s.fields.filterMap Field.named?

/-- Whether the names of all fields are names. -/
def hasNames (s : Schema) : Bool :=
  s.fields.all fun f => f.named?.isSome

/-- Whether it can be told which fields depend on which: the conditions of a field look at names,
and a field with conditions has a name. -/
def hasIndex (s : Schema) : Bool :=
  s.fields.all fun f => f.conditions.isEmpty || f.named?.isSome

/-- The choices of the set with a name. -/
def choiceSet (s : Schema) (key : Value) : Except ReadingError (List Choice) := do
  match ← key.asName with
  | .text "ruleTypes" => return s.ruleTypes
  | .text "actionTypes" => return s.actions
  | .text "finalActionTypes" => return s.finalActions
  | _ => return []

/-- What can be chosen in a field. -/
def choicesFor (s : Schema) (f : Field Value) (isFinal : Bool) :
    Except ReadingError (List Choice) :=
  if f.name = .text "action" ∧ isFinal = true ∧ s.finalActions ≠ [] then .ok s.finalActions
  else if f.choicesKey.truth then s.choiceSet f.choicesKey
  else .ok f.choices

/-- The value of a field in the draft of a new rule; where one of several has to be chosen and no
value is given, it is the first one. -/
def defaultFor (s : Schema) (f : Field Value) (isFinal : Bool) : Except ReadingError Value :=
  if f.input = .checkbox then .ok (.bool f.default.truth)
  else if f.default ≠ .null then .ok f.default
  else if f.input = .select then
    (s.choicesFor f isFinal).map fun choices => (choices.head?.map Choice.value).getD (.text "")
  else .ok (.text "")

/-! ## Labels -/

/-- What stands for a value among choices. -/
def labelAmong? (choices : List Choice) (v : Value) : Option Value :=
  (choices.find? fun c => c.value.alike v).map Choice.display

/-- What stands for a type. -/
def typeLabel (s : Schema) (v : Value) : Value :=
  match labelAmong? s.ruleTypes v with
  | some label => label
  | none => if v.alike Rule.finalType then s.finalLabel else v

/-- What stands for an action. -/
def actionLabel (s : Schema) (v : Value) : Value :=
  (labelAmong? (s.actions ++ s.finalActions) v).getD v

/-- What stands for the value of the attribute with a name. -/
def labelFor (s : Schema) (name : Value) (v : Value) : Value :=
  if name = .text "type" then s.typeLabel (.text v.shown)
  else if name = .text "action" then s.actionLabel (.text v.shown)
  else if v = .null then .text ""
  else .text v.shown

end Schema

end Rulebook
