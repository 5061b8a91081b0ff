/-
  Rulebook.Field.Basic

  The fields of the dialog in which a rule is edited: how a value is entered, what can be chosen,
  and under which conditions on other fields it is shown.

  A configuration may put any value where the name of a field is needed.  The type of names is
  therefore a parameter: `Field.named?` is the field whose names are names.
-/
import Rulebook.Value.Reading

namespace Rulebook

/-- How the value of a field is entered. -/
inductive Input where
  | select
  | text
  | checkbox
deriving DecidableEq, Repr, Inhabited

namespace Input

/-- The name of an input. -/
def name : Input → String
  | .select => "select"
  | .text => "text"
  | .checkbox => "checkbox"

/-- The input with the name that a value is. -/
def ofValue? : Value → Except ReadingError Input
  | .text "select" => .ok .select
  | .text "text" => .ok .text
  | .text "checkbox" => .ok .checkbox
  | v => .error (.unknownChoice v "InputKind")

end Input

/-- A value that can be chosen, and its label. -/
structure Choice where
  value : Value
  label : Value := .text ""
deriving DecidableEq, Repr

namespace Choice

/-- What stands for a choice: its label, or its value if it has none. -/
def display (c : Choice) : Value :=
  c.label.orElse c.value

end Choice

/-- A condition on another field, for a field to be shown. -/
structure Condition (ν : Type) where
  /-- the field that the condition looks at -/
  on : ν
  /-- if given, the values one of which it must have -/
  showWhen : Option (List Value) := none
  /-- if given, the values none of which it may have -/
  hideWhen : Option (List Value) := none
deriving DecidableEq, Repr

namespace Condition

/-- The condition with a name for what it looks at, if that is one. -/
def named? (c : Condition Value) : Option (Condition Name) :=
  c.on.name?.map fun on => { on, showWhen := c.showWhen, hideWhen := c.hideWhen }

/-- Whether a value meets the condition. -/
def passes {ν : Type} (c : Condition ν) (v : Value) : Bool :=
  (match c.showWhen with
    | some values => v.isAmong values
    | none => true) &&
  (match c.hideWhen with
    | some values => !v.isAmong values
    | none => true)

end Condition

/-- A field of the dialog. -/
structure Field (ν : Type) where
  name : ν
  input : Input := .text
  label : Value := .text ""
  /-- the value of a new rule, if it is not null -/
  default : Value := .null
  choices : List Choice := []
  /-- the name of the set of choices that is used instead of `choices` -/
  choicesKey : Value := .null
  conditions : List (Condition ν) := []
  hideForFinal : Bool := false
  showOnlyForFinal : Bool := false
  optional : Bool := false
  placeholder : Value := .text ""
deriving DecidableEq, Repr

namespace Field

variable {ν : Type}

/-- The fields that the conditions look at. -/
def references (f : Field ν) : List ν :=
  f.conditions.map Condition.on

/-- Whether the field is part of the dialog for a kind of rule. -/
def appliesTo (f : Field ν) (isFinal : Bool) : Bool :=
  !(f.hideForFinal && isFinal) && !(f.showOnlyForFinal && !isFinal)

/-- The field with names for its name and for what its conditions look at, if they all are
names. -/
def named? (f : Field Value) : Option (Field Name) := do
  let name ← f.name.name?
  let conditions ← f.conditions.mapM Condition.named?
  return { f with name, conditions }

end Field

end Rulebook
