/-
  Rulebook.Row

  The rows of the table: what each cell shows, and which commands each row offers.
-/
import Rulebook.Arrangement
import Rulebook.Schema.Basic

namespace Rulebook

/-- Which commands the user may give at all. -/
structure Permissions where
  move : Bool := true
  delete : Bool := true
  toggle : Bool := true
deriving DecidableEq, Repr

/-- A cell of the table. -/
structure Cell where
  kind : ColumnKind
  text : Value := .text ""
  /-- the full value, for display on demand -/
  title : Value := .text ""
  checked : Value := .bool false
  disabled : Bool := false
deriving DecidableEq, Repr

/-- A row of the table. -/
structure Row where
  index : Nat
  isFinal : Bool
  cells : List Cell
  canEdit : Bool := true
  canMoveUp : Bool
  canMoveDown : Bool
  canDelete : Bool
  draggable : Bool
deriving DecidableEq, Repr

namespace Row

/-- What stands for a value that the row of the sentinel does not show. -/
def hiddenValue : Value := .text "-"

/-- The attribute of a rule that a column shows. -/
def valueOf (r : Rule) (c : Column) : Except ReadingError Value := do
  return r.get (← c.field.asName)

/-- The cell of a column in the row of a rule. -/
def cell (schema : Schema) (may : Permissions) (index : Nat) (r : Rule) (c : Column) :
    Except ReadingError Cell :=
  match c.kind with
  | .checkbox =>
    .ok { kind := .checkbox, checked := r.enabled, disabled := r.isFinal || !may.toggle }
  | .index => .ok { kind := .index, text := .text (toString (index + 1)) }
  | .label => do return { kind := .label, text := schema.labelFor c.field (← valueOf r c) }
  | .value =>
    if r.isFinal && c.hideForFinal then .ok { kind := .value, text := hiddenValue }
    else do
      let v ← valueOf r c
      let text := if v = .null then .text "" else .text v.shown
      return { kind := .value, text := text, title := text }
  | .actions => .ok { kind := .actions }

/-- The row of a rule at a position. -/
def of (schema : Schema) (may : Permissions) (rules : List Rule) (index : Nat) (r : Rule) :
    Except ReadingError Row := do
  return {
    index
    isFinal := r.isFinal
    cells := ← schema.columns.mapM (cell schema may index r)
    canMoveUp := may.move && Arrangement.canMoveUp Rule.isFinal rules index
    canMoveDown := may.move && Arrangement.canMoveDown Rule.isFinal rules index
    canDelete := may.delete && !r.isFinal
    draggable := may.move && !r.isFinal }

/-- The rows of a list, in its order. -/
def all (schema : Schema) (may : Permissions) (rules : List Rule) :
    Except ReadingError (List Row) :=
  rules.zipIdx.mapM fun (r, index) => of schema may rules index r

/-- The commands that a row offers, by name. -/
def hints (row : Row) : List String :=
  ["edit"] ++ (if row.canMoveUp then ["up"] else []) ++
    (if row.canMoveDown then ["down"] else []) ++ (if row.canDelete then ["delete"] else [])

end Row

end Rulebook
