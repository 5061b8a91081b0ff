/-
  Rulebook.Schema.Headers

  The rule list that the editor is made for: rules that rewrite headers, with a fallback at the
  end.  Beside the schema stand the check and the change that every rule of such a list passes
  before it is stored.
-/
import Rulebook.Schema.Basic
import Rulebook.Text.Blank

namespace Rulebook.Headers

/-- The actions that write a value and therefore need one. -/
def rewritingActions : List Value := [.text "REPLACE", .text "REPLACE-PART"]

/-- The actions that leave the headers alone. -/
def passiveActions : List Value := [.text "DIRECT", .text "DROP"]

/-- What is wrong with a rule: a normal rule has to match something, and an action that rewrites
has to have something to write. -/
def validate : Validator := fun r isFinal =>
  if !isFinal && !r.matchValue.truth then some "Match value is required"
  else if r.action.isAmong rewritingActions && !r.rewriteValue.truth then
    some "Rewrite value is required for this action"
  else none

/-- A text without the blanks around it. -/
def trimmed : Value → Value
  | .text s => .text (Text.trim s)
  | v => v

/-- The rule without blanks around what was typed. -/
def trimRule (r : Rule) : Rule :=
  { r with
    matchValue := trimmed r.matchValue
    rewriteValue := trimmed r.rewriteValue
    description := trimmed r.description }

/-- The change before a rule is stored. -/
def transform : Transformer := fun r _ => some (trimRule r)

/-- A choice with its label. -/
def choice (value label : String) : Choice :=
  { value := .text value, label := .text label }

/-- A field shows only for actions that rewrite. -/
def whenRewriting : Condition Value :=
  { on := "action", showWhen := some rewritingActions }

/-- A field shows only for actions on headers. -/
def whenActive : Condition Value :=
  { on := "action", hideWhen := some passiveActions }

/-- The fields of the dialog. -/
def fields : List (Field Value) := [
  { name := "type", input := .select, label := .text "Rule Type"
    choicesKey := .text "ruleTypes", hideForFinal := true },
  { name := "match_value", label := .text "Match Value"
    placeholder := .text "e.g. User-Agent keyword", hideForFinal := true },
  { name := "action", input := .select, label := .text "Action"
    choicesKey := .text "actionTypes" },
  { name := "rewrite_header", label := .text "Rewrite Header"
    default := .text "User-Agent", conditions := [whenActive] },
  { name := "rewrite_value", label := .text "Rewrite Value", conditions := [whenRewriting] },
  { name := "description", label := .text "Description", optional := true }]

/-- The columns of the table. -/
def columns : List Column := [
  { kind := .checkbox, field := "enabled", title := "Enabled" },
  { kind := .index, title := "#" },
  { kind := .label, field := "type", title := "Type" },
  { kind := .value, field := "match_value", title := "Match", hideForFinal := true },
  { kind := .label, field := "action", title := "Action" },
  { kind := .value, field := "rewrite_value", title := "Rewrite" },
  { kind := .value, field := "description", title := "Description" },
  { kind := .actions, title := "Actions" }]

/-- The schema of the header rules. -/
def schema : Schema where
  fields := fields
  ruleTypes := [
    choice "HEADER-KEYWORD" "Header Keyword", choice "HEADER-REGEX" "Header Regex",
    choice "IP-CIDR" "IP CIDR", choice "SRC-IP" "Source IP",
    choice "DEST-PORT" "Destination Port"]
  actions := [
    choice "REPLACE" "Replace", choice "REPLACE-PART" "Replace Part",
    choice "DELETE" "Delete Header", choice "DIRECT" "Direct", choice "DROP" "Drop"]
  finalActions := [choice "DIRECT" "Direct", choice "REPLACE" "Replace"]
  columns := columns

end Rulebook.Headers
