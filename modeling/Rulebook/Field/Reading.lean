/-
  Rulebook.Field.Reading

  Fields and conditions as a configuration describes them.  Every member has two spellings; the
  first one that is present counts, whatever its value.
-/
import Rulebook.Field.Basic

namespace Rulebook

namespace Choice

/-- The choice that a value describes: a mapping with a value and perhaps a label, or anything
else, which is shown as text. -/
def ofValue : Value → Except ReadingError Choice
  | .mapping (es : Entries) => do
    return { value := ← es.need "value", label := (es.get? "label").getD (.text "") }
  | v => .ok { value := .text v.shown }

end Choice

namespace Condition

/-- The values of a list of values, if it is given. -/
def values? : Value → Except ReadingError (Option (List Value))
  | .null => .ok none
  | v => some <$> v.items?

/-- The condition that a value describes. -/
def ofValue (v : Value) : Except ReadingError (Condition Value) := do
  let es ← v.entries?
  let first := (es.get? "field").getD .null
  let on ← if first.truth then pure first else es.need "reference_field"
  let showWhen ← values? (es.getEither "showWhen" "show_when" .null)
  let hideWhen ← values? (es.getEither "hideWhen" "hide_when" .null)
  return { on, showWhen, hideWhen }

end Condition

namespace Field

/-- The field that a value describes. -/
def ofValue (v : Value) : Except ReadingError (Field Value) := do
  let es ← v.entries?
  let options ← ((es.get? "options").getD (.list [])).items?
  let choices ← options.mapM Choice.ofValue
  let first := (es.get? "field").getD .null
  let name ← if first.truth then pure first else es.need "name"
  let input ← Input.ofValue? (es.getEither "type" "input_kind" (.text "text"))
  let rules ← (es.getEither "visibilityRules" "visibility_rules" (.list [])).items?
  let conditions ← rules.mapM Condition.ofValue
  return {
    name, input, choices, conditions
    label := (es.get? "label").getD (.text "")
    default := es.getEither "defaultValue" "default" .null
    choicesKey := es.getEither "optionsKey" "options_key" .null
    hideForFinal := (es.getEither "hideForFinal" "hide_for_final" (.bool false)).flag
    showOnlyForFinal := (es.getEither "showOnlyForFinal" "show_only_for_final" (.bool false)).flag
    optional := ((es.get? "optional").getD (.bool false)).flag
    placeholder := (es.get? "placeholder").getD (.text "") }

end Field

end Rulebook
