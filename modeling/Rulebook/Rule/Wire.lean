/-
  Rulebook.Rule.Wire

  Rules as they are stored: a mapping with the six attributes that every rule has and whatever
  else the rule came with.  Reading never refuses a mapping: attributes of any kind are shown as
  text, and missing ones are empty.

  Main statement: `Rule.isFinal_ofEntries`, the sentinel is told by its type.
-/
import Rulebook.Rule.Basic
import Rulebook.Value.Parts

namespace Rulebook.Rule

/-- An attribute as text: nothing if it is missing or does not count as given. -/
def textOf (name : Name) (es : Entries) : Value :=
  .text ((es.get? name).getD .null).shownOrEmpty

/-- The rule that entries describe. -/
def ofEntries (es : Entries) : Rule :=
  ofAttributes {
    ruleType := textOf "type" es
    matchValue := textOf "match_value" es
    action := textOf "action" es
    rewriteValue := textOf "rewrite_value" es
    description := textOf "description" es
    enabled := .bool ((es.get? "enabled").getD (.bool true)).flag
    extra := es.filter fun e => !attributeNames.contains e.1 }

/-- The rule that a value describes. -/
def ofValue (v : Value) : Except ReadingError Rule := do
  return ofEntries (← v.entries?)

/-- The entries that store a rule.  An attribute that the editor does not know never hides one
that it does. -/
def toEntries (r : Rule) : Entries :=
  ([("type", r.ruleType), ("match_value", r.matchValue), ("action", r.action),
    ("rewrite_value", r.rewriteValue), ("description", r.description),
    ("enabled", r.enabled)] : Entries) ++
    r.extra.filter fun e => !attributeNames.contains e.1

/-- The value that stores a rule. -/
def toValue (r : Rule) : Value :=
  .mapping r.toEntries

/-- How many lists and mappings of what a rule came with may be inside each other. -/
def maxExtraDepth : Nat := 484

/-- Whether a list can hold a rule: nothing that it came with is too deep. -/
def isHoldable (r : Rule) : Bool :=
  Value.entriesDepth r.extra ≤ maxExtraDepth

/-! ## Rules by their members -/

/-- The members that a rule is made from by name. -/
def memberNames : List Name :=
  ["kind", "rule_type", "match_value", "action", "rewrite_value", "description", "enabled",
    "extra"]

/-- The first name that is none of those allowed. -/
def unknownMember? (allowed : List Name) (es : Entries) : Option Name :=
  es.keys.find? fun name => !allowed.contains name

/-- The rule that has the members given, and for the others those of an empty rule. -/
def ofMembers (es : Entries) : Except ReadingError Rule := do
  let kind ← match es.get? "kind" with
    | some v => Kind.ofValue? v
    | none => pure .normal
  if let some name := unknownMember? memberNames es then throw (.unknownMember name)
  let member (name : Name) (default : Value) : Value := (es.get? name).getD default
  let r ← make kind {
    ruleType := member "rule_type" (.text "")
    matchValue := member "match_value" (.text "")
    action := member "action" (.text "")
    rewriteValue := member "rewrite_value" (.text "")
    description := member "description" (.text "")
    enabled := member "enabled" (.bool true) }
  return { r with extra := ← (member "extra" (.mapping [])).entries? }

/-- The sentinel with the description and the action given. -/
def fallbackOfMembers (es : Entries) : Except ReadingError Rule := do
  if let some name := unknownMember? ["description", "action"] es then
    throw (.unknownMember name)
  return fallback ((es.get? "description").getD defaultFinalDescription)
    ((es.get? "action").getD defaultFinalAction)

/-! ## Reading and storing -/

/-- The sentinel is told by its type. -/
theorem isFinal_ofEntries (es : Entries) :
    (ofEntries es).isFinal = (textOf "type" es == finalType) := by
  unfold ofEntries ofAttributes
  split
  · rename_i h
    have h' : textOf "type" es = finalType := h
    simp [h', isFinal, sentinel]
  · rename_i h
    have h' : ¬ textOf "type" es = finalType := h
    rw [beq_eq_false_iff_ne.2 h']
    rfl

/-- Whether the attributes that every rule has are texts and a flag, and the others have names of
their own. -/
structure Plain (r : Rule) : Prop where
  ruleType : ∃ s, r.ruleType = .text s
  matchValue : ∃ s, r.matchValue = .text s
  action : ∃ s, r.action = .text s
  rewriteValue : ∃ s, r.rewriteValue = .text s
  description : ∃ s, r.description = .text s
  enabled : ∃ b, r.enabled = .bool b
  extra : ∀ e ∈ r.extra, e.1 ∉ attributeNames

end Rulebook.Rule
