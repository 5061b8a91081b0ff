/-
  Rulebook.Rule.Basic

  A rewrite rule.  A normal rule has a type that says what it looks at, a value to match, an
  action and what the action needs.  The fallback rule, called the sentinel, stands for
  everything that no other rule matched: its type is always `FINAL` and it is always enabled, and
  no normal rule has that type.  Attributes that the editor does not know are kept as they are.

  Main statement: `Rule.ext_of_attributes`, a rule is its kind and its attributes.
-/
import Rulebook.Value.Reading

namespace Rulebook

/-- Whether a rule is an ordinary one or the sentinel. -/
inductive Kind where
  | normal
  | final
deriving DecidableEq, Repr, Inhabited

namespace Kind

/-- The name of a kind. -/
def name : Kind → String
  | .normal => "NORMAL"
  | .final => "FINAL"

/-- The kind with the name that a value is. -/
def ofValue? : Value → Except ReadingError Kind
  | .text "NORMAL" => .ok .normal
  | .text "FINAL" => .ok .final
  | v => .error (.unknownChoice v "RuleKind")

end Kind

namespace Rule

/-- The type of the sentinel. -/
def finalType : Value := .text "FINAL"

/-- What holds of the type and the enabled flag of every rule of a kind. -/
def Lawful (kind : Kind) (ruleType enabled : Value) : Prop :=
  match kind with
  | .normal => ruleType ≠ finalType
  | .final => ruleType = finalType ∧ enabled = .bool true

instance (kind : Kind) (ruleType enabled : Value) : Decidable (Lawful kind ruleType enabled) := by
  unfold Lawful; split <;> infer_instance

end Rule

/-- A rule. -/
structure Rule where
  kind : Kind
  ruleType : Value
  matchValue : Value
  action : Value
  rewriteValue : Value
  description : Value
  enabled : Value
  /-- attributes that the editor does not know -/
  extra : Entries
  lawful : Rule.Lawful kind ruleType enabled
deriving DecidableEq, Repr

namespace Rule

/-- A rule is its kind and its attributes. -/
theorem ext_of_attributes {a b : Rule} (kind : a.kind = b.kind) (ruleType : a.ruleType = b.ruleType)
    (matchValue : a.matchValue = b.matchValue) (action : a.action = b.action)
    (rewriteValue : a.rewriteValue = b.rewriteValue) (description : a.description = b.description)
    (enabled : a.enabled = b.enabled) (extra : a.extra = b.extra) : a = b := by
  cases a; cases b; simp_all

/-- Whether a rule is the sentinel. -/
def isFinal (r : Rule) : Bool :=
  r.kind == .final

theorem isFinal_iff {r : Rule} : r.isFinal = true ↔ r.kind = .final := by
  simp [isFinal]

theorem isFinal_eq_false_iff {r : Rule} : r.isFinal = false ↔ r.kind = .normal := by
  cases h : r.kind <;> simp [isFinal, h]

/-- The sentinel has the type `FINAL` and is enabled. -/
theorem ruleType_enabled_of_isFinal {r : Rule} (h : r.isFinal = true) :
    r.ruleType = finalType ∧ r.enabled = .bool true := by
  have hl := r.lawful
  rw [isFinal_iff.1 h] at hl
  exact hl

/-- A normal rule does not have the type `FINAL`. -/
theorem ruleType_ne_of_not_isFinal {r : Rule} (h : r.isFinal = false) : r.ruleType ≠ finalType := by
  have hl := r.lawful
  rw [isFinal_eq_false_iff.1 h] at hl
  exact hl

/-! ## Making rules -/

/-- The attributes of a rule before its kind has had its say. -/
structure Attributes where
  ruleType : Value := .text ""
  matchValue : Value := .text ""
  action : Value := .text ""
  rewriteValue : Value := .text ""
  description : Value := .text ""
  enabled : Value := .bool true
  extra : Entries := []
deriving Repr

/-- The sentinel with the attributes given; its type and its flag are not a choice. -/
def sentinel (a : Attributes) : Rule where
  kind := .final
  ruleType := finalType
  matchValue := a.matchValue
  action := a.action
  rewriteValue := a.rewriteValue
  description := a.description
  enabled := .bool true
  extra := a.extra
  lawful := ⟨rfl, rfl⟩

/-- The rule of a kind with the attributes given; a normal rule cannot have the type of the
sentinel. -/
def make (kind : Kind) (a : Attributes) : Except ReadingError Rule :=
  match kind with
  | .final => .ok (sentinel a)
  | .normal =>
    if h : a.ruleType = finalType then .error .reservedType
    else
      .ok { kind := .normal
            ruleType := a.ruleType
            matchValue := a.matchValue
            action := a.action
            rewriteValue := a.rewriteValue
            description := a.description
            enabled := a.enabled
            extra := a.extra
            lawful := h }

/-- The rule whose kind follows from its type. -/
def ofAttributes (a : Attributes) : Rule :=
  if h : a.ruleType = finalType then sentinel a
  else
    { kind := .normal
      ruleType := a.ruleType
      matchValue := a.matchValue
      action := a.action
      rewriteValue := a.rewriteValue
      description := a.description
      enabled := a.enabled
      extra := a.extra
      lawful := h }

/-- What a sentinel does that nobody wrote. -/
def defaultFinalAction : Value := .text "DIRECT"

/-- How a sentinel is described that nobody wrote. -/
def defaultFinalDescription : Value := .text "Default fallback rule"

/-- A sentinel with a description and an action. -/
def fallback (description : Value := defaultFinalDescription)
    (action : Value := defaultFinalAction) : Rule :=
  sentinel { action := action, description := description }

/-- A rule with its flag set; the sentinel keeps its own. -/
def withFlag (r : Rule) (value : Value) : Rule :=
  if h : r.kind = .normal then
    { r with
      enabled := value
      lawful := by have hl := r.lawful; rw [h] at hl ⊢; exact hl }
  else r

@[simp] theorem kind_withFlag (r : Rule) (value : Value) : (r.withFlag value).kind = r.kind := by
  unfold withFlag; split <;> rfl

@[simp] theorem isFinal_withFlag (r : Rule) (value : Value) :
    (r.withFlag value).isFinal = r.isFinal := by
  simp [isFinal]

/-! ## Attributes by name -/

/-- The names of the attributes that every rule has, in the order in which they are written. -/
def attributeNames : List Name :=
  ["type", "match_value", "action", "rewrite_value", "description", "enabled"]

/-- The attribute with a name, if the rule has it. -/
def get? (r : Rule) (name : Name) : Option Value :=
  match name with
  | .text "type" => some r.ruleType
  | .text "match_value" => some r.matchValue
  | .text "action" => some r.action
  | .text "rewrite_value" => some r.rewriteValue
  | .text "description" => some r.description
  | .text "enabled" => some r.enabled
  | _ => r.extra.get? name

/-- The attribute with a name, or nothing. -/
def get (r : Rule) (name : Name) : Value :=
  (r.get? name).getD .null

/-- Whether two rules are of one kind and have alike attributes. -/
def alike (a b : Rule) : Bool :=
  a.kind == b.kind && a.ruleType.alike b.ruleType && a.matchValue.alike b.matchValue &&
    a.action.alike b.action && a.rewriteValue.alike b.rewriteValue &&
    a.description.alike b.description && a.enabled.alike b.enabled &&
    (Value.mapping a.extra).alike (.mapping b.extra)

end Rule

end Rulebook
