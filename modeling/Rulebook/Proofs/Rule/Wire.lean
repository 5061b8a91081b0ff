/-
  Rulebook.Proofs.Rule.Wire

  What is read of a rule that was stored.  A rule that was read is plain: its attributes are texts
  and a flag, and whatever else it came with has other names.  A plain rule that is stored and
  read again is the same rule.  So any mapping can be read, and what is stored of it stays as it is
  from then on: the attributes come first, in one order, and the rest comes behind them untouched.

  Main statements: `Rule.plain_ofEntries`, `Rule.ofEntries_toEntries` and `Rule.wire_round_trip`.
-/
import Mathlib.Data.List.Basic
import Rulebook.Rule.Wire

namespace Rulebook

/-- No other name is the same as a text. -/
theorem Name.beq_text_iff {name : Name} {s : String} :
    (name == .text s) = true ↔ name = .text s := by
  rw [Name.beq_iff]
  cases name with
  | text t => rfl
  | float x =>
    simp only [Name.canonical]
    split <;> simp
  | null | bool | int | foreign => simp [Name.canonical]

namespace Rule

variable {r : Rule}

/-- The kind of a rule can be told from its type. -/
theorem isFinal_iff_ruleType : r.isFinal = true ↔ r.ruleType = finalType := by
  constructor
  · intro h
    exact (ruleType_enabled_of_isFinal h).1
  · intro h
    cases hf : r.isFinal with
    | true => rfl
    | false => exact absurd h (ruleType_ne_of_not_isFinal hf)

/-! ## The attributes of a rule -/

/-- The attributes of a rule. -/
def attributes (r : Rule) : Attributes where
  ruleType := r.ruleType
  matchValue := r.matchValue
  action := r.action
  rewriteValue := r.rewriteValue
  description := r.description
  enabled := r.enabled
  extra := r.extra

/-- A rule is the one that has its attributes: its kind follows from its type. -/
theorem ofAttributes_attributes (r : Rule) : ofAttributes r.attributes = r := by
  unfold ofAttributes
  split
  · rename_i h
    have h_kind := isFinal_iff_ruleType.2 h
    obtain ⟨h_type, h_enabled⟩ := ruleType_enabled_of_isFinal h_kind
    exact ext_of_attributes (isFinal_iff.1 h_kind).symm h_type.symm rfl rfl rfl rfl h_enabled.symm
      rfl
  · rename_i h
    have h_kind : r.isFinal = false := by
      rw [← Bool.not_eq_true, isFinal_iff_ruleType]
      exact h
    exact ext_of_attributes (isFinal_eq_false_iff.1 h_kind).symm rfl rfl rfl rfl rfl rfl rfl

/-- A rule that is made of attributes has them, but a sentinel is enabled whatever they say. -/
theorem attributes_ofAttributes (a : Attributes) :
    (ofAttributes a).attributes =
      { a with enabled := if a.ruleType = finalType then .bool true else a.enabled } := by
  by_cases h : a.ruleType = finalType
  · rw [ofAttributes, dif_pos h, if_pos h, h]
    rfl
  · rw [ofAttributes, dif_neg h, if_neg h]
    rfl

/-! ## Reading -/

/-- The names of the attributes are texts, so they are told apart by equality. -/
theorem contains_attributeNames_iff {name : Name} :
    attributeNames.contains name = true ↔ name ∈ attributeNames := by
  rw [List.contains_iff_exists_mem_beq]
  constructor
  · rintro ⟨a, ha, h_same⟩
    have h_text : ∃ s, a = .text s := by
      simp only [attributeNames, List.mem_cons, List.not_mem_nil, or_false] at ha
      rcases ha with rfl | rfl | rfl | rfl | rfl | rfl <;> exact ⟨_, rfl⟩
    obtain ⟨s, rfl⟩ := h_text
    rwa [Name.beq_text_iff.1 h_same]
  · exact fun h => ⟨name, h, BEq.rfl⟩

/-- Nor do spellings of a name matter. -/
theorem contains_attributeNames_congr {name other : Name} (h : (name == other) = true) :
    attributeNames.contains name = attributeNames.contains other := by
  rw [List.contains_eq_any_beq, List.contains_eq_any_beq]
  exact congrArg attributeNames.any (funext fun _ => BEq.congr_left h)

theorem ruleType_ofEntries (es : Entries) : (ofEntries es).ruleType = textOf "type" es :=
  congrArg Attributes.ruleType (attributes_ofAttributes _)

theorem matchValue_ofEntries (es : Entries) :
    (ofEntries es).matchValue = textOf "match_value" es :=
  congrArg Attributes.matchValue (attributes_ofAttributes _)

theorem action_ofEntries (es : Entries) : (ofEntries es).action = textOf "action" es :=
  congrArg Attributes.action (attributes_ofAttributes _)

theorem rewriteValue_ofEntries (es : Entries) :
    (ofEntries es).rewriteValue = textOf "rewrite_value" es :=
  congrArg Attributes.rewriteValue (attributes_ofAttributes _)

theorem description_ofEntries (es : Entries) :
    (ofEntries es).description = textOf "description" es :=
  congrArg Attributes.description (attributes_ofAttributes _)

theorem extra_ofEntries (es : Entries) :
    (ofEntries es).extra = es.filter fun e => !attributeNames.contains e.1 :=
  congrArg Attributes.extra (attributes_ofAttributes _)

/-- The sentinel is told by its type, and by nothing else. -/
theorem isFinal_ofEntries_iff {es : Entries} :
    (ofEntries es).isFinal = true ↔ textOf "type" es = finalType := by
  rw [isFinal_ofEntries, beq_iff_eq]

/-- A rule that is read has the flag that the entries have, unless it is a sentinel: that is
enabled. -/
theorem enabled_ofEntries (es : Entries) :
    (ofEntries es).enabled =
      .bool ((ofEntries es).isFinal || ((es.get? "enabled").getD (.bool true)).flag) := by
  cases h : (ofEntries es).isFinal with
  | true => exact (ruleType_enabled_of_isFinal h).2
  | false =>
    have h_type : textOf "type" es ≠ finalType := by
      rw [Ne, ← isFinal_ofEntries_iff, h]
      exact Bool.false_ne_true
    rw [Bool.false_or]
    exact (congrArg Attributes.enabled (attributes_ofAttributes _)).trans (if_neg h_type)

/-- What a rule came with beside its attributes is found among its entries. -/
theorem mem_extra_ofEntries {es : Entries} {e : Name × Value} (h : e ∈ (ofEntries es).extra) :
    e ∈ es ∧ e.1 ∉ attributeNames := by
  rw [extra_ofEntries, List.mem_filter, Bool.not_eq_true', ← Bool.not_eq_true,
    contains_attributeNames_iff] at h
  exact h

/-- A rule that was read is plain. -/
theorem plain_ofEntries (es : Entries) : (ofEntries es).Plain where
  ruleType := ⟨_, ruleType_ofEntries es⟩
  matchValue := ⟨_, matchValue_ofEntries es⟩
  action := ⟨_, action_ofEntries es⟩
  rewriteValue := ⟨_, rewriteValue_ofEntries es⟩
  description := ⟨_, description_ofEntries es⟩
  enabled := ⟨_, enabled_ofEntries es⟩
  extra := fun _ h => (mem_extra_ofEntries h).2

/-! ## Storing -/

/-- An attribute of a rule is stored under its name. -/
theorem get?_toEntries {name : Name} (h : name ∈ attributeNames) :
    r.toEntries.get? name = r.get? name := by
  simp only [attributeNames, List.mem_cons, List.not_mem_nil, or_false] at h
  rcases h with rfl | rfl | rfl | rfl | rfl | rfl <;>
    simp [toEntries, Record.get?_cons, get?]

@[simp] theorem get?_toEntries_type (r : Rule) : r.toEntries.get? "type" = some r.ruleType := by
  rw [get?_toEntries (by simp [attributeNames]), get?]

@[simp] theorem get?_toEntries_enabled (r : Rule) :
    r.toEntries.get? "enabled" = some r.enabled := by
  rw [get?_toEntries (by simp [attributeNames]), get?]

/-- An attribute that was stored as a text is read as that text. -/
theorem textOf_toEntries {name : Name} (h : name ∈ attributeNames) {v : Value}
    (h_get : r.get? name = some v) (h_text : ∃ s, v = .text s) : textOf name r.toEntries = v := by
  obtain ⟨s, rfl⟩ := h_text
  rw [textOf, get?_toEntries h, h_get, Option.getD_some, Value.shownOrEmpty_text]

/-- What a plain rule came with has names of its own. -/
theorem filter_extra (h : r.Plain) :
    (r.extra.filter fun e => !attributeNames.contains e.1) = r.extra := by
  refine List.filter_eq_self.2 fun e he => ?_
  rw [Bool.not_eq_true', ← Bool.not_eq_true, contains_attributeNames_iff]
  exact h.extra e he

/-- So it is stored as it is, behind the attributes. -/
theorem toEntries_of_plain (h : r.Plain) :
    r.toEntries = ([("type", r.ruleType), ("match_value", r.matchValue), ("action", r.action),
      ("rewrite_value", r.rewriteValue), ("description", r.description),
      ("enabled", r.enabled)] : Entries) ++ r.extra := by
  rw [toEntries, filter_extra h]

theorem extra_toEntries (h : r.Plain) :
    (r.toEntries.filter fun e => !attributeNames.contains e.1) = r.extra := by
  rw [toEntries_of_plain h, List.filter_append, filter_extra h]
  rfl

/-- **A plain rule that is stored and read again is the same rule.** -/
theorem ofEntries_toEntries (h : r.Plain) : ofEntries r.toEntries = r := by
  have h_enabled : Value.bool ((r.toEntries.get? "enabled").getD (.bool true)).flag = r.enabled := by
    obtain ⟨b, hb⟩ := h.enabled
    rw [get?_toEntries_enabled, hb]
    rfl
  rw [ofEntries, textOf_toEntries (by simp [attributeNames]) rfl h.ruleType,
    textOf_toEntries (by simp [attributeNames]) rfl h.matchValue,
    textOf_toEntries (by simp [attributeNames]) rfl h.action,
    textOf_toEntries (by simp [attributeNames]) rfl h.rewriteValue,
    textOf_toEntries (by simp [attributeNames]) rfl h.description, h_enabled, extra_toEntries h]
  exact ofAttributes_attributes r

/-! ## Any mapping -/

/-- Whether entries are such as a rule is stored in: first the attributes, which are five texts and
a flag, and then entries with other names.  The flag of a sentinel is set. -/
def Written (es : Entries) : Prop :=
  ∃ (ruleType matchValue action rewriteValue description : String) (enabled : Bool)
    (others : Entries),
    es = ([("type", .text ruleType), ("match_value", .text matchValue), ("action", .text action),
      ("rewrite_value", .text rewriteValue), ("description", .text description),
      ("enabled", .bool enabled)] : Entries) ++ others ∧
    (ruleType = "FINAL" → enabled = true) ∧ ∀ e ∈ others, e.1 ∉ attributeNames

/-- A plain rule is stored in entries of that shape, and whatever has that shape stores one. -/
theorem written_iff {es : Entries} : Written es ↔ ∃ r : Rule, r.Plain ∧ r.toEntries = es := by
  constructor
  · rintro ⟨ruleType, matchValue, action, rewriteValue, description, enabled, others, rfl, h_flag,
      h_others⟩
    let a : Attributes := ⟨.text ruleType, .text matchValue, .text action, .text rewriteValue,
      .text description, .bool enabled, others⟩
    have h_attributes : (ofAttributes a).attributes = a := by
      rw [attributes_ofAttributes]
      split
      · rename_i h_type
        rw [← h_flag (Value.text.inj h_type)]
      · rfl
    have h_extra : (ofAttributes a).extra = others := congrArg Attributes.extra h_attributes
    have h_plain : (ofAttributes a).Plain :=
      ⟨⟨_, congrArg Attributes.ruleType h_attributes⟩,
        ⟨_, congrArg Attributes.matchValue h_attributes⟩,
        ⟨_, congrArg Attributes.action h_attributes⟩,
        ⟨_, congrArg Attributes.rewriteValue h_attributes⟩,
        ⟨_, congrArg Attributes.description h_attributes⟩,
        ⟨_, congrArg Attributes.enabled h_attributes⟩,
        by rwa [h_extra]⟩
    refine ⟨ofAttributes a, h_plain, ?_⟩
    rw [toEntries_of_plain h_plain]
    exact congrArg (fun a : Attributes => ([("type", a.ruleType), ("match_value", a.matchValue),
      ("action", a.action), ("rewrite_value", a.rewriteValue), ("description", a.description),
      ("enabled", a.enabled)] : Entries) ++ a.extra) h_attributes
  · rintro ⟨r, h, rfl⟩
    obtain ⟨ruleType, h_type⟩ := h.ruleType
    obtain ⟨matchValue, h_match⟩ := h.matchValue
    obtain ⟨action, h_action⟩ := h.action
    obtain ⟨rewriteValue, h_rewrite⟩ := h.rewriteValue
    obtain ⟨description, h_description⟩ := h.description
    obtain ⟨enabled, h_enabled⟩ := h.enabled
    refine ⟨ruleType, matchValue, action, rewriteValue, description, enabled, r.extra, ?_, ?_,
      h.extra⟩
    · rw [toEntries_of_plain h, h_type, h_match, h_action, h_rewrite, h_description, h_enabled]
    · rintro rfl
      have h_kind := isFinal_iff_ruleType.2 h_type
      rw [(ruleType_enabled_of_isFinal h_kind).2] at h_enabled
      exact (Value.bool.inj h_enabled).symm

/-- **Any mapping can be read, and is stored in one shape.**  Whatever values a mapping has under
whatever names in whatever order, it is read as a rule, and the value that stores the rule is read as
the same rule.  The rule is stored with the texts of its five attributes and its flag first, in this
order, and behind them with the rest of the mapping as it was.  It is a sentinel exactly if the text
of its type is the one of the sentinel, and then it is enabled.  It is stored as the very mapping
that it was read from exactly if that has the shape in which rules are stored. -/
theorem wire_round_trip (data : Entries) :
    ∃ r, ofValue (.mapping data) = .ok r ∧ ofValue r.toValue = .ok r ∧
      r.toEntries = ([("type", textOf "type" data), ("match_value", textOf "match_value" data),
        ("action", textOf "action" data), ("rewrite_value", textOf "rewrite_value" data),
        ("description", textOf "description" data),
        ("enabled", .bool (r.isFinal || ((data.get? "enabled").getD (.bool true)).flag))] :
          Entries) ++ data.filter (fun e => !attributeNames.contains e.1) ∧
      (r.isFinal = true ↔ textOf "type" data = finalType) ∧
      (r.isFinal = true → r.enabled = .bool true) ∧
      (r.toEntries = data ↔ Written data) := by
  have h_plain := plain_ofEntries data
  refine ⟨ofEntries data, rfl, ?_, ?_, isFinal_ofEntries_iff,
    fun h => (ruleType_enabled_of_isFinal h).2, ?_⟩
  · exact congrArg Except.ok (ofEntries_toEntries h_plain)
  · rw [toEntries_of_plain h_plain, extra_ofEntries, ruleType_ofEntries, matchValue_ofEntries,
      action_ofEntries, rewriteValue_ofEntries, description_ofEntries, enabled_ofEntries]
  · constructor
    · intro h
      exact written_iff.2 ⟨_, h_plain, h⟩
    · intro h
      obtain ⟨r, hr, rfl⟩ := written_iff.1 h
      rw [ofEntries_toEntries hr]

end Rule

end Rulebook
