/-
  Rulebook.Proofs.Dialog.Hidden

  What a dialog of the header rules stores of the fields that it does not show: nothing.

  From the opening of a dialog on, its draft has the same fields, the position and the flag that it
  was opened with (`Draft.Continues`).  The candidate of the draft has the values of the fields that
  are shown.  Two fields are shown for some actions only, and whether they are is decided by the
  value of the action in the draft, which may be anything; the rule that is stored has the text of
  that value.  The two come to the same: nothing but a text is shown as the name of an action for
  which fields are hidden (`Value.eq_text_of_shownOrEmpty`).

  Main statement: `Dialog.stored_of_shown`.
-/
import Rulebook.Proofs.Dialog.Checked
import Rulebook.Proofs.Dialog.Fresh
import Rulebook.Proofs.Dialog.Session
import Rulebook.Proofs.Value.Shown

namespace Rulebook

/-! ## What is shown -/

/-- If the names of the fields are different, each of them is shown as its conditions say. -/
theorem Visibility.isShown_compute {fields : List (Field Name)} {f : Field Name}
    (h_distinct : Record.Distinct (fields.map Field.name)) (hf : f ∈ fields) (values : Entries)
    (isFinal : Bool) : (compute fields values isFinal).isShown f.name = f.isShown values isFinal := by
  have h_keys : Record.keys (fields.map fun f => (f.name, f.isShown values isFinal)) =
      fields.map Field.name := List.map_map
  rw [← h_keys] at h_distinct
  have h_mem : (f.name, f.isShown values isFinal) ∈
      fields.map fun f => (f.name, f.isShown values isFinal) := List.mem_map_of_mem hf
  rw [compute, Visibility.isShown, Record.ofList_of_distinct h_distinct,
    Record.get?_of_mem h_distinct h_mem, Option.getD_some]

/-- A field for both kinds of rules that has one condition is shown if that passes. -/
theorem Field.isShown_of_condition {f : Field Name} {c : Condition Name} {values : Entries}
    {isFinal : Bool} {v : Value} (h_hide : f.hideForFinal = false)
    (h_only : f.showOnlyForFinal = false) (h_conditions : f.conditions = [c])
    (h : values.get? c.on = some v) : f.isShown values isFinal = c.passes v := by
  rw [isShown, appliesTo, h_hide, h_only, h_conditions, List.all_cons, List.all_nil, Bool.and_true]
  simp only [h]
  exact Bool.true_and _

namespace Headers

variable {values : Entries} {v : Value} {isFinal : Bool}

/-- What the header rules show of a draft. -/
def shownOf (values : Entries) (isFinal : Bool) : Visibility :=
  Visibility.compute schema.namedFields values isFinal

theorem distinct_names : Record.Distinct (schema.namedFields.map Field.name) := by
  decide

theorem isShown_action (values : Entries) (isFinal : Bool) :
    (shownOf values isFinal).isShown "action" = true := by
  have h_field := Visibility.isShown_compute distinct_names
    (List.mem_of_getElem? (l := schema.namedFields) (i := 2) rfl) values isFinal
  exact h_field.trans (by cases isFinal <;> rfl)

/-- The type is shown for a normal rule. -/
theorem isShown_type (values : Entries) : (shownOf values false).isShown "type" = true := by
  have h_field := Visibility.isShown_compute distinct_names
    (List.mem_of_getElem? (l := schema.namedFields) (i := 0) rfl) values false
  exact h_field

/-- The value to match is shown for a normal rule, and hidden for a sentinel. -/
theorem isShown_matchValue (values : Entries) (isFinal : Bool) :
    (shownOf values isFinal).isShown "match_value" = !isFinal := by
  have h_field := Visibility.isShown_compute distinct_names
    (List.mem_of_getElem? (l := schema.namedFields) (i := 1) rfl) values isFinal
  exact h_field.trans (by cases isFinal <;> rfl)

theorem isShown_description (values : Entries) (isFinal : Bool) :
    (shownOf values isFinal).isShown "description" = true := by
  have h_field := Visibility.isShown_compute distinct_names
    (List.mem_of_getElem? (l := schema.namedFields) (i := 5) rfl) values isFinal
  exact h_field.trans (by cases isFinal <;> rfl)

/-- The header to rewrite is hidden for the actions that leave the headers alone. -/
theorem isShown_rewriteHeader (h : values.get? "action" = some v) :
    (shownOf values isFinal).isShown "rewrite_header" = !v.isAmong passiveActions := by
  have h_field := Visibility.isShown_compute distinct_names
    (List.mem_of_getElem? (l := schema.namedFields) (i := 3) rfl) values isFinal
  exact h_field.trans (Field.isShown_of_condition
    (c := { on := "action", hideWhen := some passiveActions }) rfl rfl rfl h)

/-- The value to write is shown for the actions that rewrite. -/
theorem isShown_rewriteValue (h : values.get? "action" = some v) :
    (shownOf values isFinal).isShown "rewrite_value" = v.isAmong rewritingActions := by
  have h_field := Visibility.isShown_compute distinct_names
    (List.mem_of_getElem? (l := schema.namedFields) (i := 4) rfl) values isFinal
  have h_passes := h_field.trans (Field.isShown_of_condition
    (c := { on := "action", showWhen := some rewritingActions }) rfl rfl rfl h)
  exact h_passes.trans (Bool.and_true _)

end Headers

/-! ## What stays of a draft -/

/-- A draft that has come of another one by giving its fields values: it has the same fields, and is
of the same rule. -/
structure Draft.Continues (first draft : Draft) : Prop where
  isFinal : draft.isFinal = first.isFinal
  index : draft.index = first.index
  originalEnabled : draft.originalEnabled = first.originalEnabled
  keys : Record.keys draft.values = Record.keys first.values

namespace Dialog

variable {form : Form} {d : Dialog} {first draft draft' : Draft}

theorem continues_next (h : first.Continues draft) (h_next : Next draft draft') :
    first.Continues draft' := by
  rcases h_next with rfl | ⟨name, value, h_has, rfl⟩
  · exact h
  · exact ⟨h.isFinal, h.index, h.originalEnabled,
      (Record.keys_put_of_has h_has value).trans h.keys⟩

/-- Whatever is done with a dialog, as long as it is open its draft continues the first one. -/
theorem continues_step (h_names : form.schema.hasNames = true) (d : Dialog) (a : Act)
    (h : d.isOpen = true → ∃ draft, d.Fresh form first.isFinal draft ∧ first.Continues draft) :
    (d.step form a).1.isOpen = true →
      ∃ draft, (d.step form a).1.Fresh form first.isFinal draft ∧ first.Continues draft := by
  intro h_after
  cases h_open : d.isOpen with
  | false =>
    rw [isOpen_step_of_not h_open a] at h_after
    exact nomatch h_after
  | true =>
    obtain ⟨draft, h_fresh, h_continues⟩ := h h_open
    obtain ⟨draft', h_fresh', h_next⟩ := h_fresh.step h_names h_open a h_after
    exact ⟨draft', h_fresh', continues_next h_continues h_next⟩

/-- The draft of a dialog that has been opened, and is still open after acts on it, continues the
first one.  That has the fields of its kind of rule. -/
theorem continues_after {start opened : Dialog} {existing : Option Rule} {index : Int}
    (h_distinct : Record.Distinct (fieldNames form.schema (existing.any Rule.isFinal)))
    (h : start.open form existing index = .ok opened) (acts : List Act) :
    ∃ values, Record.keys values = fieldNames form.schema (existing.any Rule.isFinal) ∧
      ((Run.after (step form) opened acts).isOpen = true → ∃ draft,
        (Run.after (step form) opened acts).Fresh form (existing.any Rule.isFinal) draft ∧
          (firstDraft existing index values).Continues draft) := by
  have h_names := hasNames_of_open h
  obtain ⟨values, h_values, h_showing⟩ := open_eq_ok h
  obtain ⟨es, rfl, h_keys⟩ := startValues_eq_ok h_names h_values
  have h_first := draft_of_showing h_showing
  -- No two fields have the same name, so none of the values that were put in is lost.
  rw [← h_keys] at h_distinct
  rw [Record.ofList_of_distinct h_distinct] at h_first
  obtain ⟨draft, h_fresh⟩ := fresh_open h_names h
  obtain rfl := Option.some.inj (h_first.symm.trans h_fresh.holds)
  refine ⟨es, h_keys, ?_⟩
  have h_start : opened.isOpen = true → ∃ draft,
      opened.Fresh form (firstDraft existing index es).isFinal draft ∧
        (firstDraft existing index es).Continues draft :=
    fun _ => ⟨_, h_fresh, ⟨rfl, rfl, rfl, rfl⟩⟩
  exact Run.inv_after (fun d a h (_ : True) => continues_step h_names d a h) h_start
    (Run.allowed_of_forall fun _ _ _ => trivial)

/-! ## The candidate -/

/-- What the candidate has beside its attributes is under the names of fields that are shown. -/
theorem keys_extra_candidateOf (d : Dialog) (draft : Draft) :
    Record.keys (d.candidateOf draft).extra =
      ((Record.keys draft.values).filter fun name => d.visibility.isShown name).filter
        fun name => !Rule.attributeNames.contains name := by
  have h_shown := Record.keys_filter (fun name => d.visibility.isShown name) draft.values
  rw [extra_candidateOf, shownValues, ← h_shown]
  exact Record.keys_filter (fun name => !Rule.attributeNames.contains name) _

/-! ## The header rules -/

section Headers

variable {isFinal : Bool} {v : Value} (h_fresh : d.Fresh form isFinal draft)
  (h_schema : form.schema = Headers.schema)
include h_fresh h_schema

theorem visibility_of_fresh : d.visibility = Headers.shownOf draft.values isFinal := by
  rw [h_fresh.shows, h_schema, Headers.shownOf]

/-- The candidate has the text of the action of the draft, whatever that is. -/
theorem exists_action :
    ∃ v, draft.values.get? "action" = some v ∧
      (d.candidateOf draft).action = .text v.shownOrEmpty := by
  have h_has : draft.values.has "action" = true := by
    rw [h_fresh.fields, h_schema]
    cases isFinal <;> rfl
  obtain ⟨v, hv⟩ := Option.isSome_iff_exists.1 h_has
  refine ⟨v, hv, ?_⟩
  rw [action_candidateOf, visibility_of_fresh h_fresh h_schema, Headers.isShown_action, if_pos rfl,
    Draft.text, hv, Option.getD_some]

/-- Unless the action rewrites, the candidate has no value to write. -/
theorem rewriteValue_of_not_rewriting (hv : draft.values.get? "action" = some v)
    (h_action : v.isAmong Headers.rewritingActions = false) :
    (d.candidateOf draft).rewriteValue = .text "" := by
  rw [rewriteValue_candidateOf, visibility_of_fresh h_fresh h_schema,
    Headers.isShown_rewriteValue hv, h_action, if_neg Bool.false_ne_true]

/-- The candidate has a header to rewrite, and nothing else beside its attributes, unless the action
leaves the headers alone. -/
theorem keys_extra_of_action (hv : draft.values.get? "action" = some v)
    (h_keys : Record.keys draft.values = fieldNames Headers.schema isFinal) :
    Record.keys (d.candidateOf draft).extra =
      if v.isAmong Headers.passiveActions then [] else [Name.text "rewrite_header"] := by
  have h_other : ((fieldNames Headers.schema isFinal).filter
      fun name => !Rule.attributeNames.contains name) = [Name.text "rewrite_header"] := by
    cases isFinal <;> rfl
  rw [keys_extra_candidateOf, h_keys, List.filter_comm, h_other, List.filter_singleton,
    visibility_of_fresh h_fresh h_schema, Headers.isShown_rewriteHeader hv]
  cases v.isAmong Headers.passiveActions <;> rfl

end Headers

/-- The candidate of a draft of a sentinel has nothing to match. -/
theorem matchValue_of_final (h_fresh : d.Fresh form true draft)
    (h_schema : form.schema = Headers.schema) :
    (d.candidateOf draft).matchValue = .text "" := by
  rw [matchValue_candidateOf, visibility_of_fresh h_fresh h_schema, Headers.isShown_matchValue,
    Bool.not_true, if_neg Bool.false_ne_true]

/-- What is stored is of the kind of the rule that the dialog was opened on, if that is where the
dialog finds it, and a new rule is a normal one. -/
theorem kind_of_stores {existing : Option Rule} {i index : Int} {values : Entries} {b b' : Book}
    {r : Rule} {previous : Option Rule} (h_existing : ∀ old ∈ existing, b.get i = .ok old)
    (h_continues : (firstDraft existing i values).Continues draft)
    (h : Stores b draft r b' index previous) : r.kind = (existing.map Rule.kind).getD .normal := by
  have h_index := h_continues.index
  cases existing with
  | none =>
    have h_new : draft.index = -1 := h_index
    cases h with
    | new _ h_final => exact Rule.isFinal_eq_false_iff.1 h_final
    | inPlace h_old => omega
  | some old =>
    have h_place : draft.index = i := h_index
    have h_at := Book.get_eq_ok_iff.1 (h_existing old rfl)
    obtain ⟨h0, -⟩ := Arrangement.toNat_lt_of_at? h_at
    cases h with
    | new h_new => omega
    | inPlace _ h_there h_kind =>
      rw [h_place, h_at] at h_there
      obtain rfl := Option.some.inj h_there
      exact h_kind.symm

/-- If the candidate is of the kind of the rule that the dialog was opened on, it has its flag; a new
rule is enabled. -/
theorem enabled_of_kind {existing : Option Rule} {i : Int} {values : Entries}
    (h_continues : (firstDraft existing i values).Continues draft)
    (h_kind : (d.candidateOf draft).kind = (existing.map Rule.kind).getD .normal) :
    (d.candidateOf draft).enabled = .bool (existing.all fun old => old.enabled.flag) := by
  rw [enabled_candidateOf, h_continues.originalEnabled, Rule.isFinal, h_kind]
  cases existing with
  | none => rfl
  | some old =>
    have h_flag : old.isFinal = true → old.enabled.flag = true := by
      intro h_final
      rw [(Rule.ruleType_enabled_of_isFinal h_final).2]
      rfl
    have h_sum : (old.isFinal || old.enabled.flag) = old.enabled.flag :=
      (Bool.eq_or_self.2 h_flag).symm
    rw [Option.all_some, ← h_sum]
    rfl

/-- A rule has the name of a passive action exactly if the value that it was given for it is
one. -/
theorem passive_iff_of_shown {r : Rule} {v : Value} (h : r.action = .text v.shownOrEmpty) :
    r.action = .text "DIRECT" ∨ r.action = .text "DROP" ↔
      v.isAmong Headers.passiveActions = true := by
  have h_names : r.action.isAmong Headers.passiveActions = v.isAmong Headers.passiveActions := by
    rw [h]
    exact Value.isAmong_shownOrEmpty rfl (by decide) rfl (by decide) v
  rw [← h_names]
  exact Value.isAmong_texts_iff.symm

/-- **A field that is not shown leaves nothing in the rule that is stored.**  A dialog of the header
rules is opened on a new rule or on one of a book.  Whatever is done with it, and whatever values its
fields are given, if a commit then stores a rule, with the check and the change of the header rules
or without them, the rule has a value to write only if its action rewrites.  If its action leaves
the headers alone it has nothing beside its attributes, and otherwise it has the header to rewrite
there and nothing else.  It has the kind and the flag of the rule that the dialog was opened on, and
is normal and enabled if it is new; and if it is a sentinel it has nothing to match. -/
theorem stored_of_shown (form : Form) (start opened d' : Dialog) (existing : Option Rule)
    (i index : Int) (acts : List Act) (b b' : Book) (r : Rule) (previous : Option Rule)
    (h_schema : form.schema = Headers.schema) (h_trims : form.OnlyTrims)
    (h_existing : ∀ old ∈ existing, b.get i = .ok old)
    (h_open : start.open form existing i = .ok opened)
    (h_stored : (Run.after (step form) opened acts).commit form b =
      .ok (d', b', .stored r index previous)) :
    (r.rewriteValue ≠ .text "" → r.action = .text "REPLACE" ∨ r.action = .text "REPLACE-PART") ∧
      (r.action = .text "DIRECT" ∨ r.action = .text "DROP" → r.extra = []) ∧
      (¬ (r.action = .text "DIRECT" ∨ r.action = .text "DROP") →
        Record.keys r.extra = [Name.text "rewrite_header"]) ∧
      r.kind = (existing.map Rule.kind).getD .normal ∧
      r.enabled = .bool (existing.all fun old => old.enabled.flag) ∧
      (r.isFinal = true → r.matchValue = .text "") := by
  have h_distinct : Record.Distinct (fieldNames form.schema (existing.any Rule.isFinal)) := by
    rw [h_schema]
    cases existing.any Rule.isFinal <;> decide
  -- The draft that is committed is the one that the acts have made of the first one.
  obtain ⟨values, h_keys, h_after⟩ := continues_after h_distinct h_open acts
  obtain ⟨draft, h_draft, -, h_rule, h_store⟩ := rule_of_commit h_stored
  obtain ⟨h_isOpen, h_holds⟩ := openDraft_eq_ok_iff.1 h_draft
  obtain ⟨draft', h_fresh, h_continues⟩ := h_after h_isOpen
  obtain rfl := Option.some.inj (h_fresh.holds.symm.trans h_holds)
  -- What is shown depends on a value of any kind, and what is stored has its text.
  obtain ⟨v, hv, h_text⟩ := exists_action h_fresh h_schema
  have h_action : r.action = .text v.shownOrEmpty := by
    rw [h_rule, h_trims.action_finished, h_text]
  have h_kind := kind_of_stores h_existing h_continues (stores_of_store h_store)
  have h_extra : Record.keys r.extra =
      if v.isAmong Headers.passiveActions then [] else [Name.text "rewrite_header"] := by
    rw [h_rule, h_trims.extra_finished]
    rw [h_schema] at h_keys
    exact keys_extra_of_action h_fresh h_schema hv (h_continues.keys.trans h_keys)
  have h_passive := passive_iff_of_shown h_action
  refine ⟨fun h_value => ?_, fun h => ?_, fun h => ?_, h_kind, ?_, fun h_final => ?_⟩
  · cases h_rewrites : v.isAmong Headers.rewritingActions with
    | false =>
      have h_empty := rewriteValue_of_not_rewriting h_fresh h_schema hv h_rewrites
      rw [h_rule, h_trims.rewriteValue_finished h_empty] at h_value
      exact absurd rfl h_value
    | true =>
      rw [h_action]
      rcases Value.isAmong_texts_iff.1 h_rewrites with rfl | rfl
      · exact .inl rfl
      · exact .inr rfl
  · rw [h_passive.1 h, if_pos rfl] at h_extra
    exact List.map_eq_nil_iff.1 h_extra
  · rw [Bool.eq_false_iff.2 (mt h_passive.2 h), if_neg Bool.false_ne_true] at h_extra
    exact h_extra
  · rw [h_rule, h_trims.kind_finished] at h_kind
    rw [h_rule, h_trims.enabled_finished, enabled_of_kind h_continues h_kind]
  · have h_sentinel : existing.any Rule.isFinal = true := by
      rw [Rule.isFinal, h_kind] at h_final
      cases existing with
      | none => exact absurd h_final (by decide)
      | some old => exact h_final
    rw [h_sentinel] at h_fresh
    rw [h_rule, h_trims.matchValue_finished (matchValue_of_final h_fresh h_schema)]

/-- What comes of opening a dialog, doing some things with it and committing it. -/
def edited (form : Form) (existing : Option Rule) (i : Int) (acts : List Act) (b : Book) :
    Except Error Commit := do
  let opened ← ({} : Dialog).open form existing i
  let ended ← (Run.after (step form) opened acts).commit form b
  return ended.2.2

theorem exists_of_edited {existing : Option Rule} {i : Int} {acts : List Act} {b : Book} {r : Rule}
    {index : Int} {previous : Option Rule}
    (h : edited form existing i acts b = .ok (.stored r index previous)) :
    ∃ opened d' b', ({} : Dialog).open form existing i = .ok opened ∧
      (Run.after (step form) opened acts).commit form b =
        .ok (d', b', .stored r index previous) := by
  obtain ⟨opened, h_open, h⟩ := bind_eq_ok_iff.1 h
  obtain ⟨⟨d', b', result⟩, h_commit, h⟩ := bind_eq_ok_iff.1 h
  obtain rfl : result = .stored r index previous := Except.ok.inj h
  exact ⟨opened, d', b', h_open, h_commit⟩

/-- A rule that is off is to rewrite a header, is given a value to write, and is to drop everything
in the end. -/
theorem stored_of_shown_after_rewriting :
    let form : Form := ⟨Headers.schema, some Headers.validate, some Headers.transform⟩
    let old : Rule := Rule.ofEntries [("type", .text "IP-CIDR"), ("match_value", .text "10.0.0.0/8"),
      ("action", .text "DIRECT"), ("enabled", .bool false)]
    let acts : List Act := [.set "action" (.text "REPLACE"), .set "rewrite_value" (.text "plain"),
      .set "action" (.text "DROP")]
    let b : Book := Book.new [old]
    let r : Rule := Rule.ofEntries [("type", .text "IP-CIDR"), ("match_value", .text "10.0.0.0/8"),
      ("action", .text "DROP"), ("enabled", .bool false)]
    ∃ opened d' b', b.get 0 = .ok old ∧ ({} : Dialog).open form (some old) 0 = .ok opened ∧
      (Run.after (step form) opened acts).commit form b = .ok (d', b', .stored r 0 (some old)) ∧
      (r.rewriteValue ≠ .text "" → r.action = .text "REPLACE" ∨ r.action = .text "REPLACE-PART") ∧
      (r.action = .text "DIRECT" ∨ r.action = .text "DROP" → r.extra = []) ∧
      (¬ (r.action = .text "DIRECT" ∨ r.action = .text "DROP") →
        Record.keys r.extra = [Name.text "rewrite_header"]) ∧
      r.kind = old.kind ∧ r.enabled = .bool old.enabled.flag ∧
      (r.isFinal = true → r.matchValue = .text "") := by
  intro form old acts b r
  have h_edited : edited form (some old) 0 acts b = .ok (.stored r 0 (some old)) := by
    decide +kernel
  have h_there : b.get 0 = .ok old := by decide +kernel
  obtain ⟨opened, d', b', h_open, h_stored⟩ := exists_of_edited h_edited
  refine ⟨opened, d', b', h_there, h_open, h_stored, ?_⟩
  have h_existing : ∀ s ∈ some old, b.get 0 = .ok s := by
    intro s hs
    rw [← Option.some.inj hs]
    exact h_there
  exact stored_of_shown form {} opened d' (some old) 0 0 acts b b' r (some old) rfl (.inr rfl)
    h_existing h_open h_stored

end Dialog

end Rulebook
