/-
  Rulebook.Proofs.Editor.Given

  The rule that a command makes of the fields that it gives their values.

  The dialog of a header rule has the values that are given, and in its other fields the ones that
  it started with.  Only what is then shown goes to the rule that is stored, as a text and without
  the blanks around it (`Fills`).  So an added rule, and a rule that has taken the place of another
  one, is known attribute by attribute (`writes_begin`).
-/
import Rulebook.Proofs.Dialog.Untouched
import Rulebook.Proofs.Editor.Keeps

namespace Rulebook

open Arrangement (at?)

namespace Headers

/-! ## The fields of a dialog -/

/-- What the fields of a dialog start with. -/
def startOf : Option Rule → Entries
  | none => defaults false
  | some r => firstValues r

/-- The value of a field of a dialog that was opened and filled: the one that was given, if there is
one. -/
def fieldValue (existing : Option Rule) (given : Entries) (name : Name) : Value :=
  ((given.get? name).or ((startOf existing).get? name)).getD .null

/-- The text that a rule gets of the value of a field. -/
def fieldText (existing : Option Rule) (given : Entries) (name : Name) : String :=
  (fieldValue existing given name).shownOrEmpty

/-- What is stored of a dialog that was opened on a rule, or on a new one, and filled with some
values.  A sentinel stays one; nothing of it can be matched. -/
structure Fills (existing : Option Rule) (given : Entries) (r : Rule) : Prop where
  kind : r.isFinal = existing.any Rule.isFinal
  ruleType : r.isFinal = false → r.ruleType = .text (fieldText existing given "type")
  matchValue : r.matchValue =
    .text (if r.isFinal then "" else Text.trim (fieldText existing given "match_value"))
  action : r.action = .text (fieldText existing given "action")
  rewriteValue : r.rewriteValue =
    .text (if (fieldValue existing given "action").isAmong rewritingActions then
      Text.trim (fieldText existing given "rewrite_value") else "")
  description : r.description = .text (Text.trim (fieldText existing given "description"))
  enabled : r.enabled = .bool (existing.all fun old => old.enabled.flag)
  extra : r.extra =
    if (fieldValue existing given "action").isAmong passiveActions then []
    else [(Name.text "rewrite_header", fieldValue existing given "rewrite_header")]

theorem startValues_startOf (existing : Option Rule) :
    Dialog.startValues schema existing (existing.any Rule.isFinal) = .ok (startOf existing) := by
  cases existing with
  | none => rfl
  | some r => exact startValues_eq r

theorem keys_startOf (existing : Option Rule) :
    Record.keys (startOf existing) = Dialog.fieldNames schema (existing.any Rule.isFinal) := by
  cases existing with
  | none => rfl
  | some r =>
    have h_keys : Record.keys (firstValues r) = Record.keys (defaults r.isFinal) := List.map_map
    rw [startOf, h_keys, Option.any_some]
    cases r.isFinal <;> rfl

end Headers

namespace Dialog

open Headers

variable {form : Form} {existing : Option Rule} {given : Entries} {i : Int} {name : Name}

/-- The draft of a dialog that was opened and filled. -/
def filledDraft (existing : Option Rule) (i : Int) (given : Entries) : Draft :=
  firstDraft existing i ((startOf existing).putAll given)

theorem values_filledDraft (existing : Option Rule) (i : Int) (given : Entries) :
    (filledDraft existing i given).values = (startOf existing).putAll given := rfl

/-- What a dialog is that was opened and filled. -/
theorem filled_eq (h_schema : form.schema = schema) {opened filled : Dialog}
    (h_open : ({} : Dialog).open form existing i = .ok opened)
    (h_fill : opened.setAll form given = .ok filled) :
    (∀ e ∈ given, (startOf existing).has e.1 = true) ∧
      filled = ofDraft form (filledDraft existing i given) := by
  have h_names := hasNames_of_open h_open
  obtain ⟨values, h_values, rfl⟩ := open_eq_ofDraft h_open
  rw [h_schema, startValues_startOf] at h_values
  obtain rfl := Except.ok.inj h_values
  by_cases h_has : ∀ e ∈ given, (startOf existing).has e.1 = true
  · rw [setAll_ofDraft h_names h_has] at h_fill
    exact ⟨h_has, (Except.ok.inj h_fill).symm⟩
  · -- A field that the dialog does not have cannot be filled.
    let draft := firstDraft existing i (startOf existing)
    have h_unknown : ∃ e ∈ given, (startOf existing).has e.1 = false := by
      simpa using h_has
    obtain ⟨name, -, -, h_error⟩ :
        ∃ name ∈ Record.keys given, draft.values.has name = false ∧
          (ofDraft form draft).setAll form given = .error (.unknownField name) :=
      setAll_ofDraft_unknown h_names h_unknown
    exact nomatch h_error.symm.trans h_fill

/-! ## The candidate -/

section Candidate

variable (h_schema : form.schema = schema) (h_distinct : Record.Distinct (Record.keys given))

theorem visibility_filled (h_schema : form.schema = schema) :
    (ofDraft form (filledDraft existing i given)).visibility =
      shownOf (filledDraft existing i given).values (existing.any Rule.isFinal) := by
  rw [ofDraft, h_schema]
  rfl

include h_distinct

theorem text_filled (name : Name) :
    (filledDraft existing i given).text name = fieldText existing given name := by
  rw [Draft.text, values_filledDraft, Record.get?_putAll h_distinct]
  rfl

/-- The draft has the value of each field that it started with. -/
theorem get?_filled (h_has : (startOf existing).has name = true) :
    (filledDraft existing i given).values.get? name = some (fieldValue existing given name) := by
  obtain ⟨v, hv⟩ := Option.isSome_iff_exists.1 h_has
  rw [values_filledDraft, Record.get?_putAll h_distinct, fieldValue, hv]
  cases given.get? name <;> rfl

/-- Both kinds of rules have these two. -/
theorem get?_filled_of_mem (h : name ∈ [Name.text "action", Name.text "rewrite_header"]) :
    (filledDraft existing i given).values.get? name = some (fieldValue existing given name) := by
  refine get?_filled h_distinct ?_
  rw [Record.has_eq_any_keys, keys_startOf]
  simp only [List.mem_cons, List.not_mem_nil, or_false] at h
  rcases h with rfl | rfl
  · cases existing.any Rule.isFinal <;> rfl
  · cases existing.any Rule.isFinal <;> rfl

include h_schema

/-- The candidate has a header to rewrite unless the action leaves the headers alone, and nothing
else beside its attributes. -/
theorem extra_filled (h_has : ∀ e ∈ given, (startOf existing).has e.1 = true) :
    ((ofDraft form (filledDraft existing i given)).candidateOf
        (filledDraft existing i given)).extra =
      if (fieldValue existing given "action").isAmong passiveActions then []
      else [(Name.text "rewrite_header", fieldValue existing given "rewrite_header")] := by
  let own (name : Name) : Bool := !Rule.attributeNames.contains name
  have h_congr {k key : Name} (h : (k == key) = true) : own k = own key :=
    congrArg not (Rule.contains_attributeNames_congr h)
  have h_keys : Record.keys ((filledDraft existing i given).values.filter fun e => own e.1) =
      [Name.text "rewrite_header"] := by
    rw [Record.keys_filter, values_filledDraft, Record.keys_putAll_of_has h_has, keys_startOf]
    cases existing.any Rule.isFinal <;> rfl
  -- One value of the draft is under the name of no attribute.
  obtain ⟨⟨name, v⟩, h_own, h_name⟩ := List.map_eq_singleton_iff.1 h_keys
  obtain rfl : name = Name.text "rewrite_header" := h_name
  have h_value := Record.get?_filter h_congr (filledDraft existing i given).values "rewrite_header"
  rw [h_own, if_pos (by decide), get?_filled_of_mem h_distinct (by simp)] at h_value
  obtain rfl : v = fieldValue existing given "rewrite_header" := Option.some.inj h_value
  rw [extra_candidateOf, shownValues, List.filter_comm, h_own, List.filter_singleton,
    visibility_filled h_schema, isShown_rewriteHeader (get?_filled_of_mem h_distinct (by simp))]
  cases (fieldValue existing given "action").isAmong passiveActions <;> rfl

/-- **What is stored of a dialog that was opened and filled**, if it is of the kind that it should
be. -/
theorem fills_filled (h_has : ∀ e ∈ given, (startOf existing).has e.1 = true)
    (h_kind : ((ofDraft form (filledDraft existing i given)).candidateOf
      (filledDraft existing i given)).kind = (existing.map Rule.kind).getD .normal) :
    Fills existing given (trimRule ((ofDraft form (filledDraft existing i given)).candidateOf
      (filledDraft existing i given))) := by
  have h_keys := Record.keys_putAll_of_has h_has
  have h_continues : (firstDraft existing i (startOf existing)).Continues
      (filledDraft existing i given) := ⟨rfl, rfl, rfl, h_keys⟩
  have h_final : ((ofDraft form (filledDraft existing i given)).candidateOf
      (filledDraft existing i given)).isFinal = existing.any Rule.isFinal := by
    rw [Rule.isFinal, h_kind]
    cases existing <;> rfl
  have h_action : (filledDraft existing i given).values.get? "action" =
      some (fieldValue existing given "action") := get?_filled_of_mem h_distinct (by simp)
  have h_shown : (ofDraft form (filledDraft existing i given)).visibility =
      shownOf (filledDraft existing i given).values (existing.any Rule.isFinal) :=
    visibility_filled h_schema
  constructor
  case kind => exact h_final
  case ruleType =>
    intro h_normal
    have h_draft : existing.any Rule.isFinal = false := h_final.symm.trans h_normal
    change (candidateOf _ _).ruleType = _
    rw [ruleType_candidateOf _ h_draft, h_shown, h_draft, isShown_type, text_filled h_distinct,
      if_pos rfl]
  case matchValue =>
    change trimmed (candidateOf _ _).matchValue = _
    rw [matchValue_candidateOf, h_shown, isShown_matchValue, text_filled h_distinct, isFinal_trimRule,
      h_final]
    cases existing.any Rule.isFinal <;> rfl
  case action =>
    change (candidateOf _ _).action = _
    rw [action_candidateOf, h_shown, isShown_action, text_filled h_distinct, if_pos rfl]
  case rewriteValue =>
    change trimmed (candidateOf _ _).rewriteValue = _
    rw [rewriteValue_candidateOf, h_shown, isShown_rewriteValue h_action, text_filled h_distinct]
    split <;> rfl
  case description =>
    change trimmed (candidateOf _ _).description = _
    rw [description_candidateOf, h_shown, isShown_description, text_filled h_distinct, if_pos rfl]
    rfl
  case enabled => exact enabled_of_kind h_continues h_kind
  case extra => exact extra_filled h_schema h_distinct h_has

end Candidate

end Dialog

namespace Editor

open Headers

/-- A command that gives fields their values has stored the rule that comes of them: a new one, or
one in the place of the rule that it names. -/
def Command.Writes (b b' : Book) : Command → Prop
  | .add (.mapping given) => ∃ r k, b.insert r = .ok (b', k) ∧ Fills none given r
  | .update i (.mapping given) =>
    ∃ r old, b.replace i r = .ok (b', old) ∧ Fills (some old) given r
  | _ => True

variable {e e' : Editor} {events : List Event} {t : Ticket} {i : Int} {b' : Book} {undo : Undo}
  {existing : Option Rule} {given : Entries} (h_schema : e.form.schema = schema)
  (h_change : e.form.transformer = some transform)
include h_schema h_change

/-- What a dialog has stored that was opened and filled. -/
theorem fills_of_commits (h_distinct : Record.Distinct (Record.keys given))
    (h : CommitsFilled e existing i (.mapping given) b' undo) :
    ∃ filled r, Commits e.form filled (Dialog.filledDraft existing i given) r e.book b' undo ∧
      (r.kind = (existing.map Rule.kind).getD .normal → Fills existing given r) := by
  obtain ⟨entries, opened, filled, draft, r, h_entries, h_open, h_fill, h_commits⟩ := h
  obtain rfl : given = entries := Except.ok.inj h_entries
  obtain ⟨h_has, rfl⟩ := Dialog.filled_eq h_schema h_open h_fill
  obtain rfl : Dialog.filledDraft existing i given = draft := Except.ok.inj h_commits.opened
  refine ⟨_, r, h_commits, fun h_kind => ?_⟩
  have h_rule := h_commits.rule
  rw [Form.finished, h_change] at h_rule
  rw [h_rule] at h_kind ⊢
  exact Dialog.fills_filled h_schema h_distinct h_has h_kind

/-- **A command that gives each field one value at most** and is being saved has stored the rule that
comes of them. -/
theorem writes_begin {c : Command}
    (h_distinct : ∀ given ∈ c.entries?, Record.Distinct (Record.keys given))
    (h : e.begin c = (e', events, .saving t)) : c.Writes e.book e'.book := by
  cases c with
  | add values =>
    cases values with
    | mapping entries =>
      obtain ⟨filled, r, h_commits, h_fills⟩ :=
        fills_of_commits h_schema h_change (h_distinct entries rfl) (commits_add h)
      obtain ⟨k, h_insert, -⟩ := h_commits.insert rfl
      have h_normal := (Book.insert_eq_ok_iff.1 h_insert).1
      exact ⟨r, k, h_insert, h_fills (Rule.isFinal_eq_false_iff.1 h_normal)⟩
    | _ => trivial
  | update i values =>
    cases values with
    | mapping entries =>
      obtain ⟨old, h_at, h_filled⟩ := commits_update h
      obtain ⟨h0, -⟩ := Arrangement.toNat_lt_of_at? h_at
      obtain ⟨filled, r, h_commits, h_fills⟩ :=
        fills_of_commits h_schema h_change (h_distinct entries rfl) h_filled
      have h_old : (Dialog.filledDraft (some old) i entries).isNew = false :=
        decide_eq_false (Int.not_lt.2 h0)
      obtain ⟨previous, h_replace, -⟩ := h_commits.replace h_old
      obtain ⟨h_there, h_kind, -⟩ := Book.replace_eq_ok_iff.1 h_replace
      obtain rfl : old = previous := Option.some.inj (h_at.symm.trans h_there)
      exact ⟨r, old, h_replace, h_fills h_kind.symm⟩
    | _ => trivial
  | _ => trivial

end Editor

end Rulebook
