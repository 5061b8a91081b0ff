/-
  Rulebook.Proofs.Dialog.Checked

  What the check of the header rules says of a rule that a dialog has stored.

  The check sees the candidate of the draft, and what is stored is the candidate without the blanks
  around its texts.  A text that is nothing but blanks passes the check and is empty afterwards, and
  that is the only thing that can happen to a rule that was checked: the check finds nothing wrong
  with the rule that is stored exactly if none of the texts that it needs was blank in the draft
  (`validate_stored_iff`).
-/
import Mathlib.Data.List.TakeWhile
import Rulebook.Proofs.Dialog.Draft
import Rulebook.Schema.Headers

namespace Rulebook

/-! ## Blank texts -/

namespace Text

/-- Whether there is nothing but blanks in a text. -/
def Blank (s : String) : Prop :=
  ∀ c ∈ s.toList, isBlank c = true

instance (s : String) : Decidable (Blank s) :=
  inferInstanceAs (Decidable (∀ c ∈ s.toList, isBlank c = true))

/-- Nothing is left of characters exactly if all of them leave. -/
theorem trimBy_eq_nil_iff {leaves : Char → Bool} {cs : List Char} :
    trimBy leaves cs = [] ↔ ∀ c ∈ cs, leaves c = true := by
  have h_front : trimBy leaves cs = [] ↔ ∀ c ∈ cs.dropWhile leaves, leaves c = true := by
    rw [trimBy, List.reverse_eq_nil_iff, List.dropWhile_eq_nil_iff]
    simp only [List.mem_reverse]
  rw [h_front]
  constructor
  · intro h
    -- The first character that stays in front would have to leave behind.
    apply List.dropWhile_eq_nil_iff.1
    by_contra h_some
    have h_head := List.head_dropWhile_not leaves h_some
    rw [h _ (List.head_mem h_some)] at h_head
    exact nomatch h_head
  · intro h c hc
    exact h c ((List.dropWhile_suffix leaves).subset hc)

theorem trim_eq_empty_iff {s : String} : trim s = "" ↔ Blank s := by
  rw [trim, String.ofList_eq_empty_iff]
  exact trimBy_eq_nil_iff

end Text

/-! ## The check and the change -/

namespace Headers

variable {r : Rule}

/-- **When the check finds nothing wrong**: a normal rule has a value to match, and an action that
rewrites has a value to write. -/
theorem validate_eq_none_iff {isFinal : Bool} :
    validate r isFinal = none ↔ (isFinal = false → r.matchValue.truth = true) ∧
      (r.action.isAmong rewritingActions = true → r.rewriteValue.truth = true) := by
  unfold validate
  cases isFinal with
  | true => cases r.action.isAmong rewritingActions <;> cases r.rewriteValue.truth <;> simp
  | false =>
    cases r.matchValue.truth <;> cases r.action.isAmong rewritingActions <;>
      cases r.rewriteValue.truth <;> simp

/-- What the check can find wrong. -/
theorem validate_cases {isFinal : Bool} {message : String} (h : validate r isFinal = some message) :
    isFinal = false ∧ message = "Match value is required" ∨
      r.action.isAmong rewritingActions = true ∧
        message = "Rewrite value is required for this action" := by
  unfold validate at h
  split at h
  · rename_i h_match
    rw [Bool.and_eq_true, Bool.not_eq_true'] at h_match
    exact .inl ⟨h_match.1, (Option.some.inj h).symm⟩
  · split at h
    · rename_i h_rewrite
      rw [Bool.and_eq_true] at h_rewrite
      exact .inr ⟨h_rewrite.1, (Option.some.inj h).symm⟩
    · exact nomatch h

/-- What the check finds wrong is said: it never says so with an empty text. -/
theorem complaint_eq {form : Form} (h_check : form.validator = some validate) (r : Rule)
    (isFinal : Bool) : form.complaint r isFinal = validate r isFinal := by
  simp only [Form.complaint, h_check]
  unfold validate
  split
  · rfl
  · split
    · rfl
    · rfl

theorem complaint_eq_none_iff {form : Form} (h_check : form.validator = some validate)
    {isFinal : Bool} : form.complaint r isFinal = none ↔ validate r isFinal = none := by
  rw [complaint_eq h_check]

theorem truth_text_iff {s : String} : (Value.text s).truth = true ↔ s ≠ "" := by
  rw [Value.truth, Bool.not_eq_true', ← Bool.not_eq_true, String.isEmpty_iff]

/-- Without its blanks a text counts as given if there was something else in it. -/
theorem truth_trimmed_iff {s : String} : (trimmed (.text s)).truth = true ↔ ¬ Text.Blank s := by
  rw [trimmed, truth_text_iff, Ne, Text.trim_eq_empty_iff]

@[simp] theorem isFinal_trimRule (r : Rule) : (trimRule r).isFinal = r.isFinal := rfl

end Headers

namespace Form

variable {form : Form} {r : Rule} {isFinal : Bool}

/-- Whether the change before a rule is stored, if there is one, takes away blanks and does nothing
else. -/
def OnlyTrims (form : Form) : Prop :=
  form.transformer = none ∨ form.transformer = some Headers.transform

namespace OnlyTrims

theorem finished_eq (h : form.OnlyTrims) (r : Rule) (isFinal : Bool) :
    form.finished r isFinal = r ∨ form.finished r isFinal = Headers.trimRule r := by
  unfold finished
  rcases h with h | h
  · left
    rw [h]
  · right
    rw [h]
    rfl

theorem extra_finished (h : form.OnlyTrims) : (form.finished r isFinal).extra = r.extra := by
  rcases h.finished_eq r isFinal with h | h
  · rw [h]
  · rw [h]
    rfl

theorem enabled_finished (h : form.OnlyTrims) : (form.finished r isFinal).enabled = r.enabled := by
  rcases h.finished_eq r isFinal with h | h
  · rw [h]
  · rw [h]
    rfl

theorem kind_finished (h : form.OnlyTrims) : (form.finished r isFinal).kind = r.kind := by
  rcases h.finished_eq r isFinal with h | h
  · rw [h]
  · rw [h]
    rfl

theorem action_finished (h : form.OnlyTrims) : (form.finished r isFinal).action = r.action := by
  rcases h.finished_eq r isFinal with h | h
  · rw [h]
  · rw [h]
    rfl

/-- An empty text has no blanks to be taken away. -/
theorem rewriteValue_finished (h : form.OnlyTrims) (h_empty : r.rewriteValue = .text "") :
    (form.finished r isFinal).rewriteValue = .text "" := by
  rcases h.finished_eq r isFinal with h | h
  · rw [h, h_empty]
  · rw [h, Headers.trimRule, h_empty]
    rfl

theorem matchValue_finished (h : form.OnlyTrims) (h_empty : r.matchValue = .text "") :
    (form.finished r isFinal).matchValue = .text "" := by
  rcases h.finished_eq r isFinal with h | h
  · rw [h, h_empty]
  · rw [h, Headers.trimRule, h_empty]
    rfl

end OnlyTrims

end Form

/-! ## The candidate of a draft -/

/-- The text that a draft has under a name: none if its value does not count as given. -/
def Draft.text (draft : Draft) (name : Name) : String :=
  ((draft.values.get? name).getD .null).shownOrEmpty

namespace Dialog

variable {form : Form} {d d' : Dialog} {draft : Draft}

theorem get?_shownValues (d : Dialog) (draft : Draft) (name : Name) :
    (d.shownValues draft).get? name =
      if d.visibility.isShown name then draft.values.get? name else none := by
  apply Record.get?_filter
  intro k key h
  rw [Visibility.isShown, Visibility.isShown, Record.get?_congr h]

/-- The entries that a candidate is read from. -/
def candidateEntries (d : Dialog) (draft : Draft) : Entries :=
  let values := d.shownValues draft
  let values := if draft.isFinal then values.put "type" Rule.finalType else values
  values.put "enabled" draft.originalEnabled

theorem candidateOf_eq (d : Dialog) (draft : Draft) :
    d.candidateOf draft = Rule.ofEntries (d.candidateEntries draft) := rfl

/-- What a candidate has as a text is the text of the draft if that is shown, and nothing if not;
its type and its flag have rules of their own. -/
theorem textOf_candidateEntries {name : Name} (h_type : ("type" == name) = false)
    (h_enabled : ("enabled" == name) = false) (d : Dialog) (draft : Draft) :
    Rule.textOf name (d.candidateEntries draft) =
      .text (if d.visibility.isShown name then draft.text name else "") := by
  have h_get : (d.candidateEntries draft).get? name = (d.shownValues draft).get? name := by
    unfold candidateEntries
    dsimp only
    rw [Record.get?_put_of_ne h_enabled]
    split
    · exact Record.get?_put_of_ne h_type _ _
    · rfl
  rw [Rule.textOf, h_get, get?_shownValues]
  split
  · rfl
  · rfl

theorem matchValue_candidateOf (d : Dialog) (draft : Draft) :
    (d.candidateOf draft).matchValue =
      .text (if d.visibility.isShown "match_value" then draft.text "match_value" else "") := by
  rw [candidateOf_eq, Rule.matchValue_ofEntries]
  exact textOf_candidateEntries (by decide) (by decide) d draft

theorem rewriteValue_candidateOf (d : Dialog) (draft : Draft) :
    (d.candidateOf draft).rewriteValue =
      .text (if d.visibility.isShown "rewrite_value" then draft.text "rewrite_value" else "") := by
  rw [candidateOf_eq, Rule.rewriteValue_ofEntries]
  exact textOf_candidateEntries (by decide) (by decide) d draft

theorem action_candidateOf (d : Dialog) (draft : Draft) :
    (d.candidateOf draft).action =
      .text (if d.visibility.isShown "action" then draft.text "action" else "") := by
  rw [candidateOf_eq, Rule.action_ofEntries]
  exact textOf_candidateEntries (by decide) (by decide) d draft

theorem description_candidateOf (d : Dialog) (draft : Draft) :
    (d.candidateOf draft).description =
      .text (if d.visibility.isShown "description" then draft.text "description" else "") := by
  rw [candidateOf_eq, Rule.description_ofEntries]
  exact textOf_candidateEntries (by decide) (by decide) d draft

/-- The candidate of a draft of a normal rule has the type that is shown. -/
theorem ruleType_candidateOf (d : Dialog) (h : draft.isFinal = false) :
    (d.candidateOf draft).ruleType =
      .text (if d.visibility.isShown "type" then draft.text "type" else "") := by
  have h_get : (d.candidateEntries draft).get? "type" = (d.shownValues draft).get? "type" := by
    unfold candidateEntries
    simp only [h, Bool.false_eq_true, if_false]
    exact Record.get?_put_of_ne (by decide) _ _
  rw [candidateOf_eq, Rule.ruleType_ofEntries, Rule.textOf, h_get, get?_shownValues]
  split
  · rfl
  · rfl

/-- The candidate has the flag that the draft has kept, unless it is a sentinel: that is enabled. -/
theorem enabled_candidateOf (d : Dialog) (draft : Draft) :
    (d.candidateOf draft).enabled =
      .bool ((d.candidateOf draft).isFinal || draft.originalEnabled.flag) := by
  rw [candidateOf_eq, Rule.enabled_ofEntries, candidateEntries, Record.get?_put_self,
    Option.getD_some]

/-- The candidate of a draft of a sentinel is a sentinel. -/
theorem isFinal_candidateOf (d : Dialog) (h : draft.isFinal = true) :
    (d.candidateOf draft).isFinal = true := by
  have h_get : (d.candidateEntries draft).get? "type" = some Rule.finalType := by
    unfold candidateEntries
    simp only [h, if_true]
    rw [Record.get?_put_of_ne (by decide), Record.get?_put_self]
  have h_type : Rule.textOf "type" (d.candidateEntries draft) = Rule.finalType := by
    rw [Rule.textOf, h_get]
    rfl
  rw [candidateOf_eq, Rule.isFinal_ofEntries, h_type, beq_self_eq_true]

/-! ## What is stored -/

/-- A value that a candidate has counts as given without its blanks too, if the text of the draft is
not blank. -/
theorem truth_trimmed_of_given {name : Name} {v : Value}
    (hv : v = .text (if d.visibility.isShown name then draft.text name else ""))
    (h_given : v.truth = true) :
    (Headers.trimmed v).truth = true ↔ ¬ Text.Blank (draft.text name) := by
  rw [hv] at h_given ⊢
  -- An empty text is not given, so it is the one of the draft that is shown.
  have h_some := Headers.truth_text_iff.1 h_given
  split at h_some
  · rename_i h_shown
    rw [if_pos h_shown, Headers.truth_trimmed_iff]
  · exact absurd rfl h_some

/-- **What the check says of a rule that was stored.**  A dialog of any schema has the check and the
change of the header rules.  Whatever rule it was opened on and whatever values its fields were
given, when a commit stores a rule then the check has found nothing wrong with the candidate of the
draft.  It finds nothing wrong with the rule that was stored exactly if, in the draft, the value to
match of a normal rule is not blank, and neither is the value to write of a rule that rewrites. -/
theorem validate_stored_iff (form : Form) (d d' : Dialog) (b b' : Book) (r : Rule) (index : Int)
    (previous : Option Rule) (h_check : form.validator = some Headers.validate)
    (h_change : form.transformer = some Headers.transform)
    (h_stored : d.commit form b = .ok (d', b', .stored r index previous)) :
    ∃ draft, d.openDraft = .ok draft ∧
      Headers.validate (d.candidateOf draft) draft.isFinal = none ∧
      (Headers.validate r r.isFinal = none ↔
        (r.isFinal = false → ¬ Text.Blank (draft.text "match_value")) ∧
          (r.action.isAmong Headers.rewritingActions = true →
            ¬ Text.Blank (draft.text "rewrite_value"))) := by
  obtain ⟨draft, h_draft, h_complaint, h_rule, -⟩ := rule_of_commit h_stored
  have h_valid := (Headers.complaint_eq_none_iff h_check).1 h_complaint
  obtain ⟨h_match, h_rewrite⟩ := Headers.validate_eq_none_iff.1 h_valid
  rw [Form.finished, h_change] at h_rule
  have h_trim : r = Headers.trimRule (d.candidateOf draft) := h_rule
  refine ⟨draft, h_draft, h_valid, ?_⟩
  rw [Headers.validate_eq_none_iff]
  apply and_congr
  · apply forall_congr'
    intro h_normal
    -- A rule that was stored as a normal one was checked as one.
    have h_kind : draft.isFinal = false := by
      rw [← Bool.not_eq_true]
      intro h_final
      rw [h_trim, Headers.isFinal_trimRule, isFinal_candidateOf d h_final] at h_normal
      exact nomatch h_normal
    have h_value : r.matchValue = Headers.trimmed (d.candidateOf draft).matchValue := by
      rw [h_trim]
      rfl
    rw [h_value]
    exact truth_trimmed_of_given (matchValue_candidateOf d draft) (h_match h_kind)
  · apply forall_congr'
    intro h_action
    -- The change leaves the action alone.
    rw [h_trim] at h_action
    have h_value : r.rewriteValue = Headers.trimmed (d.candidateOf draft).rewriteValue := by
      rw [h_trim]
      rfl
    rw [h_value]
    exact truth_trimmed_of_given (rewriteValue_candidateOf d draft) (h_rewrite h_action)

/-- What comes of opening a dialog on a new rule, giving its fields values and committing it. -/
def added (form : Form) (values : Entries) (b : Book) : Except Error Commit := do
  let opened ← ({} : Dialog).open form none (-1)
  let filled ← opened.setAll form values
  let ended ← filled.commit form b
  return ended.2.2

theorem exists_of_added {values : Entries} {b : Book} {r : Rule} {index : Int}
    {previous : Option Rule} (h : added form values b = .ok (.stored r index previous)) :
    ∃ opened d d' b', ({} : Dialog).open form none (-1) = .ok opened ∧
      opened.setAll form values = .ok d ∧
      d.commit form b = .ok (d', b', .stored r index previous) := by
  obtain ⟨opened, h_open, h⟩ := bind_eq_ok_iff.1 h
  obtain ⟨d, h_set, h⟩ := bind_eq_ok_iff.1 h
  obtain ⟨⟨d', b', result⟩, h_commit, h⟩ := bind_eq_ok_iff.1 h
  obtain rfl : result = .stored r index previous := Except.ok.inj h
  exact ⟨opened, d, d', b', h_open, h_set, h_commit⟩

/-- A new rule that rewrites, with blanks around what it matches and what it writes. -/
theorem validate_stored_of_padded :
    let form : Form := ⟨Headers.schema, some Headers.validate, some Headers.transform⟩
    let values : Entries := [("match_value", .text " agent "), ("action", .text "REPLACE"),
      ("rewrite_value", .text "plain\n")]
    let r : Rule := Rule.ofEntries [("type", .text "HEADER-KEYWORD"),
      ("match_value", .text "agent"), ("action", .text "REPLACE"),
      ("rewrite_value", .text "plain"), ("rewrite_header", "User-Agent")]
    ∃ opened d d' b', ({} : Dialog).open form none (-1) = .ok opened ∧
      opened.setAll form values = .ok d ∧
      d.commit form (Book.new []) = .ok (d', b', .stored r 0 none) ∧
      ∃ draft, d.openDraft = .ok draft ∧
        Headers.validate (d.candidateOf draft) draft.isFinal = none ∧
        (Headers.validate r r.isFinal = none ↔
          (r.isFinal = false → ¬ Text.Blank (draft.text "match_value")) ∧
            (r.action.isAmong Headers.rewritingActions = true →
              ¬ Text.Blank (draft.text "rewrite_value"))) := by
  intro form values r
  have h_added : added form values (Book.new []) = .ok (.stored r 0 none) := by decide +kernel
  obtain ⟨opened, d, d', b', h_open, h_set, h_commit⟩ := exists_of_added h_added
  exact ⟨opened, d, d', b', h_open, h_set, h_commit,
    validate_stored_iff form d d' _ b' r 0 none rfl rfl h_commit⟩

/-- A new rule is given a blank as the value to match.  It is stored with nothing to match, and that
is what the check would say of it. -/
theorem stored_of_blank :
    let form : Form := ⟨Headers.schema, some Headers.validate, some Headers.transform⟩
    let values : Entries := [("match_value", .text " "), ("action", .text "DIRECT")]
    let r : Rule := Rule.ofEntries [("type", .text "HEADER-KEYWORD"), ("action", .text "DIRECT")]
    (∃ opened d d' b', ({} : Dialog).open form none (-1) = .ok opened ∧
      opened.setAll form values = .ok d ∧
      d.commit form (Book.new []) = .ok (d', b', .stored r 0 none)) ∧
      r.isFinal = false ∧ Headers.validate r r.isFinal = some "Match value is required" := by
  intro form values r
  have h_added : added form values (Book.new []) = .ok (.stored r 0 none) := by decide +kernel
  exact ⟨exists_of_added h_added, by decide, by decide⟩

end Dialog

end Rulebook
