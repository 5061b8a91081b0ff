/-
  Rulebook.Proofs.Dialog.Repair

  Whatever the check of the header rules finds wrong can be put right in the dialog.

  The check asks for a value to write if the text of the action is the name of one that rewrites.
  The dialog shows the field for it if the action is such a name, and the action may have been
  given any value.  The two agree all the same (`isShown_rewriteValue_iff`), so nothing is asked for
  that is not shown.  What is shown depends on the action alone, so it stays as it is when what is
  asked for is given (`Visibility.compute_putAll`), and then the check has nothing left to ask for.

  Main statement: `Dialog.repairable`.
-/
import Rulebook.Proofs.Dialog.Filled
import Rulebook.Proofs.Dialog.Hidden

namespace Rulebook.Dialog

variable {form : Form} {d : Dialog} {draft : Draft} {isFinal : Bool}

/-! ## What is asked for is shown -/

/-- **The field for the value to write is shown exactly if the check asks for one.** -/
theorem isShown_rewriteValue_iff (h_fresh : d.Fresh form isFinal draft)
    (h_schema : form.schema = Headers.schema) :
    d.visibility.isShown "rewrite_value" = true ↔
      (d.candidateOf draft).action.isAmong Headers.rewritingActions = true := by
  obtain ⟨v, hv, h_action⟩ := exists_action h_fresh h_schema
  have h_same : (d.candidateOf draft).action.isAmong Headers.rewritingActions =
      v.isAmong Headers.rewritingActions := by
    rw [h_action]
    exact Value.isAmong_shownOrEmpty rfl (by decide) rfl (by decide) v
  rw [h_same, visibility_of_fresh h_fresh h_schema, Headers.isShown_rewriteValue hv]

theorem isShown_matchValue_iff (h_fresh : d.Fresh form isFinal draft)
    (h_schema : form.schema = Headers.schema) :
    d.visibility.isShown "match_value" = true ↔ draft.isFinal = false := by
  rw [visibility_of_fresh h_fresh h_schema, Headers.isShown_matchValue, h_fresh.kind,
    Bool.not_eq_true']

/-! ## Giving what is asked for -/

/-- The fields that the check may ask for, as far as the dialog has and shows them, with what they
are to be given. -/
def repairs (d : Dialog) (toMatch toWrite : String) : List (Name × Value) :=
  (if d.isFinalEdit then [] else [(.text "match_value", .text toMatch)]) ++
    if d.visibility.isShown "rewrite_value" then [(.text "rewrite_value", .text toWrite)] else []

variable {toMatch toWrite : String}

theorem mem_repairs {e : Name × Value} :
    e ∈ repairs d toMatch toWrite ↔
      d.isFinalEdit = false ∧ e = (.text "match_value", .text toMatch) ∨
        d.visibility.isShown "rewrite_value" = true ∧
          e = (.text "rewrite_value", .text toWrite) := by
  rw [repairs]
  cases d.isFinalEdit <;> cases d.visibility.isShown "rewrite_value" <;> simp

theorem distinct_repairs (d : Dialog) (toMatch toWrite : String) :
    Record.Distinct (Record.keys (repairs d toMatch toWrite)) := by
  have h_keys : Record.keys (repairs d toMatch toWrite) =
      (if d.isFinalEdit then [] else [.text "match_value"]) ++
        if d.visibility.isShown "rewrite_value" then [.text "rewrite_value"] else [] := by
    rw [repairs]
    cases d.isFinalEdit <;> cases d.visibility.isShown "rewrite_value" <;> rfl
  rw [h_keys]
  cases d.isFinalEdit <;> cases d.visibility.isShown "rewrite_value" <;> decide

/-- The draft with what the check may ask for. -/
def repaired (d : Dialog) (draft : Draft) (toMatch toWrite : String) : Draft :=
  withValues draft (draft.values.putAll (repairs d toMatch toWrite))

/-- A field that is given a value has its text. -/
theorem text_repaired {name : Name} {s : String} (draft : Draft)
    (h : (name, .text s) ∈ repairs d toMatch toWrite) :
    (repaired d draft toMatch toWrite).text name = s := by
  have h_get := Record.get?_putAll_of_mem (distinct_repairs d toMatch toWrite) h draft.values
  rw [Draft.text, repaired, h_get, Option.getD_some, Value.shownOrEmpty_text]

section

variable (h_fresh : d.Fresh form isFinal draft) (h_schema : form.schema = Headers.schema)
include h_fresh

theorem isFinalEdit_of_fresh : d.isFinalEdit = draft.isFinal := by
  rw [isFinalEdit, h_fresh.holds]
  rfl

include h_schema

/-- The draft has the fields that are to be given values. -/
theorem has_of_mem_repairs {e : Name × Value} (he : e ∈ repairs d toMatch toWrite) :
    draft.values.has e.1 = true := by
  rw [h_fresh.fields, h_schema]
  rcases mem_repairs.1 he with ⟨h_normal, rfl⟩ | ⟨-, rfl⟩
  · rw [isFinalEdit_of_fresh h_fresh, h_fresh.kind] at h_normal
    rw [h_normal]
    rfl
  · cases isFinal <;> rfl

/-- What is shown does not depend on them. -/
theorem visibility_repaired (toMatch toWrite : String) :
    (ofDraft form (repaired d draft toMatch toWrite)).visibility = d.visibility := by
  have h_none : ∀ name ∈ [Name.text "match_value", .text "rewrite_value"],
      (Visibility.Index.ofFields Headers.schema.namedFields).hasDependents name = false := by
    decide
  rw [h_fresh.shows, ← h_fresh.kind]
  refine Visibility.compute_putAll draft.isFinal fun e he => ?_
  rw [h_schema]
  rcases mem_repairs.1 he with ⟨-, rfl⟩ | ⟨-, rfl⟩
  · exact h_none _ List.mem_cons_self
  · exact h_none _ (List.mem_cons_of_mem _ List.mem_cons_self)

/-- The dialog can be given what is asked for, and is another dialog of the rule then. -/
theorem setAll_repairs (h_open : d.isOpen = true) (toMatch toWrite : String) :
    d.setAll form (repairs d toMatch toWrite) =
        .ok (ofDraft form (repaired d draft toMatch toWrite)) ∧
      (ofDraft form (repaired d draft toMatch toWrite)).Fresh form isFinal
        (repaired d draft toMatch toWrite) := by
  have h_names : form.schema.hasNames = true := by
    rw [h_schema]
    decide
  have h_has : ∀ e ∈ repairs d toMatch toWrite, draft.values.has e.1 = true :=
    fun e he => has_of_mem_repairs h_fresh h_schema he
  have h_set := setAll_ofDraft h_names h_has
  rw [← h_fresh.eq_ofDraft h_open] at h_set
  obtain ⟨draft', h_fresh'⟩ := h_fresh.setAll h_names h_set
  obtain rfl := Option.some.inj h_fresh'.holds
  exact ⟨h_set, h_fresh'⟩

/-- **The check finds nothing wrong** with what has been given what it asks for. -/
theorem validate_repaired (h_open : d.isOpen = true) (h_match : toMatch ≠ "")
    (h_write : toWrite ≠ "") :
    Headers.validate ((ofDraft form (repaired d draft toMatch toWrite)).candidateOf
      (repaired d draft toMatch toWrite)) draft.isFinal = none := by
  have h_same := visibility_repaired h_fresh h_schema toMatch toWrite
  refine Headers.validate_eq_none_iff.2 ⟨fun h_normal => ?_, fun h_action => ?_⟩
  · have h_shown := (isShown_matchValue_iff h_fresh h_schema).2 h_normal
    have h_mem : (.text "match_value", .text toMatch) ∈ repairs d toMatch toWrite :=
      mem_repairs.2 (.inl ⟨(isFinalEdit_of_fresh h_fresh).trans h_normal, rfl⟩)
    rw [matchValue_candidateOf, h_same, h_shown, if_pos rfl, text_repaired draft h_mem]
    exact Headers.truth_text_iff.2 h_match
  · -- It asks for a value to write only where the field for it is shown, and was given one.
    have h_fresh' := (setAll_repairs h_fresh h_schema h_open toMatch toWrite).2
    have h_shown := (isShown_rewriteValue_iff h_fresh' h_schema).2 h_action
    rw [h_same] at h_shown
    have h_mem : (.text "rewrite_value", .text toWrite) ∈ repairs d toMatch toWrite :=
      mem_repairs.2 (.inr ⟨h_shown, rfl⟩)
    rw [rewriteValue_candidateOf, h_same, h_shown, if_pos rfl, text_repaired draft h_mem]
    exact Headers.truth_text_iff.2 h_write

end

/-- **A dialog of the header rules can always be repaired.**  It is opened on any rule, or on a new
one, and its fields are given any values, in whatever order; commits in between may be refused, by
the check or by the book.  As long as it is open, a commit that comes to nothing because of the
check leaves the dialog and the book as they are, and what the check complains about is shown: the
value to match, and the dialog is one of a normal rule, or the value to write, and the action of the
candidate is one that rewrites.  If the first, for a normal rule, and the second, where it is shown,
are given any texts that are not empty, the dialog shows what it showed before and the check finds
nothing wrong with the candidate any more. -/
theorem repairable (form : Form) (start opened : Dialog) (existing : Option Rule) (index : Int)
    (acts : List Act) (h_schema : form.schema = Headers.schema)
    (h_check : form.validator = some Headers.validate)
    (h_open : start.open form existing index = .ok opened) :
    let now := Run.after (step form) opened acts
    now.isOpen = true → ∃ draft, now.openDraft = .ok draft ∧
      (∀ b d' b' message i, now.commit form b = .ok (d', b', .invalid message i) →
        d' = now ∧ b' = b ∧
          (message = "Match value is required" ∧ draft.isFinal = false ∧
              now.visibility.isShown "match_value" = true ∨
            message = "Rewrite value is required for this action" ∧
              (now.candidateOf draft).action.isAmong Headers.rewritingActions = true ∧
              now.visibility.isShown "rewrite_value" = true)) ∧
      ∀ toMatch toWrite : String, toMatch ≠ "" → toWrite ≠ "" →
        ∃ d' draft', now.setAll form (repairs now toMatch toWrite) = .ok d' ∧
          d'.openDraft = .ok draft' ∧ d'.visibility = now.visibility ∧
          Headers.validate (d'.candidateOf draft') draft'.isFinal = none := by
  intro now h_now
  have h_distinct : Record.Distinct (fieldNames form.schema (existing.any Rule.isFinal)) := by
    rw [h_schema]
    cases existing.any Rule.isFinal <;> decide
  obtain ⟨values, -, h_after⟩ := continues_after h_distinct h_open acts
  obtain ⟨draft, h_fresh, -⟩ := h_after h_now
  have h_draft := openDraft_eq_ok_iff.2 ⟨h_now, h_fresh.holds⟩
  refine ⟨draft, h_draft, fun b d' b' message i h_commit => ?_,
    fun toMatch toWrite h_match h_write => ?_⟩
  · obtain ⟨draft', h_draft', h_complaint, h_dialog, h_book⟩ := complaint_of_commit h_commit
    obtain rfl := Except.ok.inj (h_draft'.symm.trans h_draft)
    rw [Headers.complaint_eq h_check] at h_complaint
    refine ⟨h_dialog, h_book, ?_⟩
    rcases Headers.validate_cases h_complaint with ⟨h_normal, h_message⟩ | ⟨h_action, h_message⟩
    · exact .inl ⟨h_message, h_normal, (isShown_matchValue_iff h_fresh h_schema).2 h_normal⟩
    · exact .inr ⟨h_message, h_action, (isShown_rewriteValue_iff h_fresh h_schema).2 h_action⟩
  · have h_set := (setAll_repairs h_fresh h_schema h_now toMatch toWrite).1
    exact ⟨_, _, h_set, rfl, visibility_repaired h_fresh h_schema toMatch toWrite,
      validate_repaired h_fresh h_schema h_now h_match h_write⟩

/-- A new rule that is to match a list with nothing in it, and to rewrite: a commit is refused, and
both texts are asked for. -/
theorem repairable_new :
    let form : Form := ⟨Headers.schema, some Headers.validate, some Headers.transform⟩
    let acts : List Act := [.set "match_value" (.list []), .set "action" (.text "REPLACE-PART"),
      .set "flavour" (.text "sweet"), .commit (Book.new [])]
    form.schema = Headers.schema ∧ form.validator = some Headers.validate ∧
      ∃ opened, ({} : Dialog).open form none (-1) = .ok opened ∧
        let now := Run.after (step form) opened acts
        now.isOpen = true ∧ "agent" ≠ "" ∧ "plain" ≠ "" ∧
          ∃ d' draft', now.setAll form (repairs now "agent" "plain") = .ok d' ∧
            d'.openDraft = .ok draft' ∧ d'.visibility = now.visibility ∧
            Headers.validate (d'.candidateOf draft') draft'.isFinal = none := by
  intro form acts
  refine ⟨rfl, rfl, _, rfl, by decide +kernel, by decide, by decide, ?_⟩
  obtain ⟨draft, -, -, h_repaired⟩ :=
    repairable form {} _ none (-1) acts rfl rfl rfl (by decide +kernel)
  exact h_repaired "agent" "plain" (by decide) (by decide)

end Rulebook.Dialog
