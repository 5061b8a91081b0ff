/-
  Rulebook.Proofs.Dialog.Filled

  A dialog that is open is known by its draft (`Dialog.ofDraft`): what it shows follows from that.

  So it does not matter what was shown in between while several fields were given their values.
  Either the draft has all the fields, and then it has the values (`setAll_ofDraft`), or one of them
  is unknown, and the first such field is what is complained about.  Which of several unknown fields
  is the first depends on the order in which they are named, and that is all that depends on it
  (`setAll_perm`).
-/
import Rulebook.Proofs.Dialog.Fresh

namespace Rulebook.Dialog

variable {form : Form} {d : Dialog} {draft : Draft} {entries entries' : List (Name × Value)}

/-- The dialog that is open with a draft. -/
def ofDraft (form : Form) (draft : Draft) : Dialog where
  stage := .opened
  draft := some draft
  visibility := Visibility.compute form.schema.namedFields draft.values draft.isFinal

/-- The draft with other values. -/
abbrev withValues (draft : Draft) (values : Entries) : Draft :=
  { draft with values }

theorem openDraft_ofDraft (form : Form) (draft : Draft) :
    (ofDraft form draft).openDraft = .ok draft := rfl

/-- A fresh dialog that is open is the one with its draft. -/
theorem Fresh.eq_ofDraft {isFinal : Bool} (h : d.Fresh form isFinal draft)
    (h_open : d.isOpen = true) : d = ofDraft form draft := by
  have h_stage : d.stage = .opened := beq_iff_eq.1 h_open
  obtain ⟨h_draft, h_kind, h_shows, -⟩ := h
  obtain ⟨stage, own, visibility⟩ := d
  subst h_kind
  simp only at h_stage h_draft h_shows
  rw [h_stage, h_draft, h_shows, ofDraft]

/-- What a dialog is that has been opened. -/
theorem open_eq_ofDraft {start : Dialog} {existing : Option Rule} {index : Int}
    (h : start.open form existing index = .ok d) :
    ∃ values, startValues form.schema existing (existing.any Rule.isFinal) = .ok values ∧
      d = ofDraft form (firstDraft existing index values) := by
  have h_names := hasNames_of_open h
  obtain ⟨values, h_values, h⟩ := open_eq_ok h
  rw [showing_of_hasNames h_names] at h
  exact ⟨values, h_values, (Except.ok.inj h).symm⟩

/-! ## Giving fields their values -/

section

variable (h_names : form.schema.hasNames = true)
include h_names

theorem set_ofDraft {name : Name} (h_has : draft.values.has name = true) (value : Value) :
    ∃ told, (ofDraft form draft).set form name value =
      .ok (ofDraft form (withValues draft (draft.values.put name value)), told) := by
  have h_set := set_eq h_names (openDraft_ofDraft form draft) name value
  rw [if_pos h_has] at h_set
  cases h_dependents :
      (Visibility.Index.ofFields form.schema.namedFields).hasDependents name with
  | true =>
    rw [h_dependents] at h_set
    exact ⟨true, h_set⟩
  | false =>
    -- It is not worked out again what is shown, and need not be.
    have h_same : Visibility.compute form.schema.namedFields (draft.values.put name value)
          draft.isFinal =
        Visibility.compute form.schema.namedFields draft.values draft.isFinal :=
      Visibility.compute_put value draft.isFinal h_dependents
    simp only [h_dependents, Bool.false_eq_true, if_false] at h_set
    refine ⟨false, h_set.trans ?_⟩
    simp only [ofDraft, h_same]

theorem set_ofDraft_unknown {name : Name} (h_has : draft.values.has name = false) (value : Value) :
    (ofDraft form draft).set form name value = .error (.unknownField name) := by
  rw [set_eq h_names (openDraft_ofDraft form draft), h_has, if_neg Bool.false_ne_true]

/-- **Fields of the draft that are given their values** have them, and it is shown what the draft
then asks for. -/
theorem setAll_ofDraft (h_has : ∀ e ∈ entries, draft.values.has e.1 = true) :
    (ofDraft form draft).setAll form entries =
      .ok (ofDraft form (withValues draft (draft.values.putAll entries))) := by
  induction entries generalizing draft with
  | nil => rfl
  | cons e rest ih =>
    obtain ⟨told, h_set⟩ := set_ofDraft h_names (h_has e List.mem_cons_self) e.2
    rw [setAll, h_set]
    refine ih fun f hf => ?_
    exact Record.has_put_of_has (h_has f (List.mem_cons_of_mem e hf)) e.1 e.2

/-- If one of the fields is none of the draft, that is complained about, or another such field. -/
theorem setAll_ofDraft_unknown (h_unknown : ∃ e ∈ entries, draft.values.has e.1 = false) :
    ∃ name ∈ Record.keys entries, draft.values.has name = false ∧
      (ofDraft form draft).setAll form entries = .error (.unknownField name) := by
  induction entries generalizing draft with
  | nil =>
    obtain ⟨e, he, -⟩ := h_unknown
    exact absurd he List.not_mem_nil
  | cons e rest ih =>
    cases h_first : draft.values.has e.1 with
    | false =>
      refine ⟨e.1, List.mem_cons_self, h_first, ?_⟩
      rw [setAll, set_ofDraft_unknown h_names h_first]
      rfl
    | true =>
      -- A field that the draft has does not add to the fields of the draft.
      have h_fields (name : Name) :
          (draft.values.put e.1 e.2).has name = draft.values.has name := by
        rw [Record.has_put]
        cases h_same : e.1 == name with
        | false => rw [Bool.false_or]
        | true => rw [Bool.true_or, Record.has, ← Record.get?_congr h_same, ← Record.has, h_first]
      obtain ⟨f, hf, h_none⟩ := h_unknown
      have h_rest : f ∈ rest := by
        rcases List.mem_cons.1 hf with rfl | h_rest
        · rw [h_first] at h_none
          exact absurd h_none.symm Bool.false_ne_true
        · exact h_rest
      obtain ⟨told, h_set⟩ := set_ofDraft h_names h_first e.2
      have h_later : ∃ f ∈ rest,
          (withValues draft (draft.values.put e.1 e.2)).values.has f.1 = false :=
        ⟨f, h_rest, (h_fields f.1).trans h_none⟩
      obtain ⟨name, h_name, h_has, h_error⟩ := ih h_later
      refine ⟨name, List.mem_cons_of_mem e.1 h_name, (h_fields name).symm.trans h_has, ?_⟩
      rw [setAll, h_set]
      exact h_error

/-- **The order in which fields are given their values does not matter**, unless some of them are
unknown: then one of these is complained about in either order. -/
theorem setAll_perm (draft : Draft) (h_perm : entries.Perm entries')
    (h_distinct : Record.Distinct (Record.keys entries)) :
    (ofDraft form draft).setAll form entries' = (ofDraft form draft).setAll form entries ∨
      ∃ name ∈ Record.keys entries, ∃ name' ∈ Record.keys entries',
        (draft.values.has name = false ∧
          (ofDraft form draft).setAll form entries = .error (.unknownField name)) ∧
        draft.values.has name' = false ∧
          (ofDraft form draft).setAll form entries' = .error (.unknownField name') := by
  by_cases h_has : ∀ e ∈ entries, draft.values.has e.1 = true
  · left
    rw [setAll_ofDraft h_names h_has,
      setAll_ofDraft h_names fun e he => h_has e (h_perm.mem_iff.2 he),
      Record.putAll_perm h_perm h_distinct h_has]
  · right
    have h_unknown : ∃ e ∈ entries, draft.values.has e.1 = false := by simpa using h_has
    obtain ⟨e, he, h_none⟩ := h_unknown
    obtain ⟨name, h_name, h_first⟩ := setAll_ofDraft_unknown h_names ⟨e, he, h_none⟩
    obtain ⟨name', h_name', h_first'⟩ :=
      setAll_ofDraft_unknown h_names ⟨e, h_perm.mem_iff.1 he, h_none⟩
    exact ⟨name, h_name, name', h_name', h_first, h_first'⟩

end

end Rulebook.Dialog
