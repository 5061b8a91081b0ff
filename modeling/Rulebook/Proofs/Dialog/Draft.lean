/-
  Rulebook.Proofs.Dialog.Draft

  Where the values of a draft come from, and what rule a commit stores.  A value of a draft is one
  of the rule that the dialog was opened on, or the default of a field, or one that was given to a
  field.  The rule that is stored is the candidate of the draft, with the change of the form made to
  it, and what it has beside its attributes is among the values of the draft.  The draft is of the
  rule at the position that the dialog was opened with (`Dialog.Aims`), whatever is done with it.
-/
import Rulebook.Dialog
import Rulebook.Proofs.Book.Step
import Rulebook.Proofs.Record
import Rulebook.Proofs.Rule.Wire

namespace Rulebook.Dialog

variable {form : Form} {d d' : Dialog} {draft : Draft}

/-! ## Where the values come from -/

/-- All values of the draft, if there is one, are of a kind. -/
def Holds (Kind : Value → Prop) (d : Dialog) : Prop :=
  ∀ draft ∈ d.draft, ∀ e ∈ draft.values, Kind e.2

variable {Kind : Value → Prop}

/-- A value of a new draft is one of the rule, or the default of a field. -/
theorem origin_of_startValue {schema : Schema} {existing : Option Rule} {isFinal : Bool}
    {f : Field Value} {e : Name × Value} (h : startValue schema existing isFinal f = .ok e) :
    schema.defaultFor f isFinal = .ok e.2 ∨ ∃ r ∈ existing, r.get? e.1 = some e.2 := by
  obtain ⟨name, -, h⟩ := bind_eq_ok_iff.1 h
  cases existing with
  | none =>
    rw [if_pos (.inl rfl)] at h
    obtain ⟨v, h_default, h⟩ := bind_eq_ok_iff.1 h
    obtain rfl := Except.ok.inj h
    exact .inl h_default
  | some r =>
    dsimp only at h
    split at h
    · obtain ⟨v, h_default, h⟩ := bind_eq_ok_iff.1 h
      obtain rfl := Except.ok.inj h
      exact .inl h_default
    · rename_i h_given
      obtain rfl := Except.ok.inj h
      refine .inr ⟨r, rfl, ?_⟩
      -- If the rule had nothing there, its value would be null.
      cases h_get : r.get? name with
      | none => exact absurd (.inl (by rw [Rule.get, h_get]; rfl)) h_given
      | some v => simp only [Rule.get, h_get, Option.getD_some]

/-- What was worked out of a draft shows that draft. -/
theorem draft_of_showing (h : showing form d draft = .ok d') : d'.draft = some draft := by
  unfold showing at h
  dsimp only at h
  split at h
  · obtain rfl := Except.ok.inj h
    rfl
  · exact nomatch h

/-- The draft that a dialog is opened with. -/
def firstDraft (existing : Option Rule) (index : Int) (values : Entries) : Draft where
  values := values
  isFinal := existing.any Rule.isFinal
  index := if existing.isSome then index else -1
  originalEnabled := match existing with
    | some r => r.enabled
    | none => .bool true

/-- What opening a dialog comes to. -/
theorem open_eq_ok {existing : Option Rule} {index : Int}
    (h : d.open form existing index = .ok d') :
    ∃ values, startValues form.schema existing (existing.any Rule.isFinal) = .ok values ∧
      showing form { d with stage := .opened } (firstDraft existing index values) = .ok d' := by
  unfold «open» at h
  split at h
  · exact nomatch h
  · dsimp only at h
    split at h
    · exact nomatch h
    · rename_i values h_values
      exact ⟨values, h_values, h⟩

/-- If the defaults of all fields and all that the rule has are of a kind, so are the values of the
draft of a dialog that was opened on the rule. -/
theorem holds_open {existing : Option Rule} {index : Int}
    (h_default : ∀ f ∈ form.schema.fields, ∀ isFinal v,
      form.schema.defaultFor f isFinal = .ok v → Kind v)
    (h_existing : ∀ r ∈ existing, ∀ name v, r.get? name = some v → Kind v)
    (h : d.open form existing index = .ok d') : d'.Holds Kind := by
  obtain ⟨values, h_values, h⟩ := open_eq_ok h
  intro draft h_draft e he
  rw [draft_of_showing h, Option.mem_some_iff] at h_draft
  obtain rfl := h_draft
  obtain ⟨es, h_es, h_values⟩ := bind_eq_ok_iff.1 h_values
  obtain rfl := Except.ok.inj h_values
  obtain ⟨e', he', -, h_same⟩ := Record.mem_ofList he
  obtain ⟨f, hf, h_start⟩ := exists_of_mem_mapM h_es he'
  rw [h_same]
  rcases origin_of_startValue h_start with h | ⟨r, hr, h⟩
  · exact h_default f (List.mem_filter.1 hf).1 _ _ h
  · exact h_existing r hr _ _ h

/-- What holds of the draft of a dialog holds of it while the dialog is open. -/
theorem Holds.of_openDraft (h_holds : d.Holds Kind) (h : d.openDraft = .ok draft) :
    ∀ e ∈ draft.values, Kind e.2 := by
  unfold openDraft at h
  split at h
  · rename_i h_draft
    obtain rfl := Except.ok.inj h
    exact h_holds _ h_draft
  · exact nomatch h

/-- A field that is given a value gives the draft that value and changes nothing else in it. -/
theorem draft_of_set {name : Name} {value : Value} {told : Bool}
    (h : d.set form name value = .ok (d', told)) :
    ∃ draft, d.openDraft = .ok draft ∧
      d'.draft = some { draft with values := draft.values.put name value } := by
  obtain ⟨draft, h_draft, h⟩ := bind_eq_ok_iff.1 h
  refine ⟨draft, h_draft, ?_⟩
  split at h
  · dsimp only at h
    split at h
    · obtain ⟨d'', h_showing, h⟩ := bind_eq_ok_iff.1 h
      obtain ⟨rfl, -⟩ := Prod.mk.inj (Except.ok.inj h)
      exact draft_of_showing h_showing
    · obtain ⟨rfl, -⟩ := Prod.mk.inj (Except.ok.inj h)
      rfl
  · exact nomatch h

/-- A field that is given a value gives its draft that value and no other. -/
theorem holds_set {name : Name} {value : Value} {told : Bool} (h_value : Kind value)
    (h_holds : d.Holds Kind) (h : d.set form name value = .ok (d', told)) : d'.Holds Kind := by
  obtain ⟨draft, h_draft, h_new⟩ := draft_of_set h
  intro draft' h_draft' e he
  rw [h_new, Option.mem_some_iff] at h_draft'
  obtain rfl := h_draft'
  rcases Record.mem_put he with he | ⟨-, h_same⟩
  · exact h_holds.of_openDraft h_draft e he
  · rw [h_same]
    exact h_value

theorem holds_setAll {entries : List (Name × Value)} (h_entries : ∀ e ∈ entries, Kind e.2)
    (h_holds : d.Holds Kind) (h : d.setAll form entries = .ok d') : d'.Holds Kind := by
  induction entries generalizing d with
  | nil =>
    obtain rfl := Except.ok.inj h
    exact h_holds
  | cons e rest ih =>
    obtain ⟨⟨d'', told⟩, h_set, h⟩ := bind_eq_ok_iff.1 h
    exact ih (fun f hf => h_entries f (List.mem_cons_of_mem e hf))
      (holds_set (h_entries e List.mem_cons_self) h_holds h_set) h

/-! ## Where the rule of a draft stands -/

/-- The draft, if there is one, is of the rule at a position. -/
def Aims (i : Int) (d : Dialog) : Prop :=
  ∀ draft ∈ d.draft, draft.index = i

theorem Aims.of_openDraft {i : Int} (h_aims : d.Aims i) (h : d.openDraft = .ok draft) :
    draft.index = i := by
  unfold openDraft at h
  split at h
  · rename_i h_draft
    obtain rfl := Except.ok.inj h
    exact h_aims _ h_draft
  · exact nomatch h

/-- A dialog that was opened aims at the position that it was opened with, which for a new rule is
the one in front of the first. -/
theorem aims_open {existing : Option Rule} {i : Int} (h : d.open form existing i = .ok d')
    (h_new : existing = none → i = -1) : d'.Aims i := by
  obtain ⟨values, -, h⟩ := open_eq_ok h
  intro draft h_draft
  rw [draft_of_showing h, Option.mem_some_iff] at h_draft
  obtain rfl := h_draft
  cases existing with
  | none => exact (h_new rfl).symm
  | some r => rfl

/-- Editing does not take a draft elsewhere. -/
theorem aims_set {i : Int} {name : Name} {value : Value} {told : Bool} (h_aims : d.Aims i)
    (h : d.set form name value = .ok (d', told)) : d'.Aims i := by
  obtain ⟨draft, h_draft, h_new⟩ := draft_of_set h
  intro draft' h_draft'
  rw [h_new, Option.mem_some_iff] at h_draft'
  obtain rfl := h_draft'
  have h_index : draft.index = i := h_aims.of_openDraft h_draft
  exact h_index

theorem aims_setAll {i : Int} {entries : List (Name × Value)} (h_aims : d.Aims i)
    (h : d.setAll form entries = .ok d') : d'.Aims i := by
  induction entries generalizing d with
  | nil =>
    obtain rfl := Except.ok.inj h
    exact h_aims
  | cons e rest ih =>
    obtain ⟨⟨d'', told⟩, h_set, h⟩ := bind_eq_ok_iff.1 h
    exact ih (aims_set h_aims h_set) h

/-! ## What is stored -/

/-- What the candidate of a draft has beside its attributes are the values that are shown: what is
put beside those are attributes. -/
theorem extra_candidateOf (d : Dialog) (draft : Draft) :
    (d.candidateOf draft).extra =
      (d.shownValues draft).filter fun e => !Rule.attributeNames.contains e.1 := by
  have h_put (es : Entries) {name : Name} (v : Value) (h_name : name ∈ Rule.attributeNames) :
      ((es.put name v).filter fun e => !Rule.attributeNames.contains e.1) =
        es.filter fun e => !Rule.attributeNames.contains e.1 := by
    refine Record.filter_put (p := fun name => !Rule.attributeNames.contains name) (fun h => ?_) ?_
      es v
    · rw [Rule.contains_attributeNames_congr h]
    · rw [Rule.contains_attributeNames_iff.2 h_name, Bool.not_true]
  rw [candidateOf, Rule.extra_ofEntries, h_put _ _ (by simp [Rule.attributeNames])]
  split
  · exact h_put _ _ (by simp [Rule.attributeNames])
  · rfl

theorem mem_extra_candidateOf {e : Name × Value} (h : e ∈ (d.candidateOf draft).extra) :
    e ∈ draft.values := by
  rw [extra_candidateOf] at h
  exact (List.mem_filter.1 (List.mem_filter.1 h).1).1

/-- The rule that a commit stores is the one that the draft makes, with the change of the form made
to it. -/
theorem rule_of_commit {b b' : Book} {r : Rule} {index : Int} {previous : Option Rule}
    (h : d.commit form b = .ok (d', b', .stored r index previous)) :
    ∃ draft, d.openDraft = .ok draft ∧ form.complaint (d.candidateOf draft) draft.isFinal = none ∧
      r = form.finished (d.candidateOf draft) draft.isFinal ∧
      store b draft r = .ok (b', .stored r index previous) := by
  obtain ⟨draft, h_draft, h⟩ := bind_eq_ok_iff.1 h
  dsimp only at h
  split at h
  · exact nomatch h
  · rename_i h_complaint
    split at h
    · rename_i p h_store
      obtain ⟨-, h⟩ := Prod.mk.inj (Except.ok.inj h)
      obtain ⟨rfl, rfl⟩ := Prod.mk.inj h
      have h_rule : r = form.finished (d.candidateOf draft) draft.isFinal := by
        unfold store at h_store
        split at h_store
        · obtain ⟨⟨b'', i⟩, -, h⟩ := bind_eq_ok_iff.1 h_store
          exact (Commit.stored.inj (Prod.mk.inj (Except.ok.inj h)).2).1.symm
        · obtain ⟨⟨b'', r''⟩, -, h⟩ := bind_eq_ok_iff.1 h_store
          exact (Commit.stored.inj (Prod.mk.inj (Except.ok.inj h)).2).1.symm
      refine ⟨draft, h_draft, h_complaint, h_rule, ?_⟩
      rw [h_rule] at h_store ⊢
      exact h_store
    · exact nomatch h

/-- A commit that comes to nothing because the check finds something wrong with the candidate leaves
the dialog and the book as they are. -/
theorem complaint_of_commit {b b' : Book} {message : String} {index : Int}
    (h : d.commit form b = .ok (d', b', .invalid message index)) :
    ∃ draft, d.openDraft = .ok draft ∧
      form.complaint (d.candidateOf draft) draft.isFinal = some message ∧ d' = d ∧ b' = b := by
  obtain ⟨draft, h_draft, h⟩ := bind_eq_ok_iff.1 h
  refine ⟨draft, h_draft, ?_⟩
  dsimp only at h
  split at h
  · rename_i h_complaint
    obtain ⟨h_dialog, h_rest⟩ := Prod.mk.inj (Except.ok.inj h)
    obtain ⟨h_book, h_result⟩ := Prod.mk.inj h_rest
    rw [h_complaint, (Commit.invalid.inj h_result).1]
    exact ⟨rfl, h_dialog.symm, h_book.symm⟩
  · split at h
    · rename_i p h_store
      -- The answer of a book that takes the rule is never that something is wrong with it.
      obtain ⟨-, h_rest⟩ := Prod.mk.inj (Except.ok.inj h)
      obtain ⟨-, h_result⟩ := Prod.mk.inj h_rest
      subst h_result
      unfold store at h_store
      split at h_store
      · obtain ⟨_, -, h_store⟩ := bind_eq_ok_iff.1 h_store
        exact nomatch h_store
      · obtain ⟨_, -, h_store⟩ := bind_eq_ok_iff.1 h_store
        exact nomatch h_store
    · exact nomatch h

end Rulebook.Dialog
