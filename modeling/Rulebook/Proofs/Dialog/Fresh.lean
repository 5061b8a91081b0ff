/-
  Rulebook.Proofs.Dialog.Fresh

  A dialog does not work out what it shows after every change of its draft, and yet it always shows
  what it would show if it did.  The draft has the fields that its kind of rule has, from the
  opening of the dialog to its end.

  The invariant is `Dialog.Fresh`.  It holds once a dialog has been opened, and every act on a
  dialog keeps it; for a field with dependents because what is shown is worked out again, and for
  any other field because that makes no difference (`Visibility.compute_put`).
-/
import Rulebook.Proofs.Dialog.Draft
import Rulebook.Proofs.Field.Dependence
import Rulebook.Proofs.Run
import Rulebook.Schema.Headers

namespace Rulebook

/-! ## Fields whose names are names -/

namespace Field

/-- A field whose names are names goes by its own name. -/
theorem asName_of_named? {f : Field Value} {g : Field Name} (h : f.named? = some g) :
    f.name.asName = .ok g.name := by
  obtain ⟨name, h_name, h⟩ := Option.bind_eq_some_iff.1 h
  obtain ⟨conditions, -, h⟩ := Option.bind_eq_some_iff.1 h
  obtain rfl := Option.some.inj h
  rw [Value.asName, h_name]

theorem appliesTo_of_named? {f : Field Value} {g : Field Name} (h : f.named? = some g)
    (isFinal : Bool) : g.appliesTo isFinal = f.appliesTo isFinal := by
  obtain ⟨name, -, h⟩ := Option.bind_eq_some_iff.1 h
  obtain ⟨conditions, -, h⟩ := Option.bind_eq_some_iff.1 h
  obtain rfl := Option.some.inj h
  rfl

end Field

namespace Dialog

variable {form : Form} {d : Dialog} {draft : Draft}

/-! ## Opening -/

theorem name_of_startValue {schema : Schema} {existing : Option Rule} {isFinal : Bool}
    {f : Field Value} {name : Name} {value : Value}
    (h : startValue schema existing isFinal f = .ok (name, value)) : f.name.asName = .ok name := by
  obtain ⟨key, h_key, h⟩ := bind_eq_ok_iff.1 h
  -- Whatever the rule has there, the value goes under the name of the field.
  have h_under (v : Value) (h : (if v = .null ∨ v = .text "" then do
        return (key, ← schema.defaultFor f isFinal)
      else return (key, v)) = Except.ok (name, value)) : key = name := by
    split at h
    · obtain ⟨_, -, h⟩ := bind_eq_ok_iff.1 h
      exact (Prod.mk.inj (Except.ok.inj h)).1
    · exact (Prod.mk.inj (Except.ok.inj h)).1
  cases existing with
  | none => rw [h_key, h_under .null h]
  | some r => rw [h_key, h_under (r.get key) h]

/-- The names of the fields that a kind of rule has. -/
def fieldNames (schema : Schema) (isFinal : Bool) : List Name :=
  (schema.namedFields.filter fun f => f.appliesTo isFinal).map Field.name

/-- The values of a new draft are put under the names of the fields of its kind of rule. -/
theorem startValues_eq_ok {schema : Schema} {existing : Option Rule} {isFinal : Bool}
    {values : Entries} (h_names : schema.hasNames = true)
    (h : startValues schema existing isFinal = .ok values) :
    ∃ es, values = Record.ofList es ∧ Record.keys es = fieldNames schema isFinal := by
  obtain ⟨es, h_es, h_values⟩ := bind_eq_ok_iff.1 h
  refine ⟨es, (Except.ok.inj h_values).symm, ?_⟩
  rw [fieldNames, Schema.namedFields]
  rw [Schema.hasNames] at h_names
  -- Field by field, in the order of the schema.
  clear h h_values
  generalize schema.fields = fields at h_names h_es
  induction fields generalizing es with
  | nil =>
    obtain rfl := Except.ok.inj h_es
    rfl
  | cons f rest ih =>
    obtain ⟨h_named, h_rest⟩ := Bool.and_eq_true_iff.1 (List.all_cons ▸ h_names)
    obtain ⟨g, hg⟩ := Option.isSome_iff_exists.1 h_named
    have h_applies := Field.appliesTo_of_named? hg isFinal
    rw [List.filterMap_cons_some hg]
    cases h_own : f.appliesTo isFinal with
    | false =>
      rw [h_own] at h_applies
      rw [List.filter_cons_of_neg (by rw [h_own]; exact Bool.false_ne_true)] at h_es
      rw [List.filter_cons_of_neg (by rw [h_applies]; exact Bool.false_ne_true)]
      exact ih es h_rest h_es
    | true =>
      rw [h_own] at h_applies
      rw [List.filter_cons_of_pos (by exact h_own), List.mapM_cons] at h_es
      obtain ⟨⟨key, value⟩, h_start, h_es⟩ := bind_eq_ok_iff.1 h_es
      obtain ⟨es', h_es', h_es⟩ := bind_eq_ok_iff.1 h_es
      obtain rfl := Except.ok.inj h_es
      have h_key : key = g.name := by
        have h_name := name_of_startValue h_start
        rw [Field.asName_of_named? hg] at h_name
        exact (Except.ok.inj h_name).symm
      rw [List.filter_cons_of_pos (by exact h_applies), List.map_cons, ← ih es' h_rest h_es',
        ← h_key]
      rfl

/-- A new draft has a value for each field of its kind of rule, and no others. -/
theorem has_of_startValues {schema : Schema} {existing : Option Rule} {isFinal : Bool}
    {values : Entries} (h_names : schema.hasNames = true)
    (h : startValues schema existing isFinal = .ok values) (name : Name) :
    values.has name =
      schema.namedFields.any fun f => f.appliesTo isFinal && f.name == name := by
  obtain ⟨es, rfl, h_keys⟩ := startValues_eq_ok h_names h
  have h_any : (es.any fun e => e.1 == name) = (fieldNames schema isFinal).any (· == name) := by
    rw [← h_keys, Record.keys, List.any_map]
    rfl
  rw [Record.has_ofList, h_any, fieldNames, List.any_map, List.any_filter]
  rfl

/-- What is shown can be worked out if the names of all fields are names. -/
theorem showing_of_hasNames (h_names : form.schema.hasNames = true) (d : Dialog) (draft : Draft) :
    showing form d draft = .ok { d with
      draft := some draft
      visibility :=
        Visibility.compute form.schema.namedFields draft.values draft.isFinal } := by
  rw [showing, h_names, if_pos rfl]

/-! ## Editing -/

/-- What giving a field a value comes to in an open dialog. -/
theorem set_eq (h_names : form.schema.hasNames = true) (h_draft : d.openDraft = .ok draft)
    (name : Name) (value : Value) :
    d.set form name value =
      if draft.values.has name then
        let draft' := { draft with values := draft.values.put name value }
        let hasDependents :=
          (Visibility.Index.ofFields form.schema.namedFields).hasDependents name
        .ok ({ d with
          draft := some draft'
          visibility := if hasDependents then
              Visibility.compute form.schema.namedFields draft'.values draft'.isFinal
            else d.visibility }, hasDependents)
      else .error (.unknownField name) := by
  unfold set
  rw [h_draft]
  simp only [bind, Except.bind]
  split
  · split
    · rename_i h_dependents
      rw [showing_of_hasNames h_names]
      simp only [h_dependents]
      rfl
    · rename_i h_dependents
      simp only [h_dependents]
      rfl
  · rfl

/-! ## From act to act -/

/-- What can be done with a dialog that has been opened. -/
inductive Act where
  | set (name : Name) (value : Value)
  /-- the rule goes to a book -/
  | commit (b : Book)
  | cancel
  | close

/-- The dialog that an act leads to, if it is not refused. -/
def act (form : Form) (d : Dialog) : Act → Except Error Dialog
  | .set name value => (d.set form name value).map Prod.fst
  | .commit b => (d.commit form b).map Prod.fst
  | .cancel => d.cancel
  | .close => d.close

/-- Does one thing.  An act that is refused changes nothing, except that a field which was given a
value keeps it if it cannot be worked out what is shown. -/
def step (form : Form) (d : Dialog) (a : Act) : Dialog × Except Error Unit :=
  match d.act form a with
  | .ok d' => (d', .ok ())
  | .error (.notShown left) => (left, .error (.notShown left))
  | .error e => (d, .error e)

/-- The dialog shows what its draft asks for, and the draft has the fields of a kind of rule. -/
structure Fresh (form : Form) (isFinal : Bool) (d : Dialog) (draft : Draft) : Prop where
  holds : d.draft = some draft
  kind : draft.isFinal = isFinal
  shows : d.visibility = Visibility.compute form.schema.namedFields draft.values isFinal
  fields : ∀ name, draft.values.has name =
    form.schema.namedFields.any fun f => f.appliesTo isFinal && f.name == name

variable {isFinal : Bool}

theorem openDraft_eq_ok_iff : d.openDraft = .ok draft ↔ d.isOpen = true ∧ d.draft = some draft := by
  unfold openDraft isOpen
  cases h_stage : d.stage <;> cases h_draft : d.draft <;> simp

/-- There is no draft to work on in a dialog that is not open. -/
theorem openDraft_of_not_open (h : d.isOpen = false) : d.openDraft = .error (.notOpen d.stage) := by
  unfold openDraft
  split
  · rename_i h_stage _
    rw [isOpen, h_stage] at h
    exact nomatch h
  · rfl

/-- An act on a dialog that is not open does not open it. -/
theorem isOpen_step_of_not (h : d.isOpen = false) (a : Act) : (d.step form a).1.isOpen = false := by
  have h_closed := openDraft_of_not_open h
  cases a with
  | set name value =>
    have h_act : d.act form (.set name value) = .error (.notOpen d.stage) := by
      rw [act, set, h_closed]
      rfl
    rw [step, h_act]
    exact h
  | commit b =>
    have h_act : d.act form (.commit b) = .error (.notOpen d.stage) := by
      rw [act, commit, h_closed]
      rfl
    rw [step, h_act]
    exact h
  | cancel =>
    have h_act : d.act form .cancel = .error (.notOpen d.stage) := by
      rw [act, cancel, h_closed]
      rfl
    rw [step, h_act]
    exact h
  | close =>
    have h_act : d.act form .close = .ok {} := by
      rw [act, close, h]
      rfl
    rw [step, h_act]
    rfl

/-- A dialog that has just been opened is fresh. -/
theorem fresh_open {start : Dialog} {existing : Option Rule} {index : Int}
    (h_names : form.schema.hasNames = true) (h : start.open form existing index = .ok d) :
    ∃ draft, d.Fresh form (existing.any Rule.isFinal) draft := by
  obtain ⟨values, h_values, h⟩ := open_eq_ok h
  rw [showing_of_hasNames h_names] at h
  obtain rfl := Except.ok.inj h
  exact ⟨_, rfl, rfl, rfl, has_of_startValues h_names h_values⟩

/-- Only a dialog whose fields all have names can be opened. -/
theorem hasNames_of_open {start : Dialog} {existing : Option Rule} {index : Int}
    (h : start.open form existing index = .ok d) : form.schema.hasNames = true := by
  obtain ⟨values, -, h⟩ := open_eq_ok h
  unfold showing at h
  dsimp only at h
  split at h
  · assumption
  · exact nomatch h

/-- Giving a field a value keeps a dialog fresh.  The caller gets to know of it if something else is
shown afterwards. -/
theorem Fresh.set (h : d.Fresh form isFinal draft) (h_names : form.schema.hasNames = true)
    (h_open : d.isOpen = true) {name : Name} (h_has : draft.values.has name = true)
    (value : Value) :
    ∃ d' told, d.set form name value = .ok (d', told) ∧ d'.isOpen = true ∧
      d'.Fresh form isFinal { draft with values := draft.values.put name value } ∧
      (d'.visibility ≠ d.visibility → told = true) := by
  have h_fields (other : Name) : (draft.values.put name value).has other =
      form.schema.namedFields.any fun f => f.appliesTo isFinal && f.name == other := by
    rw [← h.fields other, Record.has_put]
    cases h_eq : name == other with
    | false => rw [Bool.false_or]
    | true => rw [Bool.true_or, Record.has, ← Record.get?_congr h_eq, ← Record.has, h_has]
  have h_set := set_eq h_names (openDraft_eq_ok_iff.2 ⟨h_open, h.holds⟩) name value
  rw [h_has, if_pos rfl] at h_set
  refine ⟨_, _, h_set, h_open, ⟨rfl, h.kind, ?_, h_fields⟩, ?_⟩
  · cases h_dependents :
        (Visibility.Index.ofFields form.schema.namedFields).hasDependents name with
    | true => simp only [if_true, h.kind]
    | false =>
      -- Nothing looks at the field, so what was shown is what is shown.
      simp only [Bool.false_eq_true, if_false]
      rw [h.shows, Visibility.compute_put value isFinal h_dependents]
  · intro h_other
    cases h_dependents :
        (Visibility.Index.ofFields form.schema.namedFields).hasDependents name with
    | true => rfl
    | false => simp [h_dependents] at h_other

/-- A dialog whose fields were all given their values is still fresh. -/
theorem Fresh.setAll (h : d.Fresh form isFinal draft) (h_names : form.schema.hasNames = true)
    {entries : List (Name × Value)} {d' : Dialog} (h_set : d.setAll form entries = .ok d') :
    ∃ draft', d'.Fresh form isFinal draft' := by
  induction entries generalizing d draft with
  | nil =>
    obtain rfl := Except.ok.inj h_set
    exact ⟨draft, h⟩
  | cons e rest ih =>
    obtain ⟨⟨d₁, told⟩, h_first, h_rest⟩ := bind_eq_ok_iff.1 h_set
    obtain ⟨draft₀, h_draft, -⟩ := bind_eq_ok_iff.1 h_first
    have h_open := (openDraft_eq_ok_iff.1 h_draft).1
    have h_working := openDraft_eq_ok_iff.2 ⟨h_open, h.holds⟩
    cases h_has : draft.values.has e.1 with
    | false =>
      -- A field that the draft does not have cannot be given a value.
      rw [set_eq h_names h_working, h_has, if_neg Bool.false_ne_true] at h_first
      exact nomatch h_first
    | true =>
      obtain ⟨d₂, told', h_first', -, h_fresh, -⟩ := h.set h_names h_open h_has e.2
      obtain ⟨rfl, -⟩ := Prod.mk.inj (Except.ok.inj (h_first.symm.trans h_first'))
      exact ih h_fresh h_rest

/-- A commit leaves the dialog as it was, or ends it. -/
theorem step_commit (h_draft : d.openDraft = .ok draft) (b : Book) :
    (d.step form (.commit b)).1 = d ∨
      (d.step form (.commit b)).1 = { d with stage := .committed } := by
  unfold step act commit
  rw [h_draft]
  simp only [bind, Except.bind]
  cases form.complaint (d.candidateOf draft) draft.isFinal with
  | some message => exact .inl rfl
  | none =>
    cases store b draft (form.finished (d.candidateOf draft) draft.isFinal) with
    | error e => exact .inl rfl
    | ok p => exact .inr rfl

/-- What becomes of a draft by one act: it stays as it is, or one of its fields is given a value. -/
def Next (draft draft' : Draft) : Prop :=
  draft' = draft ∨ ∃ name value, draft.values.has name = true ∧
    draft' = { draft with values := draft.values.put name value }

/-- An act keeps a dialog fresh that is open afterwards. -/
theorem Fresh.step (h : d.Fresh form isFinal draft) (h_names : form.schema.hasNames = true)
    (h_open : d.isOpen = true) (a : Act) (h_after : (d.step form a).1.isOpen = true) :
    ∃ draft', (d.step form a).1.Fresh form isFinal draft' ∧ Next draft draft' := by
  have h_draft := openDraft_eq_ok_iff.2 ⟨h_open, h.holds⟩
  cases a with
  | set name value =>
    cases h_has : draft.values.has name with
    | true =>
      obtain ⟨d', told, h_set, -, h_fresh', -⟩ := h.set h_names h_open h_has value
      rw [Dialog.step, act, h_set]
      exact ⟨_, h_fresh', .inr ⟨name, value, h_has, rfl⟩⟩
    | false =>
      have h_set := set_eq h_names h_draft name value
      rw [h_has, if_neg Bool.false_ne_true] at h_set
      rw [Dialog.step, act, h_set]
      exact ⟨draft, h, .inl rfl⟩
  | commit b =>
    rcases step_commit h_draft b with h_step | h_step
    · rw [h_step]
      exact ⟨draft, h, .inl rfl⟩
    · rw [h_step] at h_after
      exact nomatch h_after
  | cancel =>
    rw [Dialog.step, act, cancel, h_draft] at h_after
    exact nomatch h_after
  | close =>
    rw [Dialog.step, act, close, h_open]
    exact ⟨draft, h, .inl rfl⟩

/-- A dialog that is fresh if it is open is so after any act. -/
theorem fresh_step (h_names : form.schema.hasNames = true) (d : Dialog) (a : Act)
    (h : d.isOpen = true → ∃ draft, d.Fresh form isFinal draft) :
    (d.step form a).1.isOpen = true → ∃ draft, (d.step form a).1.Fresh form isFinal draft := by
  intro h_after
  cases h_open : d.isOpen with
  | false =>
    rw [isOpen_step_of_not h_open a] at h_after
    exact nomatch h_after
  | true =>
    obtain ⟨draft, h_fresh⟩ := h h_open
    obtain ⟨draft', h_fresh', -⟩ := h_fresh.step h_names h_open a h_after
    exact ⟨draft', h_fresh'⟩

/-- **What is shown is always what would be worked out from scratch.**  A dialog is opened on any
rule, or on a new one, and then its fields are given values, in whatever order and also where the
dialog has no such field, it is committed in vain, or it ends.  As long as it is open it shows what
the whole draft asks for; the draft has the fields that its kind of rule has, and no others; and
what it collects are the values of the draft that are shown.  Giving a field a value leads to
another dialog of that kind, and the caller gets to know of it whenever something else is shown
afterwards. -/
theorem shows_compute (form : Form) (start d : Dialog) (existing : Option Rule) (index : Int)
    (acts : List Act) (h_names : form.schema.hasNames = true)
    (h_open : start.open form existing index = .ok d) :
    let now := Run.after (step form) d acts
    let isFinal := existing.any Rule.isFinal
    let scratch := fun values => Visibility.compute form.schema.namedFields values isFinal
    now.isOpen = true → ∃ draft, now.draft = some draft ∧ draft.isFinal = isFinal ∧
      now.visibility = scratch draft.values ∧
      (∀ name, draft.values.has name =
        form.schema.namedFields.any fun f => f.appliesTo isFinal && f.name == name) ∧
      now.collect =
        .ok (draft.values.filter fun e => (scratch draft.values).isShown e.1) ∧
      ∀ name value,
        match now.set form name value with
        | .ok (next, told) =>
          draft.values.has name = true ∧
            next.draft = some { draft with values := draft.values.put name value } ∧
            next.visibility = scratch (draft.values.put name value) ∧
            (next.visibility ≠ now.visibility → told = true)
        | .error e => draft.values.has name = false ∧ e = .unknownField name := by
  intro now isFinal scratch h_now
  have h_start : d.isOpen = true → ∃ draft, d.Fresh form isFinal draft :=
    fun _ => fresh_open h_names h_open
  have h_end : now.isOpen = true → ∃ draft, now.Fresh form isFinal draft :=
    Run.inv_after (fun d a h (_ : True) => fresh_step h_names d a h) h_start
      (Run.allowed_of_forall fun _ _ _ => trivial)
  obtain ⟨draft, h_fresh⟩ := h_end h_now
  have h_draft := openDraft_eq_ok_iff.2 ⟨h_now, h_fresh.holds⟩
  refine ⟨draft, h_fresh.holds, h_fresh.kind, h_fresh.shows, h_fresh.fields, ?_,
    fun name value => ?_⟩
  · have h_collect : now.collect = .ok (now.shownValues draft) := by
      rw [collect, h_draft]
      rfl
    rw [h_collect, shownValues, h_fresh.shows]
  · cases h_has : draft.values.has name with
    | true =>
      obtain ⟨next, told, h_set, -, h_next, h_told⟩ := h_fresh.set h_names h_now h_has value
      rw [h_set]
      exact ⟨rfl, h_next.holds, h_next.shows, h_told⟩
    | false =>
      have h_set := set_eq h_names h_draft name value
      rw [h_has, if_neg Bool.false_ne_true] at h_set
      rw [h_set]
      exact ⟨rfl, rfl⟩

/-- A new header rule: its action makes two fields disappear, one field that is set is none of the
dialog, and a commit is refused because there is nothing to match. -/
theorem shows_compute_new_header :
    let form : Form := ⟨Headers.schema, some Headers.validate, some Headers.transform⟩
    let acts : List Act := [.set "action" (.text "DIRECT"), .set "flavour" (.text "sweet"),
      .commit (Book.new []), .set "description" (.text "all of it")]
    form.schema.hasNames = true ∧ ∃ d, ({} : Dialog).open form none (-1) = .ok d ∧
      let now := Run.after (step form) d acts
      now.isOpen = true ∧ ∃ draft, now.draft = some draft ∧
        now.visibility =
          Visibility.compute form.schema.namedFields draft.values (Option.any Rule.isFinal none) := by
  refine ⟨by decide, _, rfl, by decide, ?_⟩
  obtain ⟨draft, h_draft, -, h_shows, -⟩ :=
    shows_compute ⟨Headers.schema, some Headers.validate, some Headers.transform⟩ {} _ none (-1)
      [.set "action" (.text "DIRECT"), .set "flavour" (.text "sweet"), .commit (Book.new []),
        .set "description" (.text "all of it")] (by decide) rfl (by decide)
  exact ⟨draft, h_draft, h_shows⟩

end Dialog

end Rulebook
