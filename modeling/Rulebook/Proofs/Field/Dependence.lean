/-
  Rulebook.Proofs.Field.Dependence

  What is shown of a draft depends on the fields that conditions look at, and on nothing else; the
  index of dependents knows all of these.  A field that nothing depends on can therefore be given
  any value without working out again what is shown.

  Several fields may have one name.  The last of them decides whether the name is shown
  (`Visibility.get?_compute`), but each of them makes it a dependent of all that it looks at.

  Main statements: `Visibility.Index.hasDependents_ofFields` and
  `Visibility.Index.contains_dependents_ofFields`, what the index knows, `Visibility.compute_put`,
  what it is good for, and `Visibility.compute_off_dependents`, that it knows enough.
-/
import Rulebook.Field.Visibility
import Rulebook.Proofs.Record
import Mathlib.Logic.Basic

namespace Rulebook

variable {fields : List (Field Name)} {draft draft' : Entries}

/-! ## What a field looks at -/

/-- A field sees of a draft only the values that its conditions look at. -/
theorem Field.isShown_congr {f : Field Name} (isFinal : Bool)
    (h : ∀ on ∈ f.references, draft'.get? on = draft.get? on) :
    f.isShown draft' isFinal = f.isShown draft isFinal := by
  unfold isShown
  congr 1
  rw [Bool.eq_iff_iff, List.all_eq_true, List.all_eq_true]
  refine forall₂_congr fun c hc => ?_
  rw [h c.on (List.mem_map_of_mem hc)]

namespace Visibility

theorem compute_congr (isFinal : Bool)
    (h : ∀ f ∈ fields, ∀ on ∈ f.references, draft'.get? on = draft.get? on) :
    compute fields draft' isFinal = compute fields draft isFinal := by
  have h_map : (fields.map fun f => (f.name, f.isShown draft' isFinal)) =
      fields.map fun f => (f.name, f.isShown draft isFinal) :=
    List.map_congr_left fun f hf => by rw [Field.isShown_congr isFinal (h f hf)]
  rw [compute, compute, h_map]

/-! ## What the index knows -/

namespace Index

/-- What each dependence brings about in an index, the dependences of all fields bring about in the
empty one. -/
theorem ofFields_eq_any {q : Index → Bool} {p : Name → Name → Bool}
    (h : ∀ index on name, q (add on name index) = (q index || p on name))
    (fields : List (Field Name)) :
    q (ofFields fields) = (q [] || fields.any fun f => f.references.any fun on => p on f.name) :=
  Record.foldl_eq_any
    (fun index f => Record.foldl_eq_any (fun index on => h index on f.name) index f.references) []
    fields

/-- A field has dependents exactly if some condition of some field looks at it. -/
theorem hasDependents_ofFields (fields : List (Field Name)) (key : Name) :
    (ofFields fields).hasDependents key =
      fields.any fun f => f.references.any (· == key) := by
  have h_add (index : Index) (on name : Name) :
      (add on name index).hasDependents key = (index.hasDependents key || on == key) := by
    rw [hasDependents, add, Record.has_put, Bool.or_comm, hasDependents]
  exact ofFields_eq_any (q := fun index => index.hasDependents key) (p := fun on _ => on == key)
    h_add fields

theorem contains_dependents_add (on name key other : Name) (index : Index) :
    ((add on name index).dependents key).contains other =
      ((index.dependents key).contains other || (on == key && name == other)) := by
  cases h_key : on == key with
  | false =>
    have h_same : (add on name index).get? key = index.get? key :=
      Record.get?_put_of_ne h_key _ index
    rw [dependents, h_same, Bool.false_and, Bool.or_false, dependents]
  | true =>
    have h_names : (index.get? on).getD [] = index.dependents key := by
      rw [dependents, Record.get?_congr h_key]
    rw [add, h_names, dependents, ← Record.get?_congr h_key, Record.get?_put_self, Option.getD_some,
      Bool.true_and]
    cases h_has : (index.dependents key).contains name with
    | false =>
      rw [if_neg Bool.false_ne_true, List.contains_eq_any_beq, List.any_append, List.any_cons,
        List.any_nil, Bool.or_false, ← List.contains_eq_any_beq, BEq.comm]
    | true =>
      rw [if_pos rfl]
      cases h_other : name == other with
      | false => rw [Bool.or_false]
      | true => rw [Bool.or_true, ← h_has, List.contains_congr h_other]

/-- **The dependents of a field are the names of all fields that look at it**, in whatever
spelling. -/
theorem contains_dependents_ofFields (fields : List (Field Name)) (key other : Name) :
    ((ofFields fields).dependents key).contains other =
      fields.any fun f => f.references.any fun on => on == key && f.name == other :=
  ofFields_eq_any (q := fun index => (index.dependents key).contains other)
    (p := fun on name => on == key && name == other)
    (fun index on name => contains_dependents_add on name key other index) fields

end Index

/-! ## Two drafts -/

/-- Two drafts that differ in one field at most, which either of them may lack. -/
def AgreeOff (name : Name) (draft draft' : Entries) : Prop :=
  ∀ key, (name == key) = false → draft'.get? key = draft.get? key

/-- Where a field does not look at the one in which two drafts differ, it sees the same in both. -/
theorem AgreeOff.get?_eq {name : Name} (h : AgreeOff name draft draft') {references : List Name}
    (h_looks : references.any (· == name) = false) {on : Name} (h_on : on ∈ references) :
    draft'.get? on = draft.get? on := by
  have h_ne : ¬ (on == name) = true := List.any_eq_false.1 h_looks on h_on
  refine h on ?_
  rw [BEq.comm]
  exact Bool.eq_false_iff.2 h_ne

/-- What is shown of two drafts is the same if nothing depends on the field in which they differ. -/
theorem compute_of_agreeOff {name : Name} (h : AgreeOff name draft draft') (isFinal : Bool)
    (h_none : (Index.ofFields fields).hasDependents name = false) :
    compute fields draft' isFinal = compute fields draft isFinal := by
  rw [Index.hasDependents_ofFields] at h_none
  refine compute_congr isFinal fun f hf _ h_on => ?_
  exact h.get?_eq (Bool.eq_false_iff.2 (List.any_eq_false.1 h_none f hf)) h_on

/-- A field that nothing depends on may be given any value: what is shown remains. -/
theorem compute_put {name : Name} (value : Value) (isFinal : Bool)
    (h : (Index.ofFields fields).hasDependents name = false) :
    compute fields (draft.put name value) isFinal = compute fields draft isFinal :=
  compute_of_agreeOff (fun _ h_key => Record.get?_put_of_ne h_key value draft) isFinal h

/-- So may several such fields. -/
theorem compute_putAll {entries : List (Name × Value)} (isFinal : Bool)
    (h : ∀ e ∈ entries, (Index.ofFields fields).hasDependents e.1 = false) :
    compute fields (draft.putAll entries) isFinal = compute fields draft isFinal := by
  induction entries generalizing draft with
  | nil => rfl
  | cons e rest ih =>
    rw [Record.putAll_cons, ih fun f hf => h f (List.mem_cons_of_mem e hf),
      compute_put e.2 isFinal (h e List.mem_cons_self)]

/-- Of several fields of one name the last one decides whether it is shown. -/
theorem get?_compute (fields : List (Field Name)) (draft : Entries) (isFinal : Bool) (key : Name) :
    (compute fields draft isFinal).get? key =
      (fields.filter fun f => f.name == key).getLast?.map fun f => f.isShown draft isFinal := by
  rw [compute, Record.get?_ofList, List.filter_map, List.getLast?_map, Option.map_map]
  rfl

/-- **The index of dependents is complete.**  What is shown of two drafts that differ in one field
at most is the same under every name that is none of its dependents; and all of it is the same if
the field has no dependents. -/
theorem compute_off_dependents (fields : List (Field Name)) (isFinal : Bool) {name : Name}
    {draft draft' : Entries} (h : AgreeOff name draft draft') :
    (∀ key, ((Index.ofFields fields).dependents name).contains key = false →
      (compute fields draft' isFinal).get? key = (compute fields draft isFinal).get? key) ∧
    ((Index.ofFields fields).hasDependents name = false →
      compute fields draft' isFinal = compute fields draft isFinal) := by
  constructor
  · intro key h_key
    rw [Index.contains_dependents_ofFields] at h_key
    rw [get?_compute, get?_compute]
    -- Only the last field of that name counts, and it is none of those that look at the field.
    cases h_last : (fields.filter fun f => f.name == key).getLast? with
    | none => rfl
    | some f =>
      obtain ⟨hf, h_name⟩ := List.mem_filter.1 (List.mem_of_getLast? h_last)
      have h_not := Bool.eq_false_iff.2 (List.any_eq_false.1 h_key f hf)
      simp only [h_name, Bool.and_true] at h_not
      rw [Option.map_some, Option.map_some,
        Field.isShown_congr isFinal fun _ h_on => h.get?_eq h_not h_on]
  · exact compute_of_agreeOff h isFinal

/-- Two fields of one name, one that looks at itself and one that looks at none.  The drafts differ
in the mode, which the second one lacks, and then in a field that nothing depends on. -/
theorem compute_off_dependents_of_mode :
    let looking (name on : Name) : Field Name :=
      { name, conditions := [{ on, showWhen := some [.text "on"] }] }
    let fields := [looking "a" "mode", { name := "a" }, looking "mode" "mode", looking "b" "gone"]
    let draft : Entries := [("mode", .text "off"), ("b", .text "x")]
    let lacking : Entries := [("b", .text "x")]
    let other : Entries := [("b", .null), ("mode", .text "off")]
    AgreeOff "mode" draft lacking ∧
      ((Index.ofFields fields).dependents "mode").contains "b" = false ∧
      (compute fields lacking false).get? "b" = (compute fields draft false).get? "b" ∧
      (compute fields lacking false).get? "mode" ≠ (compute fields draft false).get? "mode" ∧
      AgreeOff "b" draft other ∧ (Index.ofFields fields).hasDependents "b" = false ∧
      compute fields other false = compute fields draft false := by
  intro looking fields draft lacking other
  have h_mode : AgreeOff "mode" draft lacking := fun key h => by
    simp only [draft, lacking, Record.get?_cons, h, Bool.false_eq_true, if_false]
  have h_b : AgreeOff "b" draft other := fun key h => by
    simp only [draft, other, Record.get?_cons, Record.get?_nil, h, Bool.false_eq_true, if_false]
  refine ⟨h_mode, by decide, ?_, by decide, h_b, by decide, ?_⟩
  · exact (compute_off_dependents fields false h_mode).1 "b" (by decide)
  · exact (compute_off_dependents fields false h_b).2 (by decide)

end Visibility

end Rulebook
