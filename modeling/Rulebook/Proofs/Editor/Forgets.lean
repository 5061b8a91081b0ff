/-
  Rulebook.Proofs.Editor.Forgets

  What becomes of the attributes of a rule that the editor does not know, if the rule is given other
  values.

  The rule that takes its place is made of the draft of a dialog and of nothing else, and a draft
  has the fields of the schema that its kind of rule has.  So whatever the new rule has beside the
  six attributes of every rule is under the names of such fields, and what the old one had under
  any other name is lost (`update_forgets`).
-/
import Rulebook.Proofs.Dialog.Checked
import Rulebook.Proofs.Dialog.Fresh
import Rulebook.Proofs.Editor.Arranging
import Rulebook.Proofs.Editor.Keeps

namespace Rulebook

open Arrangement (at?)

/-! ## The names that a dialog knows -/

namespace Schema

/-- Whether a name is the one of a field. -/
def names (s : Schema) (name : Name) : Bool :=
  s.namedFields.any fun f => f.name == name

/-- Whether a name is the one of a field that a kind of rule has. -/
def knows (s : Schema) (isFinal : Bool) (name : Name) : Bool :=
  s.namedFields.any fun f => f.appliesTo isFinal && f.name == name

theorem names_of_knows {s : Schema} {isFinal : Bool} {name other : Name}
    (h : s.knows isFinal name = true) (h_same : (name == other) = true) : s.names other = true := by
  obtain ⟨f, hf, h_field⟩ := List.any_eq_true.1 h
  obtain ⟨-, h_name⟩ := Bool.and_eq_true_iff.1 h_field
  exact List.any_eq_true.2 ⟨f, hf, BEq.trans h_name h_same⟩

end Schema

namespace Dialog

/-- What the candidate of a draft has beside its attributes is under the names of fields, if the
dialog was opened on a rule and filled. -/
theorem knows_of_mem_extra {form : Form} {existing : Option Rule} {index : Int}
    {entries : Entries} {opened filled : Dialog} {draft : Draft} {e : Name × Value}
    (h_open : ({} : Dialog).open form existing index = .ok opened)
    (h_fill : opened.setAll form entries = .ok filled) (h_draft : filled.openDraft = .ok draft)
    (he : e ∈ (filled.candidateOf draft).extra) :
    form.schema.knows (existing.any Rule.isFinal) e.1 = true := by
  have h_names := hasNames_of_open h_open
  obtain ⟨first, h_first⟩ := fresh_open h_names h_open
  obtain ⟨last, h_last⟩ := h_first.setAll h_names h_fill
  have h_same : draft = last :=
    Option.some.inj ((openDraft_eq_ok_iff.1 h_draft).2.symm.trans h_last.holds)
  have h_value : e ∈ last.values := h_same ▸ mem_extra_candidateOf he
  -- A value of the draft is under a name that the draft has.
  have h_has : last.values.has e.1 = true := by
    rw [Record.has_eq_any_keys]
    exact List.any_eq_true.2 ⟨e.1, List.mem_map_of_mem h_value, BEq.rfl⟩
  rw [h_last.fields] at h_has
  exact h_has

end Dialog

/-! ## Giving a rule other values -/

namespace Editor

variable {e e' : Editor} {events : List Event} {t : Ticket} {i : Int}

/-- A rule that is given other values is replaced by one that has nothing beside its attributes but
what is under the names of fields. -/
theorem replaced_of_update {values : Value} (h_trims : e.form.OnlyTrims)
    (h : e.begin (.update i values) = (e', events, .saving t)) :
    ∃ old new, at? e.rules i = some old ∧ e'.rules = e.rules.set i.toNat new ∧
      ∀ entry ∈ new.extra, e.form.schema.knows old.isFinal entry.1 = true := by
  obtain ⟨old, h_at, h_filled⟩ := commits_update h
  obtain ⟨h0, -⟩ := Arrangement.toNat_lt_of_at? h_at
  obtain ⟨entries, opened, filled, draft, new, -, h_open, h_fill, h_commits⟩ := h_filled
  have h_aims : filled.Aims i := Dialog.aims_setAll (Dialog.aims_open h_open nofun) h_fill
  have h_index : draft.index = i := h_aims.of_openDraft h_commits.opened
  have h_old : draft.isNew = false := by
    rw [Draft.isNew, decide_eq_false_iff_not, h_index]
    omega
  obtain ⟨previous, h_replace, -⟩ := h_commits.replace h_old
  obtain ⟨-, -, h_book⟩ := Book.replace_eq_ok_iff.1 h_replace
  refine ⟨old, new, h_at, ?_, fun entry h_entry => ?_⟩
  · rw [rules, ← h_index]
    exact congrArg Book.rules h_book
  · rw [h_commits.rule, h_trims.extra_finished] at h_entry
    exact Dialog.knows_of_mem_extra h_open h_fill h_commits.opened h_entry

end Editor

namespace Desk

/-- **What a rule keeps of what the editor does not know.**  A rule at any position is given other
values, in an editor of any schema whose form changes nothing but blanks, and the answer is that
this was saved.  Then another rule has taken its place, and whatever that one has beside the
attributes of every rule is under the name of a field that its kind of rule has.  What the rule had
under a name that no field has is still there exactly if it had nothing there. -/
theorem update_forgets (d : Desk) (i : Int) (values : Value) (fails : Bool)
    (h_trims : d.editor.form.OnlyTrims)
    (h_ok : Says (d.command (.update i values) fails).2 .ok) :
    ∃ old new, at? d.editor.rules i = some old ∧
      (d.command (.update i values) fails).1.editor.rules = d.editor.rules.set i.toNat new ∧
      (∀ entry ∈ new.extra, d.editor.form.schema.knows old.isFinal entry.1 = true) ∧
      ∀ k, d.editor.form.schema.names k = false →
        (new.extra.get? k = old.extra.get? k ↔ old.extra.get? k = none) := by
  obtain ⟨e', events, t, h_begin, h_rules⟩ := saving_of_says h_ok
  obtain ⟨old, new, h_at, h_set, h_known⟩ := Editor.replaced_of_update h_trims h_begin
  refine ⟨old, new, h_at, h_rules.trans h_set, h_known, fun k h_unknown => ?_⟩
  have h_none : new.extra.get? k = none := by
    cases h_get : new.extra.get? k with
    | none => rfl
    | some v =>
      obtain ⟨key, h_mem, h_same⟩ := Record.mem_of_get? h_get
      have h_names := Schema.names_of_knows (h_known _ h_mem) h_same
      rw [h_unknown] at h_names
      exact nomatch h_names
  rw [h_none]
  exact eq_comm

/-- A rule with a tag is given another value to match. -/
theorem update_forgets_of_tagged :
    let form : Form := ⟨Headers.schema, some Headers.validate, some Headers.transform⟩
    let tagged : Rule := { Rule.onValue "a" with extra := [("tag", .text "x")] }
    let d := Desk.new {} form none [tagged] {}
    let values : Value := .mapping [("match_value", .text "b")]
    d.editor.form.OnlyTrims ∧ Says (d.command (.update 0 values) false).2 .ok ∧
      ∃ old new, at? d.editor.rules 0 = some old ∧
        (d.command (.update 0 values) false).1.editor.rules = d.editor.rules.set 0 new ∧
        (∀ entry ∈ new.extra, d.editor.form.schema.knows old.isFinal entry.1 = true) ∧
        ∀ k, d.editor.form.schema.names k = false →
          (new.extra.get? k = old.extra.get? k ↔ old.extra.get? k = none) := by
  intro form tagged d values
  have h_trims : d.editor.form.OnlyTrims := .inr rfl
  have h_ok : Says (d.command (.update 0 values) false).2 .ok := by decide +kernel
  exact ⟨h_trims, h_ok, update_forgets d 0 values false h_trims h_ok⟩

/-- No field has the name of the tag, and it is gone. -/
theorem tag_lost_of_update :
    let form : Form := ⟨Headers.schema, some Headers.validate, some Headers.transform⟩
    let tagged : Rule := { Rule.onValue "a" with extra := [("tag", .text "x")] }
    let d := Desk.new {} form none [tagged] {}
    let ended := d.command (.update 0 (.mapping [("match_value", .text "b")])) false
    form.schema.names "tag" = false ∧ tagged.extra.get? "tag" = some (.text "x") ∧
      at? d.editor.rules 0 = some tagged ∧ Says ended.2 .ok ∧
      at? ended.1.editor.rules 0 = some (.onValue "b") ∧
      (Rule.onValue "b").extra.get? "tag" = none := by
  intro form tagged d ended
  exact ⟨by decide, by decide, by decide, by decide +kernel, by decide +kernel, rfl⟩

end Desk

end Rulebook
