/-
  Rulebook.Proofs.Rule.Storable

  Rules that a file can keep: what is stored of them can be read again and is the same rule.  All
  rules that were read are of that kind, and the editor makes no others of them.
-/
import Rulebook.Proofs.Record
import Rulebook.Proofs.Rule.Wire
import Rulebook.Schema.Headers

namespace Rulebook

namespace Rule

/-- Whether a list can hold a value beside the attributes of a rule. -/
def Fits (v : Value) : Prop :=
  v.depth ≤ maxExtraDepth

instance (v : Value) : Decidable (Fits v) :=
  inferInstanceAs (Decidable (v.depth ≤ maxExtraDepth))

/-- Whether a rule can be stored and read again, and is held then. -/
structure Storable (r : Rule) : Prop where
  plain : r.Plain
  holdable : r.isHoldable = true

variable {r : Rule}

theorem isHoldable_iff : r.isHoldable = true ↔ ∀ e ∈ r.extra, Fits e.2 := by
  rw [isHoldable, decide_eq_true_iff, Value.entriesDepth_le_iff]
  rfl

/-- What a rule that was read came with has to fit, and nothing else. -/
theorem storable_ofEntries {es : Entries} (h : ∀ e ∈ (ofEntries es).extra, Fits e.2) :
    (ofEntries es).Storable :=
  ⟨plain_ofEntries es, isHoldable_iff.2 h⟩

/-- All that a storable rule has fits beside the attributes of a rule. -/
theorem Storable.fits_of_get? (h : r.Storable) {name : Name} {v : Value}
    (h_get : r.get? name = some v) : Fits v := by
  have fits_text {v : Value} (h : ∃ s, v = .text s) : Fits v := by
    obtain ⟨s, rfl⟩ := h
    exact Nat.zero_le _
  unfold get? at h_get
  split at h_get
  · exact Option.some.inj h_get ▸ fits_text h.plain.ruleType
  · exact Option.some.inj h_get ▸ fits_text h.plain.matchValue
  · exact Option.some.inj h_get ▸ fits_text h.plain.action
  · exact Option.some.inj h_get ▸ fits_text h.plain.rewriteValue
  · exact Option.some.inj h_get ▸ fits_text h.plain.description
  · obtain ⟨b, hb⟩ := h.plain.enabled
    rw [hb] at h_get
    exact Option.some.inj h_get ▸ Nat.zero_le _
  · obtain ⟨key, h_mem, -⟩ := Record.mem_of_get? h_get
    exact isHoldable_iff.1 h.holdable _ h_mem

theorem storable_fallback (description : String) : (fallback (.text description)).Storable :=
  ⟨⟨⟨_, rfl⟩, ⟨_, rfl⟩, ⟨_, rfl⟩, ⟨_, rfl⟩, ⟨_, rfl⟩, ⟨_, rfl⟩, nofun⟩, rfl⟩

theorem Storable.withFlag (h : r.Storable) (flag : Bool) : (r.withFlag (.bool flag)).Storable := by
  obtain ⟨h_plain, h_holdable⟩ := h
  unfold Rule.withFlag
  split
  · exact ⟨⟨h_plain.ruleType, h_plain.matchValue, h_plain.action, h_plain.rewriteValue,
      h_plain.description, ⟨flag, rfl⟩, h_plain.extra⟩, h_holdable⟩
  · exact ⟨h_plain, h_holdable⟩

theorem Plain.trimRule (h : r.Plain) : (Headers.trimRule r).Plain := by
  have text_trimmed {v : Value} (h : ∃ s, v = .text s) : ∃ s, Headers.trimmed v = .text s := by
    obtain ⟨s, rfl⟩ := h
    exact ⟨_, rfl⟩
  exact ⟨h.ruleType, text_trimmed h.matchValue, h.action, text_trimmed h.rewriteValue,
    text_trimmed h.description, h.enabled, h.extra⟩

theorem Storable.trimRule (h : r.Storable) : (Headers.trimRule r).Storable :=
  ⟨h.plain.trimRule, h.holdable⟩

end Rule

end Rulebook
