/-
  Rulebook.Proofs.Book.Stored

  What a payload says about the sentinel.  A stored rule is a mapping, and it is the sentinel if
  its type is `FINAL`; so whether a stored list ends with its sentinel can be told from the
  payload alone, without reading it back.

  Main statement: `storesSentinel_toValue_iff`, the payload of a book tells of its list.
-/
import Rulebook.Proofs.Book.Sentinel
import Rulebook.Proofs.Rule.Wire

namespace Rulebook

/-- Whether the entries of a stored rule are those of a sentinel. -/
def isStoredSentinel (es : Entries) : Bool :=
  es.get? "type" = some Rule.finalType

@[simp] theorem isStoredSentinel_toEntries (r : Rule) :
    isStoredSentinel r.toEntries = r.isFinal := by
  rw [Bool.eq_iff_iff, Rule.isFinal_iff_ruleType, isStoredSentinel, Rule.get?_toEntries_type]
  simp

/-- A payload is a list of mappings under a key.  Exactly one of them has the type of the
sentinel; it is the last one, and its flag is set. -/
def StoresSentinel (payload : Value) : Prop :=
  ∃ (key : Name) (items : List Entries),
    payload = .mapping [(key, .list (items.map Value.mapping))] ∧
      items.countP isStoredSentinel = 1 ∧
      ∃ es ∈ items.getLast?, isStoredSentinel es = true ∧ es.get? "enabled" = some (.bool true)

/-- The payload of a book ends with its sentinel exactly if its list does. -/
theorem storesSentinel_toValue_iff {b : Book} {key : Name} :
    StoresSentinel (b.toValue key) ↔ EndsInSentinel b.rules := by
  have hvalue : b.toValue key =
      .mapping [(key, .list ((b.rules.map Rule.toEntries).map Value.mapping))] := by
    rw [List.map_map]
    rfl
  have hcount : (b.rules.map Rule.toEntries).countP isStoredSentinel =
      b.rules.countP Rule.isFinal := by
    rw [List.countP_map]
    exact List.countP_congr fun r _ => by simp
  constructor
  · rintro ⟨key', items, hpayload, h_once, es, hes, hsentinel, -⟩
    -- A payload has one reading only, so these mappings are those of the rules.
    rw [hvalue] at hpayload
    simp only [Value.mapping.injEq, List.cons.injEq, Prod.mk.injEq, Value.list.injEq,
      and_true] at hpayload
    obtain rfl : b.rules.map Rule.toEntries = items :=
      List.map_injective_iff.2 (fun _ _ h => Value.mapping.inj h) hpayload.2
    obtain ⟨r, hr, rfl⟩ := Option.map_eq_some_iff.1 (List.getLast?_map ▸ hes)
    refine endsInSentinel_iff.2 ⟨hcount ▸ h_once, Arrangement.endsFixed_iff.2 ⟨r, hr, ?_⟩⟩
    rw [← isStoredSentinel_toEntries, hsentinel]
  · intro h
    obtain ⟨r, hr, hf, he⟩ := h.last
    refine ⟨key, b.rules.map Rule.toEntries, hvalue, hcount.trans h.once, r.toEntries, ?_, ?_, ?_⟩
    · rw [List.getLast?_map, hr]
      rfl
    · rw [isStoredSentinel_toEntries, hf]
    · rw [Rule.get?_toEntries_enabled, he]

end Rulebook
