/-
  Rulebook.Proofs.Book.Normal

  What putting a raw list in order makes of it.

  The normal rules stay, in the order in which they are, and one sentinel comes behind them: the
  first one of the raw list or, where there is none, one that nobody wrote (`Ending`).  The list that
  comes of it is of a form that is easy to tell (`endsInSentinel_iff_concat`), and a list of that
  form is left as it is; so nothing is gained by putting a list in order again.

  Main statement: `normalise_orders`.
-/
import Rulebook.Proofs.Book.Sentinel

namespace Rulebook

variable {description : Value} {rules : List Rule}

/-- A list ends in its only sentinel exactly if that comes behind normal rules. -/
theorem endsInSentinel_iff_concat :
    EndsInSentinel rules ↔ ∃ front last, rules = front ++ [last] ∧
      (∀ r ∈ front, r.isFinal = false) ∧ last.isFinal = true := by
  constructor
  · rintro ⟨h_once, last, h_last, h_final, -⟩
    obtain ⟨front, rfl⟩ := List.getLast?_eq_some_iff.1 h_last
    -- The last rule is the one that is counted, so there is none to be counted in front of it.
    rw [List.countP_append, List.countP_singleton, if_pos h_final, Nat.add_eq_right] at h_once
    have h_front := List.countP_eq_zero.1 h_once
    exact ⟨front, last, rfl, fun r hr => Bool.eq_false_iff.2 (h_front r hr), h_final⟩
  · rintro ⟨front, last, rfl, h_front, h_final⟩
    have h_none : front.countP Rule.isFinal = 0 :=
      List.countP_eq_zero.2 fun r hr => Bool.eq_false_iff.1 (h_front r hr)
    refine endsInSentinel_iff.2 ⟨?_, ?_⟩
    · rw [List.countP_append, h_none, List.countP_singleton, if_pos h_final]
    · exact Arrangement.endsFixed_iff.2 ⟨last, List.getLast?_concat, h_final⟩

namespace Book

/-! ## The rule at the end -/

/-- The sentinel that a raw list is made to end with. -/
inductive Ending (description : Value) (rules : List Rule) : Rule → Prop where
  /-- it is the first one of the list -/
  | first {before after : List Rule} {s : Rule} (h_rules : rules = before ++ s :: after)
      (h_before : ∀ r ∈ before, r.isFinal = false) (h_final : s.isFinal = true) :
      Ending description rules s
  /-- the list has none, so it is a new one -/
  | new {s : Rule} (h_none : ∀ r ∈ rules, r.isFinal = false) (h_final : s.isFinal = true)
      (h_enabled : s.enabled = .bool true) (h_action : s.action = .text "DIRECT")
      (h_description : s.description = description)
      (h_bare : s.matchValue = .text "" ∧ s.rewriteValue = .text "" ∧ s.extra = []) :
      Ending description rules s

theorem Ending.isFinal {s : Rule} (h : Ending description rules s) : s.isFinal = true := by
  cases h with
  | first _ _ h_final => exact h_final
  | new _ h_final => exact h_final

/-- What is put at the end of a raw list. -/
theorem ending_getD (description : Value) (rules : List Rule) :
    Ending description rules ((rules.find? Rule.isFinal).getD (Rule.fallback description)) := by
  cases h_find : rules.find? Rule.isFinal with
  | none =>
    have h_none (r : Rule) (hr : r ∈ rules) : r.isFinal = false :=
      Bool.eq_false_iff.2 (List.find?_eq_none.1 h_find r hr)
    exact .new h_none rfl rfl rfl rfl ⟨rfl, rfl, rfl⟩
  | some s =>
    obtain ⟨h_final, before, after, h_rules, h_before⟩ := List.find?_eq_some_iff_append.1 h_find
    exact .first h_rules (fun r hr => by simpa using h_before r hr) h_final

/-! ## A list that is in order -/

/-- A list that ends in its only sentinel is left as it is. -/
theorem withSentinel_of_endsInSentinel (h : EndsInSentinel rules) :
    withSentinel description rules = rules := by
  obtain ⟨front, last, rfl, h_front, h_final⟩ := endsInSentinel_iff_concat.1 h
  have h_filter : front.filter (fun r => !r.isFinal) = front :=
    List.filter_eq_self.2 fun r hr => by rw [h_front r hr]; rfl
  have h_find : front.find? Rule.isFinal = none :=
    List.find?_eq_none.2 fun r hr => Bool.eq_false_iff.1 (h_front r hr)
  rw [withSentinel, List.filter_append, h_filter, List.find?_append, h_find,
    List.find?_singleton, if_pos h_final, List.filter_singleton, h_final]
  simp

/-- Whatever is left as it is was in order. -/
theorem withSentinel_eq_self_iff : withSentinel description rules = rules ↔ EndsInSentinel rules := by
  constructor
  · intro h
    rw [← h]
    exact endsInSentinel_withSentinel description rules
  · exact withSentinel_of_endsInSentinel

/-- Putting a list in order does nothing to its normal rules. -/
theorem filter_normalise (hasFinal : Bool) (description : Value) (rules : List Rule) :
    (normalise hasFinal description rules).filter (fun r => !r.isFinal) =
      rules.filter fun r => !r.isFinal := by
  unfold normalise
  split
  · have h_last := (ending_getD description rules).isFinal
    rw [withSentinel, List.filter_append, List.filter_filter]
    simp [h_last]
  · rfl

/-- **What putting a raw list in order makes of it.**  The normal rules of any list come first, in
their order, and then one sentinel: the first one of the list, or a new one with the description that
is given if the list has none.  To put the list in order once more, with whatever description,
changes nothing.  A list is left as it is exactly if its only sentinel is the last rule.  Where no
sentinel is asked for, any list is left as it is. -/
theorem normalise_orders (description : Value) (rules : List Rule) :
    let ordered := normalise true description rules
    (∃ last, Ending description rules last ∧
        ordered = rules.filter (fun r => !r.isFinal) ++ [last]) ∧
      ordered.countP Rule.isFinal = 1 ∧
      (∀ other, normalise true other ordered = ordered) ∧
      (ordered = rules ↔ ∃ front last, rules = front ++ [last] ∧
        (∀ r ∈ front, r.isFinal = false) ∧ last.isFinal = true) ∧
      normalise false description rules = rules := by
  intro ordered
  have h_order : EndsInSentinel ordered := endsInSentinel_withSentinel description rules
  refine ⟨⟨_, ending_getD description rules, rfl⟩, h_order.once, fun other => ?_, ?_, rfl⟩
  · exact withSentinel_of_endsInSentinel h_order
  · exact withSentinel_eq_self_iff.trans endsInSentinel_iff_concat

/-- Two sentinels in wrong places: the second one is lost. -/
example :
    normalise true "unused" [.fallback "first", .onValue "a", .fallback "second", .onValue "b"] =
      [.onValue "a", .onValue "b", .fallback "first"] := by
  decide

end Book

end Rulebook
