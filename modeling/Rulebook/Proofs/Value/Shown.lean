/-
  Rulebook.Proofs.Value.Shown

  Which values there are behind a text.

  A condition on a field compares the value of another field, while a rule is given the text that
  shows the value.  The two agree where it matters: nothing but a text is alike a text
  (`Value.alike_text_iff`), and nothing but a text is shown with a `D` or an `R` in front, because the
  texts of all other values begin in other ways (`Value.eq_text_of_shownOrEmpty`).  The names of the
  actions that fields are shown or hidden for begin with these letters
  (`Value.isAmong_shownOrEmpty`).
-/
import Rulebook.Proofs.Decimal.Characters
import Rulebook.Value.Text

namespace Rulebook.Value

variable {v : Value} {s t : String}

/-! ## Comparing -/

theorem alike_text_iff : v.alike (.text s) = true ↔ v = .text s := by
  cases v <;> simp [alike, alikeScalar, number?]

theorem isAmong_texts_iff :
    v.isAmong [.text s, .text t] = true ↔ v = .text s ∨ v = .text t := by
  rw [isAmong, List.any_cons, List.any_cons, List.any_nil, Bool.or_false, Bool.or_eq_true,
    alike_text_iff, alike_text_iff]

/-! ## Showing -/

/-- A text whose characters are none of one character does not begin with it. -/
theorem head?_ne_of_consists {c : Char} (h : Text.Consists (· ≠ c) s) : s.toList.head? ≠ some c := by
  intro h_head
  exact h c (List.mem_of_mem_head? h_head) rfl

variable {c : Char}

/-- No number has a `D` or an `R` in it. -/
theorem ofNumerals_ne (hc : c ∈ ['D', 'R']) : Text.OfNumerals (· ≠ c) := by
  rcases List.mem_pair.1 hc with rfl | rfl
  · rintro c hc rfl
    revert hc
    decide
  · rintro c hc rfl
    revert hc
    decide

theorem ne_some_of_mem {first : Option Char} (hc : c ∈ ['D', 'R'])
    (h : first ≠ some 'D' ∧ first ≠ some 'R') : first ≠ some c := by
  rcases List.mem_pair.1 hc with rfl | rfl
  · exact h.1
  · exact h.2

/-- Nothing but a text is shown with one of these in front. -/
theorem head?_literal_ne (hc : c ∈ ['D', 'R']) (h : ∀ s, v ≠ .text s) :
    v.literal.toList.head? ≠ some c := by
  cases v with
  | null => exact ne_some_of_mem hc (by decide)
  | bool b => exact ne_some_of_mem hc (by cases b <;> decide)
  | int n => exact head?_ne_of_consists ((ofNumerals_ne hc).toString_int n)
  | float x =>
    have h_nan : Text.Consists (· ≠ c) shownSpecial.nan := by
      rcases List.mem_pair.1 hc with rfl | rfl <;> decide
    have h_infinity : Text.Consists (· ≠ c) shownSpecial.infinity := by
      rcases List.mem_pair.1 hc with rfl | rfl <;> decide
    exact head?_ne_of_consists (Decimal.consists_text (ofNumerals_ne hc) h_nan h_infinity x)
  | text s => exact absurd rfl (h s)
  | list items =>
    have h_bracket : (literal (.list items)).toList.head? = some '[' := by
      rw [literal, String.toList_append, String.toList_append]
      rfl
    rw [h_bracket]
    exact ne_some_of_mem hc (by decide)
  | mapping entries =>
    have h_brace : (literal (.mapping entries)).toList.head? = some '\x7b' := by
      rw [literal, String.toList_append, String.toList_append]
      rfl
    rw [h_brace]
    exact ne_some_of_mem hc (by decide)
  | foreign => exact ne_some_of_mem hc (by decide)

/-- So a text with one of these in front is shown for itself only. -/
theorem eq_text_of_shownOrEmpty (h : v.shownOrEmpty = s) (h_first : s.toList.head? = some c)
    (hc : c ∈ ['D', 'R']) : v = .text s := by
  have h_given : v.truth = true := by
    by_contra h_not
    rw [shownOrEmpty, if_neg h_not] at h
    rw [← h] at h_first
    exact absurd h_first (Option.some_ne_none c).symm
  rw [shownOrEmpty, if_pos h_given] at h
  cases v with
  | text t => rw [← h, shown_text]
  | null | bool | int | float | list | mapping | foreign =>
    rw [← h] at h_first
    exact absurd h_first (head?_literal_ne hc fun s => by simp)

/-- Among such texts is the text that shows a value exactly if the value itself is. -/
theorem isAmong_shownOrEmpty {c' : Char} (hs : s.toList.head? = some c) (hc : c ∈ ['D', 'R'])
    (ht : t.toList.head? = some c') (hc' : c' ∈ ['D', 'R']) (v : Value) :
    (text v.shownOrEmpty).isAmong [.text s, .text t] = v.isAmong [.text s, .text t] := by
  rw [Bool.eq_iff_iff, isAmong_texts_iff, isAmong_texts_iff, text.injEq, text.injEq]
  refine or_congr ⟨fun h => eq_text_of_shownOrEmpty h hs hc, fun h => ?_⟩
    ⟨fun h => eq_text_of_shownOrEmpty h ht hc', fun h => ?_⟩
  · rw [h, shownOrEmpty_text]
  · rw [h, shownOrEmpty_text]

end Rulebook.Value
