/-
  Rulebook.Proofs.Book.Row

  The two operations that change a rule in its place: setting its flag and replacing it.

  What they come to follows from the rule that stands in the place, and they change that place only
  (`Book.toggle_eq`, `Book.replace_eq`).  Their undos give the place back the rule that stood there,
  whatever has become of the rest of the list in the meantime (`Undo.Restores`).
-/
import Rulebook.Proofs.Book.Undo

namespace Rulebook

namespace Arrangement

variable {α : Type _} {xs : List α} {i j : Int}

theorem at?_set_self {x : α} (h : at? xs i = some x) (y : α) :
    at? (xs.set i.toNat y) i = some y := by
  obtain ⟨h0, hlt⟩ := toNat_lt_of_at? h
  exact at?_eq_some_iff.2 ⟨h0, List.getElem?_set_self hlt⟩

theorem at?_set_of_ne (h0 : 0 ≤ i) (hne : j ≠ i) (y : α) : at? (xs.set i.toNat y) j = at? xs j := by
  unfold at?
  by_cases hj : 0 ≤ j
  · -- Two different positions that are not negative are two different numbers.
    have hne : i.toNat ≠ j.toNat := by omega
    rw [if_pos hj, if_pos hj, List.getElem?_set_ne hne]
  · rw [if_neg hj, if_neg hj]

end Arrangement

open Arrangement (at?)

namespace Book

variable {b : Book} {i j : Int} {r previous : Rule}

/-- The book with another rule at a position. -/
def put (b : Book) (i : Int) (r : Rule) : Book :=
  b.withRules (b.rules.set i.toNat r)

theorem at?_put_self (h : at? b.rules i = some previous) (r : Rule) :
    at? (b.put i r).rules i = some r :=
  Arrangement.at?_set_self h r

theorem at?_put_of_ne (h0 : 0 ≤ i) (hne : j ≠ i) (r : Rule) :
    at? (b.put i r).rules j = at? b.rules j :=
  Arrangement.at?_set_of_ne h0 hne r

theorem length_put (b : Book) (i : Int) (r : Rule) :
    (b.put i r).rules.length = b.rules.length :=
  List.length_set

/-- What setting the flag of a rule comes to. -/
theorem toggle_eq (b : Book) (i : Int) (value : Value) :
    b.toggle i value =
      match at? b.rules i with
      | none => .error (.outOfRange i)
      | some r =>
        if r.isFinal then .error (.sentinel i .toggle)
        else .ok (b.put i (r.withFlag value), r.enabled) := by
  unfold toggle get
  cases at? b.rules i with
  | none => rfl
  | some r => rfl

/-- What replacing a rule comes to. -/
theorem replace_eq (b : Book) (i : Int) (r : Rule) :
    b.replace i r =
      match at? b.rules i with
      | none => .error (.outOfRange i)
      | some previous =>
        if previous.kind = r.kind then .ok (b.put i r, previous)
        else .error (.otherKind i previous.kind r.kind) := by
  unfold replace get
  cases at? b.rules i with
  | none => rfl
  | some previous => rfl

end Book

namespace Undo

variable {i : Int} {r previous : Rule}

/-- An undo puts a rule back in its place wherever another one has taken it. -/
def Restores (u : Undo) (i : Int) (r previous : Rule) : Prop :=
  ∀ b : Book, at? b.rules i = some r → u.run b = (b.put i previous, .ok ())

theorem restores_toggle (h_normal : previous.isFinal = false) (value : Value) :
    (toggle i previous.enabled).Restores i (previous.withFlag value) previous := by
  intro b hb
  have h_flag : (previous.withFlag value).isFinal = false := by
    rw [Rule.isFinal_withFlag, h_normal]
  simp only [run, Book.toggle_eq, hb, h_flag, Bool.false_eq_true, if_false, step,
    Rule.withFlag_withFlag, Rule.withFlag_enabled]

theorem restores_replace (h_kind : previous.kind = r.kind) :
    (replace i previous).Restores i r previous := by
  intro b hb
  simp only [run, Book.replace_eq, hb, h_kind, if_true, step]

end Undo

end Rulebook
