/-
  Rulebook.Proofs.Book.Overshoot

  An undo on a book that has changed in the meantime.  The undo knows positions only; another rule
  may stand there now, and the undo may be refused.  Whatever comes of it, the book is edited as by
  any other operation (`Undo.edits_run`), with one exception: in a list that has become shorter, a
  rule that is put back by its position may land behind the last one, which is the sentinel
  (`Undo.run_of_overshoots`).
-/
import Mathlib.Logic.Relation
import Rulebook.Proofs.Book.Sentinel

namespace Rulebook

open Arrangement (at?)

/-! ## Edits in a row -/

/-- One book becomes another by edits. -/
def Edits : Book → Book → Prop :=
  Relation.ReflTransGen fun b b' => ∃ u, Edit b b' u

namespace Edits

variable {b b' : Book}

theorem single {u : Undo} (h : Edit b b' u) : Edits b b' :=
  Relation.ReflTransGen.single ⟨u, h⟩

theorem countP_eq (h : Edits b b') :
    b'.rules.countP Rule.isFinal = b.rules.countP Rule.isFinal := by
  induction h with
  | refl => rfl
  | tail _ h ih =>
    obtain ⟨u, hu⟩ := h
    rw [hu.countP_eq, ih]

theorem inOrder (h : Edits b b') (hb : b.InOrder) : b'.InOrder := by
  induction h with
  | refl => exact hb
  | tail _ h ih =>
    obtain ⟨u, hu⟩ := h
    exact hu.inOrder ih

end Edits

/-! ## Putting a rule behind the last one -/

/-- The book with a rule behind the last one. -/
def Book.behind (b : Book) (r : Rule) : Book :=
  b.withRules (b.rules ++ [r])

theorem Book.insertAt_length {b : Book} {i : Int} {r : Rule} (hr : r.isFinal = false)
    (hi : i = b.rules.length) : b.insertAt i r = .ok (b.behind r) := by
  refine insertAt_eq_ok_iff.2 ⟨hr, by omega, ?_⟩
  rw [hi, Int.toNat_natCast, List.insertIdx_length_self, behind]

/-- A list with a normal rule behind the last one does not end in the sentinel. -/
theorem Book.not_endsInSentinel_behind {b : Book} {r : Rule} (hr : r.isFinal = false) :
    ¬ EndsInSentinel (b.behind r).rules := by
  intro h
  obtain ⟨last, hlast, hf, -⟩ := h.last
  obtain rfl : r = last := by
    rw [behind, rules_withRules, List.getLast?_concat] at hlast
    exact Option.some.inj hlast
  exact absurd hf (by rw [hr]; exact Bool.false_ne_true)

namespace Undo

variable {u : Undo} {b : Book}

/-- Whether an undo puts a rule behind the last one. -/
def Overshoots (u : Undo) (b : Book) : Prop :=
  match u with
  | .insertAt i r => r.isFinal = false ∧ i = b.rules.length
  | .carry landed source =>
    (∃ r ∈ at? b.rules landed, r.isFinal = false) ∧ source + 1 = b.rules.length
  | _ => False

instance (u : Undo) (b : Book) : Decidable (u.Overshoots b) :=
  match u with
  | .insertAt i r => inferInstanceAs (Decidable (r.isFinal = false ∧ i = b.rules.length))
  | .carry landed source =>
    inferInstanceAs (Decidable
      ((∃ r ∈ at? b.rules landed, r.isFinal = false) ∧ source + 1 = b.rules.length))
  | .delete _ | .replace .. | .moveUp _ | .moveDown _ | .toggle .. => .isFalse id

/-- A step that may be refused edits the book if it does so when it is not refused. -/
theorem edits_step {α : Type} {outcome : Except Book.Error α} {next : α → Book}
    (h : ∀ a, outcome = .ok a → Edits b (next a)) : Edits b (step b outcome next).1 := by
  cases outcome with
  | error e => exact .refl
  | ok a => exact h a rfl

/-- An undo that does not put a rule behind the last one edits the book. -/
theorem edits_run (h : ¬ u.Overshoots b) : Edits b (u.run b).1 := by
  cases u with
  | delete i => exact edits_step fun _ hp => .single (.delete hp)
  | replace i r => exact edits_step fun _ hp => .single (.replace hp)
  | toggle i flag => exact edits_step fun _ hp => .single (.toggle hp)
  | insertAt i r =>
    refine edits_step fun b' hb => .single (.insertAt hb ?_)
    -- The position is one of the list or the one behind it, and the latter would overshoot.
    obtain ⟨hr, hi, -⟩ := Book.insertAt_eq_ok_iff.1 hb
    have hne : i ≠ b.rules.length := fun hi => h ⟨hr, hi⟩
    omega
  | moveUp i =>
    simp only [run]
    cases hm : b.moveUp? i with
    | none => exact .refl
    | some b' => exact .single (.moveUp hm)
  | moveDown i =>
    simp only [run]
    cases hm : b.moveDown? i with
    | none => exact .refl
    | some b' => exact .single (.moveDown hm)
  | carry landed source =>
    simp only [run]
    cases hd : b.delete landed with
    | error e => exact .refl
    | ok p =>
      -- Here the position is one of the list without the rule, which is one shorter.
      obtain ⟨b', r⟩ := p
      refine (Edits.single (.delete hd)).trans ?_
      refine edits_step fun b'' hi => .single (.insertAt hi ?_)
      obtain ⟨hr, hf, rfl⟩ := Book.delete_eq_ok_iff.1 hd
      obtain ⟨-, hsource, -⟩ := Book.insertAt_eq_ok_iff.1 hi
      have hne : source + 1 ≠ b.rules.length := fun hi => h ⟨⟨r, hr, hf⟩, hi⟩
      obtain ⟨-, hlt⟩ := Arrangement.toNat_lt_of_at? hr
      rw [Book.rules_withRules, List.length_eraseIdx_of_lt hlt] at hsource ⊢
      omega

/-- An undo that puts a rule behind the last one does nothing else, but that it may have taken the
rule from elsewhere. -/
theorem run_of_overshoots (h : u.Overshoots b) :
    ∃ b' r, Edits b b' ∧ r.isFinal = false ∧ u.run b = (b'.behind r, .ok ()) := by
  cases u with
  | insertAt i r =>
    obtain ⟨hr, hi⟩ := h
    refine ⟨b, r, .refl, hr, ?_⟩
    simp only [run, step, Book.insertAt_length hr hi, id]
  | carry landed source =>
    obtain ⟨⟨r, hr, hf⟩, hsource⟩ := h
    have hd := Book.delete_eq_ok_iff.2 ⟨hr, hf, rfl⟩
    obtain ⟨-, hlt⟩ := Arrangement.toNat_lt_of_at? hr
    have hlength : source = (b.withRules (b.rules.eraseIdx landed.toNat)).rules.length := by
      rw [Book.rules_withRules, List.length_eraseIdx_of_lt hlt]
      omega
    refine ⟨_, r, .single (.delete hd), hf, ?_⟩
    simp only [run, step, hd, Book.insertAt_length hf hlength, id]
  | delete i => exact h.elim
  | replace i r => exact h.elim
  | moveUp i => exact h.elim
  | moveDown i => exact h.elim
  | toggle i flag => exact h.elim

/-- An undo leaves the number of sentinels as it is. -/
theorem countP_run (u : Undo) (b : Book) :
    (u.run b).1.rules.countP Rule.isFinal = b.rules.countP Rule.isFinal := by
  by_cases h : u.Overshoots b
  · obtain ⟨b', r, hb, hr, h_run⟩ := run_of_overshoots h
    rw [h_run, Book.behind, Book.rules_withRules, List.countP_append, List.countP_singleton, hr,
      hb.countP_eq]
    rfl
  · exact (edits_run h).countP_eq

end Undo

end Rulebook
