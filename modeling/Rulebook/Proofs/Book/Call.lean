/-
  Rulebook.Proofs.Book.Call

  What a book refuses, and what it says then.

  An operation is refused when a position is not in the list, when the rule at a position is of the
  other kind, or when it would add, delete or switch the sentinel; `Refuses` lists the cases, each
  with its error.  Moving a rule is never refused.  A move that cannot be made is declined instead
  (`Declines`), and every move is that has a position outside the list.  Whatever is refused or
  declined leaves the book as it was.

  Main statement: `Book.refuses_exactly`.
-/
import Rulebook.Proofs.Arrangement.Drop
import Rulebook.Proofs.Book.Step

namespace Rulebook.Book

open Arrangement (at? endsFixed landing? Rejects)

/-- An operation on a book, with what it is given. -/
inductive Call where
  | get (i : Int)
  | insert (r : Rule) (placement : Option Placement)
  | insertAt (i : Int) (r : Rule)
  | replace (i : Int) (r : Rule)
  | delete (i : Int)
  | moveUp (i : Int)
  | moveDown (i : Int)
  | relocate (source target : Int) (after : Bool)
  | toggle (i : Int) (value : Value)
deriving DecidableEq

/-- What an operation answers when it is not refused. -/
inductive Answer where
  /-- the rule that was there, or was asked for -/
  | rule (r : Rule)
  /-- where a rule is now -/
  | position (i : Nat)
  /-- the flag that a rule had -/
  | flag (value : Value)
  | done
  /-- a move cannot be made -/
  | declined
deriving DecidableEq

/-- A move that was made, or declined. -/
def orDeclined (b : Book) (moved : Option (Book × Answer)) : Book × Answer :=
  moved.getD (b, .declined)

/-- Carries out an operation. -/
def call (b : Book) : Call → Except Error (Book × Answer)
  | .get i => (b.get i).map fun r => (b, .rule r)
  | .insert r placement => (b.insert r placement).map fun p => (p.1, .position p.2)
  | .insertAt i r => (b.insertAt i r).map fun b' => (b', .done)
  | .replace i r => (b.replace i r).map fun p => (p.1, .rule p.2)
  | .delete i => (b.delete i).map fun p => (p.1, .rule p.2)
  | .moveUp i => .ok (b.orDeclined ((b.moveUp? i).map fun b' => (b', .done)))
  | .moveDown i => .ok (b.orDeclined ((b.moveDown? i).map fun b' => (b', .done)))
  | .relocate source target after =>
    .ok (b.orDeclined ((b.relocate? source target after).map fun p => (p.1, .position p.2)))
  | .toggle i value => (b.toggle i value).map fun p => (p.1, .flag p.2)

/-- The book after an operation, and the answer; it is the same book if the operation is refused. -/
def step (b : Book) (c : Call) : Book × Except Error Answer :=
  match b.call c with
  | .ok (b', a) => (b', .ok a)
  | .error e => (b, .error e)

variable {b b' : Book} {i : Int} {r : Rule} {e : Error} {c : Call} {a : Answer}

theorem step_eq_of_ok (h : b.call c = .ok (b', a)) : b.step c = (b', .ok a) := by
  rw [step, h]

theorem step_eq_of_error (h : b.call c = .error e) : b.step c = (b, .error e) := by
  rw [step, h]

/-- What is answered says what has become of the operation. -/
theorem step_cases (b : Book) (c : Call) :
    (∃ b' a, b.call c = .ok (b', a) ∧ b.step c = (b', .ok a)) ∨
      ∃ e, b.call c = .error e ∧ b.step c = (b, .error e) := by
  cases h : b.call c with
  | ok p => exact .inl ⟨p.1, p.2, rfl, step_eq_of_ok h⟩
  | error e => exact .inr ⟨e, rfl, step_eq_of_error h⟩

/-! ## Positions -/

/-- Whether there is a rule at a position. -/
def Within (b : Book) (i : Int) : Prop :=
  0 ≤ i ∧ i < b.size

theorem within_iff : b.Within i ↔ ∃ r, at? b.rules i = some r := by
  rw [Within, size, ← Arrangement.inRange_iff]
  constructor
  · exact Arrangement.at?_eq_some_of_inRange
  · rintro ⟨r, hr⟩
    exact Arrangement.inRange_of_at? hr

/-! ## When each operation is refused -/

theorem get_eq_error_iff : b.get i = .error e ↔ ¬ b.Within i ∧ e = .outOfRange i := by
  rw [within_iff, get]
  cases h : at? b.rules i with
  | some r => simp
  | none => simp [eq_comm]

/-- What goes on with the rule at a position is refused if there is none, or goes wrong with it. -/
theorem get_bind_eq_error_iff {β : Type} {f : Rule → Except Error β} :
    (b.get i >>= f) = .error e ↔
      (¬ b.Within i ∧ e = .outOfRange i) ∨ ∃ r, at? b.rules i = some r ∧ f r = .error e := by
  rw [bind_eq_error_iff, get_eq_error_iff]
  simp only [get_eq_ok_iff]

/-- An operation that is refused under a condition says why, and is refused as it is otherwise. -/
theorem ite_error_eq_error_iff {β : Type} {p : Prop} [Decidable p] {e' : Error}
    {x : Except Error β} :
    (if p then .error e' else x) = .error e ↔ (p ∧ e = e') ∨ (¬ p ∧ x = .error e) := by
  by_cases hp : p <;> simp [hp, eq_comm]

theorem insert_eq_error_iff {placement : Option Placement} :
    b.insert r placement = .error e ↔ r.isFinal = true ∧ e = .sentinel (-1) .insert := by
  rw [insert, ite_error_eq_error_iff]
  exact or_iff_left fun h => nomatch h.2

theorem insertAt_eq_error_iff :
    b.insertAt i r = .error e ↔
      (r.isFinal = true ∧ e = .sentinel i .insert) ∨
        (r.isFinal = false ∧ ¬ (0 ≤ i ∧ i ≤ b.size) ∧ e = .outOfRange i) := by
  have h_range : (if 0 ≤ i && i ≤ b.rules.length then .ok (b.withRules (b.rules.insertIdx i.toNat r))
      else (.error (.outOfRange i) : Except Error Book)) = .error e ↔
        ¬ (0 ≤ i ∧ i ≤ b.size) ∧ e = .outOfRange i := by
    rw [← ite_not, ite_error_eq_error_iff, Bool.and_eq_true, decide_eq_true_iff, decide_eq_true_iff]
    exact or_iff_left fun h => nomatch h.2
  rw [insertAt, ite_error_eq_error_iff, h_range, Bool.not_eq_true]

theorem replace_eq_error_iff :
    b.replace i r = .error e ↔
      (¬ b.Within i ∧ e = .outOfRange i) ∨
        ∃ stored, at? b.rules i = some stored ∧ stored.kind ≠ r.kind ∧
          e = .otherKind i stored.kind r.kind := by
  have h_kind (stored : Rule) :
      (if stored.kind = r.kind then return (b.withRules (b.rules.set i.toNat r), stored)
        else throw (.otherKind i stored.kind r.kind) : Except Error (Book × Rule)) = .error e ↔
        stored.kind ≠ r.kind ∧ e = .otherKind i stored.kind r.kind := by
    rw [← ite_not]
    exact ite_error_eq_error_iff.trans (or_iff_left fun h => nomatch h.2)
  rw [replace, get_bind_eq_error_iff]
  simp only [h_kind]

theorem delete_eq_error_iff :
    b.delete i = .error e ↔
      (¬ b.Within i ∧ e = .outOfRange i) ∨
        ∃ r, at? b.rules i = some r ∧ r.isFinal = true ∧ e = .sentinel i .delete := by
  rw [delete, get_bind_eq_error_iff]
  refine or_congr_right (exists_congr fun r => and_congr_right fun _ => ?_)
  exact ite_error_eq_error_iff.trans (or_iff_left fun h => nomatch h.2)

theorem toggle_eq_error_iff {value : Value} :
    b.toggle i value = .error e ↔
      (¬ b.Within i ∧ e = .outOfRange i) ∨
        ∃ r, at? b.rules i = some r ∧ r.isFinal = true ∧ e = .sentinel i .toggle := by
  rw [toggle, get_bind_eq_error_iff]
  refine or_congr_right (exists_congr fun r => and_congr_right fun _ => ?_)
  exact ite_error_eq_error_iff.trans (or_iff_left fun h => nomatch h.2)

/-! ## Moves -/

/-- A move is declined exactly if nothing comes of it, and then the book is the same. -/
theorem orDeclined_eq_declined_iff {β : Type} {moved : Option β} {f : β → Book × Answer}
    (h_answer : ∀ x, (f x).2 ≠ .declined) :
    b.orDeclined (moved.map f) = (b', .declined) ↔ moved = none ∧ b' = b := by
  cases moved with
  | none => simp [orDeclined, eq_comm]
  | some x =>
    refine iff_of_false (fun h => ?_) (fun h => nomatch h.1)
    exact h_answer x (congrArg Prod.snd h)

theorem moveUp?_eq_none_iff :
    b.moveUp? i = none ↔ ¬ (0 < i ∧ ∃ r, at? b.rules i = some r ∧ r.isFinal = false) := by
  rw [← Arrangement.canMoveUp_iff, moveUp?]
  split <;> simp [*]

theorem moveDown?_eq_none_iff :
    b.moveDown? i = none ↔
      ¬ ((∃ r, at? b.rules i = some r ∧ r.isFinal = false) ∧
        i + (if endsFixed Rule.isFinal b.rules then 2 else 1) < b.size) := by
  rw [size, ← Arrangement.canMoveDown_iff, moveDown?]
  split <;> simp [*]

/-- A drop is declined if it is rejected, or if the rule lands where it was. -/
theorem relocate?_eq_none_iff_landing {source target : Int} {after : Bool} :
    b.relocate? source target after = none ↔
      Rejects Rule.isFinal b.rules source target ∨
        ∃ k, landing? Rule.isFinal b.rules source target after = some k ∧ (k : Int) = source := by
  have h_rejects : landing? Rule.isFinal b.rules source target after = none ↔
      Rejects Rule.isFinal b.rules source target := Arrangement.landing?_eq_none_iff
  rw [← h_rejects, relocate?]
  cases landing? Rule.isFinal b.rules source target after with
  | none => simp
  | some k => simp

/-! ## All operations -/

/-- Which operations a book refuses, and what it says. -/
inductive Refuses (b : Book) : Call → Error → Prop where
  | get {i : Int} (h : ¬ b.Within i) : Refuses b (.get i) (.outOfRange i)
  | insert {r : Rule} {placement : Option Placement} (h : r.isFinal = true) :
    Refuses b (.insert r placement) (.sentinel (-1) .insert)
  | insertAt_sentinel {i : Int} {r : Rule} (h : r.isFinal = true) :
    Refuses b (.insertAt i r) (.sentinel i .insert)
  | insertAt {i : Int} {r : Rule} (h_normal : r.isFinal = false) (h : ¬ (0 ≤ i ∧ i ≤ b.size)) :
    Refuses b (.insertAt i r) (.outOfRange i)
  | replace {i : Int} {r : Rule} (h : ¬ b.Within i) : Refuses b (.replace i r) (.outOfRange i)
  | replace_kind {i : Int} {r stored : Rule} (h : at? b.rules i = some stored)
    (h_kind : stored.kind ≠ r.kind) :
    Refuses b (.replace i r) (.otherKind i stored.kind r.kind)
  | delete {i : Int} (h : ¬ b.Within i) : Refuses b (.delete i) (.outOfRange i)
  | delete_sentinel {i : Int} {r : Rule} (h : at? b.rules i = some r) (h_final : r.isFinal = true) :
    Refuses b (.delete i) (.sentinel i .delete)
  | toggle {i : Int} {value : Value} (h : ¬ b.Within i) :
    Refuses b (.toggle i value) (.outOfRange i)
  | toggle_sentinel {i : Int} {value : Value} {r : Rule} (h : at? b.rules i = some r)
    (h_final : r.isFinal = true) : Refuses b (.toggle i value) (.sentinel i .toggle)

/-- Which moves a book declines: of a rule that is not there or is the sentinel, beyond either end
or past a sentinel at the end, and a drop that is rejected or leaves the rule where it was. -/
inductive Declines (b : Book) : Call → Prop where
  | moveUp {i : Int} (h : ¬ (0 < i ∧ ∃ r, at? b.rules i = some r ∧ r.isFinal = false)) :
    Declines b (.moveUp i)
  | moveDown {i : Int}
    (h : ¬ ((∃ r, at? b.rules i = some r ∧ r.isFinal = false) ∧
      i + (if endsFixed Rule.isFinal b.rules then 2 else 1) < b.size)) :
    Declines b (.moveDown i)
  | relocate {source target : Int} {after : Bool}
    (h : Rejects Rule.isFinal b.rules source target ∨
      ∃ k, landing? Rule.isFinal b.rules source target after = some k ∧ (k : Int) = source) :
    Declines b (.relocate source target after)

/-- An operation is refused in the cases that are listed, and with the errors that are. -/
theorem call_eq_error_iff : b.call c = .error e ↔ b.Refuses c e := by
  cases c with
  | get i =>
    rw [call, map_eq_error_iff, get_eq_error_iff]
    constructor
    · rintro ⟨h, rfl⟩
      exact .get h
    · rintro ⟨⟩
      exact ⟨‹_›, rfl⟩
  | insert r placement =>
    rw [call, map_eq_error_iff, insert_eq_error_iff]
    constructor
    · rintro ⟨h, rfl⟩
      exact .insert h
    · rintro ⟨⟩
      exact ⟨‹_›, rfl⟩
  | insertAt i r =>
    rw [call, map_eq_error_iff, insertAt_eq_error_iff]
    constructor
    · rintro (⟨h, rfl⟩ | ⟨h_normal, h, rfl⟩)
      · exact .insertAt_sentinel h
      · exact .insertAt h_normal h
    · rintro ⟨⟩
      · exact .inl ⟨‹_›, rfl⟩
      · exact .inr ⟨‹_›, ‹_›, rfl⟩
  | replace i r =>
    rw [call, map_eq_error_iff, replace_eq_error_iff]
    constructor
    · rintro (⟨h, rfl⟩ | ⟨stored, h, h_kind, rfl⟩)
      · exact .replace h
      · exact .replace_kind h h_kind
    · rintro ⟨⟩
      · exact .inl ⟨‹_›, rfl⟩
      · exact .inr ⟨_, ‹_›, ‹_›, rfl⟩
  | delete i =>
    rw [call, map_eq_error_iff, delete_eq_error_iff]
    constructor
    · rintro (⟨h, rfl⟩ | ⟨r, h, h_final, rfl⟩)
      · exact .delete h
      · exact .delete_sentinel h h_final
    · rintro ⟨⟩
      · exact .inl ⟨‹_›, rfl⟩
      · exact .inr ⟨_, ‹_›, ‹_›, rfl⟩
  | toggle i value =>
    rw [call, map_eq_error_iff, toggle_eq_error_iff]
    constructor
    · rintro (⟨h, rfl⟩ | ⟨r, h, h_final, rfl⟩)
      · exact .toggle h
      · exact .toggle_sentinel h h_final
    · rintro ⟨⟩
      · exact .inl ⟨‹_›, rfl⟩
      · exact .inr ⟨_, ‹_›, ‹_›, rfl⟩
  | moveUp | moveDown | relocate => exact iff_of_false nofun nofun

/-- An operation that is not a move is never declined. -/
theorem ne_declined_of_map {β : Type} {x : Except Error β} {f : β → Book × Answer}
    (h_answer : ∀ y, (f y).2 ≠ .declined) : x.map f ≠ .ok (b', .declined) := by
  intro h
  obtain ⟨y, -, hy⟩ := map_eq_ok_iff.1 h
  exact h_answer y (congrArg Prod.snd hy)

/-- A move is declined in the cases that are listed, and then the book is the same. -/
theorem call_eq_declined_iff : b.call c = .ok (b', .declined) ↔ b.Declines c ∧ b' = b := by
  cases c with
  | get | insert | insertAt | replace | delete | toggle =>
    exact iff_of_false (ne_declined_of_map nofun) (fun h => nomatch h.1)
  | moveUp i =>
    rw [call, Except.ok.injEq, orDeclined_eq_declined_iff nofun, moveUp?_eq_none_iff]
    refine and_congr_left fun _ => ⟨.moveUp, ?_⟩
    rintro ⟨⟩
    assumption
  | moveDown i =>
    rw [call, Except.ok.injEq, orDeclined_eq_declined_iff nofun, moveDown?_eq_none_iff]
    refine and_congr_left fun _ => ⟨.moveDown, ?_⟩
    rintro ⟨⟩
    assumption
  | relocate source target after =>
    rw [call, Except.ok.injEq, orDeclined_eq_declined_iff nofun, relocate?_eq_none_iff_landing]
    refine and_congr_left fun _ => ⟨.relocate, ?_⟩
    rintro ⟨⟩
    assumption

/-- The positions that a move is given; what is not a move has none. -/
def Call.movePositions : Call → List Int
  | .moveUp i | .moveDown i => [i]
  | .relocate source target _ => [source, target]
  | _ => []

/-- A move that is given a position outside the list is declined. -/
theorem declines_of_outside (hi : i ∈ c.movePositions) (h_outside : ¬ b.Within i) : b.Declines c := by
  have h_range : Arrangement.inRange b.rules i = false := by
    rw [← Bool.not_eq_true, Arrangement.inRange_iff]
    exact h_outside
  cases c with
  | get | insert | insertAt | replace | delete | toggle => exact absurd hi List.not_mem_nil
  | moveUp j =>
    obtain rfl := List.mem_singleton.1 hi
    refine .moveUp fun h => h_outside ?_
    obtain ⟨r, hr, -⟩ := h.2
    exact within_iff.2 ⟨r, hr⟩
  | moveDown j =>
    obtain rfl := List.mem_singleton.1 hi
    refine .moveDown fun h => h_outside ?_
    obtain ⟨r, hr, -⟩ := h.1
    exact within_iff.2 ⟨r, hr⟩
  | relocate source target after =>
    refine .relocate (.inl ?_)
    rcases List.mem_cons.1 hi with rfl | hi
    · exact .inr (.inl h_range)
    · obtain rfl := List.mem_singleton.1 hi
      exact .inr (.inr (.inl h_range))

/-- **What a book refuses and declines, and that it is the same book afterwards.**  Whatever rules a
book has, with sentinels anywhere, and whatever integers an operation is given as positions, it is
refused in the cases that are listed, each with its error, and in no others.  A move is never
refused.  It is declined in the cases that are listed, and so it is whenever one of its positions is
outside the list; nothing else is declined.  An operation that is refused or declined leaves the book
as it was. -/
theorem refuses_exactly (b : Book) (c : Call) :
    (∀ e, (b.step c).2 = .error e ↔ b.Refuses c e) ∧
      ((b.step c).2 = .ok .declined ↔ b.Declines c) ∧
      (c.movePositions ≠ [] → ∀ e, (b.step c).2 ≠ .error e) ∧
      (∀ i ∈ c.movePositions, ¬ b.Within i → (b.step c).2 = .ok .declined) ∧
      ((∃ e, (b.step c).2 = .error e) ∨ (b.step c).2 = .ok .declined → (b.step c).1 = b) := by
  have h_error (e : Error) : (b.step c).2 = .error e ↔ b.Refuses c e := by
    rw [← call_eq_error_iff]
    rcases step_cases b c with ⟨b', a, h_call, h_step⟩ | ⟨e', h_call, h_step⟩
    · rw [h_call, h_step]
      exact iff_of_false nofun nofun
    · rw [h_call, h_step, Except.error.injEq, Except.error.injEq]
  have h_declined : (b.step c).2 = .ok .declined → b.Declines c ∧ (b.step c).1 = b := by
    intro h
    rcases step_cases b c with ⟨b', a, h_call, h_step⟩ | ⟨e', h_call, h_step⟩
    · rw [h_step] at h ⊢
      obtain rfl := Except.ok.inj h
      exact call_eq_declined_iff.1 h_call
    · rw [h_step] at h
      exact nomatch h
  have h_declines (h : b.Declines c) : (b.step c).2 = .ok .declined := by
    rw [step_eq_of_ok (call_eq_declined_iff.2 ⟨h, rfl⟩)]
  refine ⟨h_error, ⟨fun h => (h_declined h).1, h_declines⟩, ?_, ?_, ?_⟩
  · intro h_move e h
    cases (h_error e).1 h <;> exact h_move rfl
  · intro i hi h_outside
    exact h_declines (declines_of_outside hi h_outside)
  · rintro (⟨e, h⟩ | h)
    · rw [step_eq_of_error (call_eq_error_iff.2 ((h_error e).1 h))]
    · exact (h_declined h).2

end Rulebook.Book
