/-
  Rulebook.Proofs.Saving

  The accounts of a saver: how many saves were begun, how many are under way, and what was told after
  each of them.

  Changes are started and saves are ended in any order, a storage keeps a list or not or fails with
  an error of its own, and an undo may be refused.  A docket is a saver on which every save that was
  begun has a number; it says which saves have ended, and with what.  What one act can do to a docket
  is said once (`Docket.turn_step`): the saves are as they were, or one more is under way, or one of
  them has ended and that was told.  The accounts hold after every run (`Docket.accounts`), because
  every act keeps them (`Docket.Balanced`).
-/
import Rulebook.Saving
import Mathlib.Data.List.Perm.Basic
import Mathlib.Data.List.Induction

namespace Rulebook

/-! ## One change and one end -/

namespace Saver

variable {ε υ : Type}

/-- What is told after a save, if an event is that. -/
def told? : Event → Option Bool
  | .afterSave saved => some saved
  | _ => none

/-- Whether a change begins no save: it is refused, or changes nothing. -/
def Declines (change : Mutation ε υ) (b : Book) : Prop :=
  (∃ error, (change b).2 = .error error) ∨ (change b).2 = .ok .nothing

/-- What starting a change comes to. -/
inductive Starts (s : Saver) (change : Mutation ε υ) : Saver × Start ε υ → Prop where
  /-- there is nothing to save -/
  | idle {outcome : Start ε υ} (h_change : Declines change s.book ∨ s.key.name? = none)
      (h_outcome : ∀ payload recovery, outcome ≠ .saving payload recovery) :
      Starts s change ({ s with book := (change s.book).1 }, outcome)
  /-- the list that it leaves is being saved -/
  | saving {name : Name} {recovery : Recovery υ} (h_change : ¬ Declines change s.book)
      (h_key : s.key.name? = some name) :
      Starts s change ({ s with book := (change s.book).1, inFlight := s.inFlight + 1 },
        .saving ((change s.book).1.toValue name) recovery)

/-- A change that neither is refused nor changes nothing is saved, if there is a name for it. -/
theorem starts_startSave (s : Saver) {change : Mutation ε υ} (recovery : Recovery υ)
    (h : ¬ Declines change s.book) :
    Starts s change (s.startSave (change s.book).1 recovery) := by
  unfold startSave launch
  cases h_key : s.key.name? with
  | none => exact .idle (.inr h_key) nofun
  | some name => exact .saving h h_key

/-- **What starting a change comes to.** -/
theorem starts_start (s : Saver) (change : Mutation ε υ) : Starts s change (s.start change) := by
  have h_save (recovery : Recovery υ) (h : ¬ Declines change s.book) :=
    starts_startSave s recovery h
  unfold start
  unfold Declines at h_save
  cases h_made : change s.book with
  | mk book outcome =>
    rw [h_made] at h_save
    have h_book : book = (change s.book).1 := by rw [h_made]
    cases outcome with
    | error error =>
      rw [h_book]
      exact .idle (.inl (.inl ⟨error, by rw [h_made]⟩)) nofun
    | ok made =>
      cases made with
      | nothing =>
        rw [h_book]
        exact .idle (.inl (.inr (by rw [h_made]))) nofun
      | undoable undo => exact h_save (.undo undo) nofun
      | bySnapshot => exact h_save (.snapshot s.book.rules) nofun

/-- To draw the list is to tell nothing more. -/
theorem filterMap_told? (s : Saver) (saved : Bool) :
    (Event.afterSave saved :: s.render).filterMap told? = [saved] := by
  unfold render
  split <;> rfl

/-- **What ending a save comes to.**  One save less is under way, and it is told once whether it has
succeeded, also if its change cannot be undone. -/
theorem told_finish (undo : υ → Book → Book × Except ε Unit) (s : Saver) (recovery : Recovery υ)
    (saved : Bool) :
    (s.finish undo recovery saved).1.inFlight = s.inFlight - 1 ∧
      (s.finish undo recovery saved).2.1.filterMap told? = [saved] := by
  unfold finish
  cases saved with
  | true => exact ⟨rfl, filterMap_told? _ true⟩
  | false =>
    rw [if_neg Bool.false_ne_true]
    dsimp only
    split
    · exact ⟨rfl, rfl⟩
    · refine ⟨rfl, ?_⟩
      rw [List.filterMap_append, filterMap_told?]
      rfl

end Saver

/-! ## Dockets -/

/-- What a storage makes of a list that it is given. -/
inductive Verdict (δ : Type) where
  /-- it answers whether it has kept the list -/
  | answered (kept : Bool)
  /-- it fails with an error of its own -/
  | failed (error : δ)
deriving DecidableEq, Repr

/-- Whether a save has succeeded: a storage that fails has not kept the list. -/
def Verdict.saved {δ : Type} : Verdict δ → Bool
  | .answered kept => kept
  | .failed _ => false

/-- A saver, and what is known of its saves. -/
structure Docket (υ δ : Type) where
  saver : Saver
  /-- the saves that are under way with their numbers, the last one first -/
  pending : List (Nat × Recovery υ) := []
  /-- how many saves were begun -/
  begun : Nat := 0
  /-- the saves that have ended, in the order of their ends -/
  ended : List (Nat × Verdict δ) := []
  /-- what was told after saves -/
  told : List Bool := []

namespace Docket

open Saver (Declines)

variable {ε υ δ : Type}

/-- What can be done to a docket. -/
inductive Act (ε υ δ : Type) where
  /-- makes a change and begins to save it -/
  | change (mutation : Mutation ε υ)
  /-- ends one of the saves that are under way -/
  | finish (k : Nat) (verdict : Verdict δ)
  /-- somebody else changes the book -/
  | elsewhere (book : Book)

/-- Does one thing. -/
def step (undo : υ → Book → Book × Except ε Unit) (d : Docket υ δ) : Act ε υ δ → Docket υ δ
  | .change mutation =>
    match d.saver.start mutation with
    | (saver, .saving _ recovery) =>
      { d with saver, pending := (d.begun, recovery) :: d.pending, begun := d.begun + 1 }
    | (saver, _) => { d with saver }
  | .finish k verdict =>
    match d.pending[k]? with
    | none => d
    | some (n, recovery) =>
      let (saver, events, _) := d.saver.finish undo recovery verdict.saved
      { d with
        saver, pending := d.pending.eraseIdx k, ended := d.ended ++ [(n, verdict)]
        told := d.told ++ events.filterMap Saver.told? }
  | .elsewhere book => { d with saver := { d.saver with book } }

variable {undo : υ → Book → Book × Except ε Unit} {d : Docket υ δ}

/-- What an act can do to a docket. -/
inductive Turn (d : Docket υ δ) : Act ε υ δ → Docket υ δ → Prop where
  /-- there is nothing to save -/
  | declined {change : Mutation ε υ} {saver : Saver}
      (h_change : Declines change d.saver.book ∨ d.saver.key.name? = none)
      (h_inFlight : saver.inFlight = d.saver.inFlight) : Turn d (.change change) { d with saver }
  /-- a save is begun -/
  | begun {change : Mutation ε υ} {saver : Saver} {recovery : Recovery υ}
      (h_change : ¬ Declines change d.saver.book)
      (h_inFlight : saver.inFlight = d.saver.inFlight + 1) :
      Turn d (.change change)
        { d with saver, pending := (d.begun, recovery) :: d.pending, begun := d.begun + 1 }
  /-- there is no such save -/
  | missing {k : Nat} {verdict : Verdict δ} (h_pending : d.pending[k]? = none) :
      Turn d (.finish k verdict) d
  /-- a save has ended, and it is told whether it has succeeded -/
  | finished {k n : Nat} {verdict : Verdict δ} {recovery : Recovery υ} {saver : Saver}
      (h_pending : d.pending[k]? = some (n, recovery))
      (h_inFlight : saver.inFlight = d.saver.inFlight - 1) :
      Turn d (.finish k verdict)
        { d with
          saver, pending := d.pending.eraseIdx k, ended := d.ended ++ [(n, verdict)]
          told := d.told ++ [verdict.saved] }
  /-- somebody else has changed the book -/
  | elsewhere {book : Book} : Turn d (.elsewhere book) { d with saver := { d.saver with book } }

/-- **What one act does to a docket.** -/
theorem turn_step (undo : υ → Book → Book × Except ε Unit) (d : Docket υ δ) (a : Act ε υ δ) :
    Turn d a (d.step undo a) := by
  cases a with
  | change mutation =>
    have h := Saver.starts_start d.saver mutation
    simp only [step]
    generalize d.saver.start mutation = started at h ⊢
    cases h with
    | @idle outcome h_change h_outcome =>
      cases outcome with
      | saving payload recovery => exact absurd rfl (h_outcome payload recovery)
      | refused | unchanged | unstorable => exact .declined h_change rfl
    | saving h_change => exact .begun h_change rfl
  | finish k verdict =>
    simp only [step]
    cases h_pending : d.pending[k]? with
    | none => exact .missing h_pending
    | some p =>
      obtain ⟨h_inFlight, h_told⟩ := Saver.told_finish undo d.saver p.2 verdict.saved
      dsimp only
      rw [h_told]
      exact .finished h_pending h_inFlight
  | elsewhere book => exact .elsewhere

/-! ## Accounts -/

/-- The accounts of a docket are right. -/
structure Balanced (d : Docket υ δ) : Prop where
  /-- the saver counts the saves that are under way -/
  inFlight : d.saver.inFlight = d.pending.length
  /-- each save that was begun has ended or is under way, and not both -/
  numbers : (d.ended.map Prod.fst ++ d.pending.map Prod.fst).Perm (List.range d.begun)
  /-- after each save it was told once whether it has succeeded -/
  told : d.told = d.ended.map fun p => p.2.saved

theorem Balanced.begun_eq (h : d.Balanced) : d.begun = d.saver.inFlight + d.told.length := by
  have h_length := h.numbers.length_eq
  rw [List.length_append, List.length_map, List.length_map, List.length_range] at h_length
  rw [h.inFlight, h.told, List.length_map]
  omega

/-- Every act keeps the accounts right. -/
theorem Balanced.turn {a : Act ε υ δ} {d' : Docket υ δ} (h : d.Balanced) (h_turn : Turn d a d') :
    d'.Balanced := by
  cases h_turn with
  | declined _ h_inFlight => exact ⟨h_inFlight.trans h.inFlight, h.numbers, h.told⟩
  | missing => exact h
  | elsewhere => exact ⟨h.inFlight, h.numbers, h.told⟩
  | begun _ h_inFlight =>
    refine ⟨?_, ?_, h.told⟩
    · rw [h_inFlight, h.inFlight, List.length_cons]
    · rw [List.map_cons, List.range_succ]
      exact (List.perm_middle.trans (h.numbers.cons d.begun)).trans
        (List.perm_append_singleton _ _).symm
  | @finished k n verdict recovery saver h_pending h_inFlight =>
    obtain ⟨h_lt, h_get⟩ := List.getElem?_eq_some_iff.1 h_pending
    refine ⟨?_, ?_, ?_⟩
    · rw [h_inFlight, h.inFlight, List.length_eraseIdx_of_lt h_lt]
    · -- The number goes from the saves that are under way to those that have ended.
      have h_moved : (n :: (d.pending.eraseIdx k).map Prod.fst).Perm (d.pending.map Prod.fst) := by
        have h_erase := (List.getElem_cons_eraseIdx_perm h_lt).map Prod.fst
        rw [h_get, List.map_cons] at h_erase
        exact h_erase
      rw [List.map_append, List.append_assoc]
      exact (h_moved.append_left _).trans h.numbers
    · rw [List.map_append, h.told]
      rfl

/-- The accounts are right after every run of a saver that has no save under way. -/
theorem balanced_run {s : Saver} (h : s.inFlight = 0) (acts : List (Act ε υ δ)) :
    (acts.foldl (step undo) { saver := s }).Balanced := by
  induction acts using List.reverseRecOn with
  | nil => exact ⟨h, .refl _, rfl⟩
  | append_singleton acts a ih =>
    rw [List.foldl_concat]
    exact ih.turn (turn_step undo _ a)

/-- **The accounts of a saver are right.**  Changes are made and saves are ended in any order, while
any number of other saves is under way; a storage answers or fails, an undo may be refused, and the
book may be changed by others.  After every act the saver counts the saves that were begun and have
not ended, which together with those that were told of are all that were begun.  Each save that ends
is told of once, by whether it has succeeded, whatever becomes of its undo.  A change that is refused
or changes nothing begins no save, and any other one begins one, if there is a name to store the list
under. -/
theorem accounts (undo : υ → Book → Book × Except ε Unit) (book : Book) (key : Value)
    (renderer : Option String) (acts : List (Act ε υ δ)) :
    let now := acts.foldl (step undo) { saver := { book, key, renderer } }
    now.saver.inFlight = now.pending.length ∧
      (now.ended.map Prod.fst ++ now.pending.map Prod.fst).Perm (List.range now.begun) ∧
      now.begun = now.saver.inFlight + now.told.length ∧
      now.told = now.ended.map (fun p => p.2.saved) ∧
      (∀ k n recovery verdict, now.pending[k]? = some (n, recovery) →
        let next := now.step undo (.finish k verdict)
        next.ended = now.ended ++ [(n, verdict)] ∧ next.told = now.told ++ [verdict.saved] ∧
          next.saver.inFlight + 1 = now.saver.inFlight ∧ next.begun = now.begun) ∧
      ∀ change, let next := now.step undo (.change change)
        next.told = now.told ∧
          (Declines change now.saver.book →
            next.begun = now.begun ∧ next.saver.inFlight = now.saver.inFlight) ∧
          (¬ Declines change now.saver.book → (∃ name, now.saver.key.name? = some name) →
            next.begun = now.begun + 1 ∧ next.saver.inFlight = now.saver.inFlight + 1) := by
  intro now
  have h : now.Balanced := balanced_run rfl acts
  refine ⟨h.inFlight, h.numbers, h.begun_eq, h.told, ?_, ?_⟩
  · intro k n recovery verdict h_pending next
    obtain ⟨h_lt, -⟩ := List.getElem?_eq_some_iff.1 h_pending
    have h_some : now.saver.inFlight ≠ 0 := by
      rw [h.inFlight]
      omega
    have h_turn : Turn now (.finish k verdict) next := turn_step undo now _
    generalize next = d at h_turn
    cases h_turn with
    | missing h_none => exact nomatch h_none.symm.trans h_pending
    | finished h_ended h_inFlight =>
      obtain ⟨rfl, -⟩ := Prod.mk.inj (Option.some.inj (h_ended.symm.trans h_pending))
      refine ⟨rfl, rfl, ?_, rfl⟩
      dsimp only
      omega
  · intro change next
    have h_turn : Turn now (.change change) next := turn_step undo now _
    generalize next = d at h_turn
    cases h_turn with
    | declined h_change h_inFlight =>
      refine ⟨rfl, fun _ => ⟨rfl, h_inFlight⟩, fun h_saves ⟨name, h_key⟩ => ?_⟩
      rcases h_change with h_declines | h_none
      · exact absurd h_declines h_saves
      · exact nomatch h_none.symm.trans h_key
    | begun h_saves h_inFlight =>
      exact ⟨rfl, fun h_change => absurd h_change h_saves, fun _ _ => ⟨rfl, h_inFlight⟩⟩

/-- While a change is being saved another one is refused; then the storage fails, and so does the
undo.  One save was begun, and it was told of once. -/
example :
    let clear : Mutation Unit Unit := fun b => (b.withRules [], .ok (.undoable ()))
    let refuse : Mutation Unit Unit := fun b => (b, .error ())
    let acts : List (Act Unit Unit Unit) :=
      [.change clear, .change refuse, .finish 0 (.failed ())]
    let now := acts.foldl (step fun _ b => (b, .error ())) { saver := { book := Book.new [] } }
    now.begun = 1 ∧ now.saver.inFlight = 0 ∧ now.told = [false] := by
  decide

end Docket

end Rulebook
