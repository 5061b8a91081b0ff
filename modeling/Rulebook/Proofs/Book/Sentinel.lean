/-
  Rulebook.Proofs.Book.Sentinel

  A book with a sentinel ends with it, whatever is done to the book.

  A raw list is put in order when it is taken over, every operation leaves the last place to the
  sentinel (`Edit.endsFixed`) and no operation makes a second one (`Edit.countP_eq`).  A snapshot
  is restored as it is, so what holds of the list has to hold of the snapshots as well: the
  invariant of a run, `Shelf.InOrder`, is about both.

  The one thing that is asked of whoever changes the book is not to put a rule behind the last
  one.
-/
import Rulebook.Proofs.Book.Edit
import Rulebook.Proofs.Run

namespace Rulebook

open Arrangement (endsFixed endsFixed_iff)

/-- Exactly one rule is the sentinel; it is the last one, and it is enabled. -/
structure EndsInSentinel (rules : List Rule) : Prop where
  once : rules.countP Rule.isFinal = 1
  last : ∃ r ∈ rules.getLast?, r.isFinal = true ∧ r.enabled = .bool true

/-- A sentinel is always enabled, so it is enough that there is one and that it is last. -/
theorem endsInSentinel_iff {rules : List Rule} :
    EndsInSentinel rules ↔
      rules.countP Rule.isFinal = 1 ∧ endsFixed Rule.isFinal rules = true := by
  constructor
  · rintro ⟨h_once, r, hr, hf, -⟩
    exact ⟨h_once, endsFixed_iff.2 ⟨r, hr, hf⟩⟩
  · intro ⟨h_once, h_ends⟩
    obtain ⟨r, hr, hf⟩ := endsFixed_iff.1 h_ends
    exact ⟨h_once, r, hr, hf, (Rule.ruleType_enabled_of_isFinal hf).2⟩

instance (rules : List Rule) : Decidable (EndsInSentinel rules) :=
  decidable_of_iff _ endsInSentinel_iff.symm

theorem EndsInSentinel.endsFixed {rules : List Rule} (h : EndsInSentinel rules) :
    endsFixed Rule.isFinal rules = true :=
  (endsInSentinel_iff.1 h).2

/-! ## Making and keeping the order -/

/-- A raw list is put in order. -/
theorem endsInSentinel_withSentinel (description : Value) (rules : List Rule) :
    EndsInSentinel (Book.withSentinel description rules) := by
  have hlast : ((rules.find? Rule.isFinal).getD (Rule.fallback description)).isFinal = true := by
    cases h : rules.find? Rule.isFinal with
    | none => rfl
    | some r => exact List.find?_some h
  refine endsInSentinel_iff.2 ⟨?_, ?_⟩
  · -- The sentinels of the raw list are left out, so the one at the end is the only one.
    have hnone : (rules.filter fun r => !r.isFinal).countP Rule.isFinal = 0 := by
      simp [List.countP_eq_zero]
    rw [Book.withSentinel, List.countP_append, hnone, List.countP_singleton, hlast]
    rfl
  · exact endsFixed_iff.2 ⟨_, List.getLast?_concat, hlast⟩

/-- A book with a sentinel whose list ends in it. -/
structure Book.InOrder (b : Book) : Prop where
  hasFinal : b.hasFinal = true
  rules : EndsInSentinel b.rules

theorem Book.inOrder_new (rules : List Rule) (placement : Placement) (description : Value) :
    (Book.new rules true placement description).InOrder :=
  ⟨rfl, endsInSentinel_withSentinel description rules⟩

/-- An edit of a book keeps its list in order. -/
theorem Edit.inOrder {b b' : Book} {u : Undo} (h : Edit b b' u) (hb : b.InOrder) : b'.InOrder := by
  obtain ⟨h_once, h_ends⟩ := endsInSentinel_iff.1 hb.rules
  refine ⟨h.hasFinal_eq.trans hb.hasFinal, endsInSentinel_iff.2 ⟨?_, ?_⟩⟩
  · rw [h.countP_eq, h_once]
  · exact h.endsFixed hb.hasFinal h_ends

/-- A rule for the headers with a value. -/
def Rule.onValue (value : String) : Rule :=
  .ofAttributes {
    ruleType := .text "HEADER-KEYWORD"
    matchValue := .text value
    action := .text "DIRECT" }

/-! ## Runs on a book -/

/-- A book, and the snapshots that were taken of its list. -/
structure Shelf where
  book : Book
  snapshots : List (List Rule) := []

namespace Shelf

/-- What can be done with a book and its snapshots. -/
inductive Act where
  | insert (r : Rule) (placement : Option Placement)
  | insertAt (i : Int) (r : Rule)
  | replace (i : Int) (r : Rule)
  | delete (i : Int)
  | moveUp (i : Int)
  | moveDown (i : Int)
  | relocate (source target : Int) (after : Bool)
  | toggle (i : Int) (value : Value)
  | initialise (rules : List Rule)
  | snapshot
  /-- back to the list as it was when a snapshot was taken -/
  | restore (number : Nat)

/-- The shelf with another book, if an operation has made one; otherwise nothing has changed. -/
def keep (s : Shelf) (outcome : Except Book.Error Book) : Shelf × Except Book.Error Unit :=
  match outcome with
  | .ok book => ({ s with book }, .ok ())
  | .error e => (s, .error e)

/-- Does one thing; an operation that is refused changes nothing. -/
def step (s : Shelf) : Act → Shelf × Except Book.Error Unit
  | .insert r placement => s.keep ((s.book.insert r placement).map Prod.fst)
  | .insertAt i r => s.keep (s.book.insertAt i r)
  | .replace i r => s.keep ((s.book.replace i r).map Prod.fst)
  | .delete i => s.keep ((s.book.delete i).map Prod.fst)
  | .moveUp i => s.keep (.ok ((s.book.moveUp? i).getD s.book))
  | .moveDown i => s.keep (.ok ((s.book.moveDown? i).getD s.book))
  | .relocate source target after =>
    s.keep (.ok (((s.book.relocate? source target after).map Prod.fst).getD s.book))
  | .toggle i value => s.keep ((s.book.toggle i value).map Prod.fst)
  | .initialise rules => s.keep (.ok (s.book.initialise rules))
  | .snapshot => ({ s with snapshots := s.snapshots ++ [s.book.rules] }, .ok ())
  | .restore n =>
    match s.snapshots[n]? with
    | some rules => s.keep (.ok (s.book.withRules rules))
    | none => (s, .ok ())

/-- No rule is put behind the last one by its position. -/
def InFront (s : Shelf) : Act → Prop
  | .insertAt i _ => i < s.book.rules.length
  | _ => True

instance (s : Shelf) : (a : Act) → Decidable (s.InFront a)
  | .insertAt i _ => inferInstanceAs (Decidable (i < s.book.rules.length))
  | .insert .. | .replace .. | .delete _ | .moveUp _ | .moveDown _ | .relocate .. | .toggle ..
  | .initialise _ | .snapshot | .restore _ => .isTrue trivial

/-- The list and all snapshots of it end in the sentinel. -/
structure InOrder (s : Shelf) : Prop where
  book : s.book.InOrder
  snapshots : ∀ rules ∈ s.snapshots, EndsInSentinel rules

variable {s : Shelf}

/-- A book that is the same or one edit away may take the place of the book. -/
theorem InOrder.keep (h : s.InOrder) {outcome : Except Book.Error Book}
    (hb : ∀ b, outcome = .ok b → b = s.book ∨ ∃ u, Edit s.book b u) :
    (s.keep outcome).1.InOrder := by
  cases outcome with
  | error e => exact h
  | ok b =>
    rcases hb b rfl with rfl | ⟨u, hu⟩
    · exact h
    · exact ⟨hu.inOrder h.book, h.snapshots⟩

/-- One act keeps the list and the snapshots in order. -/
theorem InOrder.step (h : s.InOrder) {a : Act} (ha : s.InFront a) : (s.step a).1.InOrder := by
  cases a with
  | insert r placement =>
    refine h.keep fun b hb => .inr ?_
    obtain ⟨⟨_, k⟩, hk, rfl⟩ := map_eq_ok_iff.1 hb
    exact ⟨_, .insert hk⟩
  | insertAt i r => exact h.keep fun b hb => .inr ⟨_, .insertAt hb ha⟩
  | replace i r =>
    refine h.keep fun b hb => .inr ?_
    obtain ⟨⟨_, previous⟩, hp, rfl⟩ := map_eq_ok_iff.1 hb
    exact ⟨_, .replace hp⟩
  | delete i =>
    refine h.keep fun b hb => .inr ?_
    obtain ⟨⟨_, removed⟩, hr, rfl⟩ := map_eq_ok_iff.1 hb
    exact ⟨_, .delete hr⟩
  | moveUp i =>
    refine h.keep fun b hb => ?_
    obtain rfl := Except.ok.inj hb
    cases hm : s.book.moveUp? i with
    | none => exact .inl rfl
    | some b' => exact .inr ⟨_, .moveUp hm⟩
  | moveDown i =>
    refine h.keep fun b hb => ?_
    obtain rfl := Except.ok.inj hb
    cases hm : s.book.moveDown? i with
    | none => exact .inl rfl
    | some b' => exact .inr ⟨_, .moveDown hm⟩
  | relocate source target after =>
    refine h.keep fun b hb => ?_
    obtain rfl := Except.ok.inj hb
    cases hm : s.book.relocate? source target after with
    | none => exact .inl rfl
    | some p => exact .inr ⟨_, .relocate hm⟩
  | toggle i value =>
    refine h.keep fun b hb => .inr ?_
    obtain ⟨⟨_, flag⟩, hf, rfl⟩ := map_eq_ok_iff.1 hb
    exact ⟨_, .toggle hf⟩
  | initialise rules =>
    -- No edit, but the list is put in order as at the beginning.
    refine ⟨⟨h.book.hasFinal, ?_⟩, h.snapshots⟩
    have hrules : (s.step (.initialise rules)).1.book.rules =
        Book.withSentinel s.book.finalDescription rules := by
      simp only [Shelf.step, Shelf.keep, Book.initialise, Book.normalise, h.book.hasFinal, if_true]
    rw [hrules]
    exact endsInSentinel_withSentinel _ rules
  | snapshot =>
    refine ⟨h.book, fun rules hmem => ?_⟩
    rcases List.mem_append.1 hmem with hmem | hmem
    · exact h.snapshots rules hmem
    · obtain rfl := List.mem_singleton.1 hmem
      exact h.book.rules
  | restore n =>
    -- Nothing is checked here; the snapshot has been in order since it was taken.
    simp only [Shelf.step]
    cases hn : s.snapshots[n]? with
    | none => exact h
    | some rules =>
      exact ⟨⟨h.book.hasFinal, h.snapshots rules (List.mem_of_getElem? hn)⟩, h.snapshots⟩

/-- **A book with a sentinel ends with it throughout.**  From any raw list, and after each
beginning of any run in which no rule is put behind the last one by its position, exactly one rule
is the sentinel; it is the last one, and it is enabled. -/
theorem endsInSentinel_run (rules : List Rule) (placement : Placement) (description : Value)
    (acts before : List Act)
    (h_front : Run.Allowed step InFront ⟨Book.new rules true placement description, []⟩ acts)
    (h_before : before <+: acts) :
    EndsInSentinel
      (Run.after step ⟨Book.new rules true placement description, []⟩ before).book.rules := by
  have h_start : InOrder ⟨Book.new rules true placement description, []⟩ :=
    ⟨Book.inOrder_new rules placement description, fun _ hmem => nomatch hmem⟩
  exact (Run.inv_prefix (fun s a hs ha => hs.step ha) h_start h_front h_before).book.rules

/-- A sentinel that was first and a rule that is put in by its position; the list is restored after
a deletion that was refused and a move that was not. -/
theorem endsInSentinel_restored :
    let start : Shelf :=
      ⟨Book.new [.fallback "", .onValue "a", .onValue "b"] true .atHead "", []⟩
    let acts : List Act :=
      [.insertAt 1 (.onValue "c"), .snapshot, .delete 3, .moveDown 0, .restore 0]
    Run.Allowed step InFront start acts ∧ acts <+: acts ∧
      EndsInSentinel (Run.after step start acts).book.rules := by
  refine ⟨by decide, List.prefix_rfl, ?_⟩
  exact endsInSentinel_run _ _ _ _ _ (by decide) List.prefix_rfl

end Shelf

end Rulebook
