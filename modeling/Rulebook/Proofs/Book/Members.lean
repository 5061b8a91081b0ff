/-
  Rulebook.Proofs.Book.Members

  Which rules are in a list after operations on it, and in which order.

  Rules of a list may be equal.  To tell them apart they are given numbers: the rules of the list
  that there is at first get 0, 1, …, and every rule that is put in afterwards gets the next number.
  Members, which are rules with their numbers, are arranged by the functions that arrange the rules
  (`Roster.carry`), so the rules of the members are the list of the book (`Roster.step_book`).

  What an operation does to the members is one of six things (`Roster.Change`).  Each of them loses a
  member only if the operation takes it out, adds one only if the operation puts it in, and leaves
  all others in their order, except for the one that is moved.

  Main statement: `Roster.members_kept`.
-/
import Rulebook.Proofs.Book.Call
import Rulebook.Proofs.Book.Row
import Rulebook.Proofs.Run

namespace Rulebook

open Arrangement (InFront at? at?_eq_some_iff swapAt transfer)
open Book (Answer Call)
open scoped List

/-! ## Numbered rules -/

namespace Book.Call

/-- The rule that an operation puts into the list, if it puts in one. -/
def given? : Call → Option Rule
  | .insert r _ | .insertAt _ r | .replace _ r => some r
  | _ => none

/-- The position of the rule that an operation takes out of the list, if it takes out one. -/
def taken? : Call → Option Int
  | .replace i _ | .delete i => some i
  | _ => none

/-- The position of the rule that an operation moves, if it moves one. -/
def moved? : Call → Option Int
  | .moveUp i | .moveDown i | .relocate i _ _ => some i
  | _ => none

end Book.Call

/-- A book whose rules have numbers. -/
structure Roster where
  /-- how the book is kept -/
  kept : Book
  members : List (Rule × Nat)
  /-- the number that the next rule gets that is put in -/
  next : Nat
  /-- the numbers of the rules that were put in -/
  came : List Nat := []
  /-- the numbers of the rules that were taken out -/
  went : List Nat := []

namespace Roster

/-- The book with the rules of the members. -/
def book (s : Roster) : Book :=
  s.kept.withRules (s.members.map Prod.fst)

/-- The numbers of the members. -/
def numbers (s : Roster) : List Nat :=
  s.members.map Prod.snd

/-- A book whose rules were just given their numbers. -/
def start (b : Book) : Roster where
  kept := b
  members := b.rules.zipIdx
  next := b.size

/-- The number of the rule that an operation takes out, if it takes out one. -/
def taken? (s : Roster) (c : Call) : Option Nat :=
  c.taken?.bind (at? s.numbers)

/-- The number of the rule that an operation moves, if it moves one. -/
def moved? (s : Roster) (c : Call) : Option Nat :=
  c.moved?.bind (at? s.numbers)

/-- Whether a member is a sentinel. -/
def final (m : Rule × Nat) : Bool :=
  m.1.isFinal

/-- The members after an operation that is not refused. -/
def carry (s : Roster) : Call → List (Rule × Nat)
  | .get _ => s.members
  | .insert r placement =>
    s.members.insertIdx (s.book.insertionIndex (placement.getD s.book.placement)) (r, s.next)
  | .insertAt i r => s.members.insertIdx i.toNat (r, s.next)
  | .replace i r => s.members.set i.toNat (r, s.next)
  | .delete i => s.members.eraseIdx i.toNat
  | .moveUp i => Arrangement.moveUp final s.members i
  | .moveDown i => Arrangement.moveDown final s.members i
  | .relocate source target after => Arrangement.relocate final s.members source target after
  | .toggle i value => s.members.modify i.toNat fun m => (m.1.withFlag value, m.2)

/-- The roster after an operation that is not refused. -/
def carried (s : Roster) (c : Call) : Roster where
  kept := s.kept
  members := s.carry c
  next := if c.given?.isSome then s.next + 1 else s.next
  came := if c.given?.isSome then s.came ++ [s.next] else s.came
  went := s.went ++ (s.taken? c).toList

/-- Carries out an operation.  Whether it is refused, and what it answers, is up to the book. -/
def step (s : Roster) (c : Call) : Roster × Except Book.Error Answer :=
  match s.book.call c with
  | .ok (_, a) => (s.carried c, .ok a)
  | .error e => (s, .error e)

/-- What an operation does to the members of a roster. -/
inductive Change (s : Roster) : Call → List (Rule × Nat) → Prop where
  | same {c : Call} (h_given : c.given? = none) (h_taken : c.taken? = none) : Change s c s.members
  /-- a rule is put in -/
  | put {c : Call} {r : Rule} {k : Nat} (h_given : c.given? = some r) (h_taken : c.taken? = none)
    (hk : k ≤ s.members.length) : Change s c (s.members.insertIdx k (r, s.next))
  /-- a rule takes the place of another one -/
  | replaced {i : Int} {r : Rule} {m : Rule × Nat} (hm : at? s.members i = some m) :
    Change s (.replace i r) (s.members.set i.toNat (r, s.next))
  /-- a rule is taken out -/
  | deleted {i : Int} {m : Rule × Nat} (hm : at? s.members i = some m) :
    Change s (.delete i) (s.members.eraseIdx i.toNat)
  /-- a rule is taken to another place -/
  | moved {c : Call} {i : Int} {m : Rule × Nat} {k : Nat} (h_moved : c.moved? = some i)
    (hm : at? s.members i = some m) (hk : k < s.members.length) :
    Change s c (transfer s.members i.toNat k)
  /-- the flag of a rule is set -/
  | switched {i : Int} {value : Value} {m : Rule × Nat} (hm : at? s.members i = some m) :
    Change s (.toggle i value) (s.members.set i.toNat (m.1.withFlag value, m.2))

variable {s : Roster} {c : Call} {b' : Book} {a : Answer} {i : Int} {r : Rule}

theorem rules_book (s : Roster) : s.book.rules = s.members.map Prod.fst := rfl

/-- The rule at a position is the one of the member there. -/
theorem exists_member (h : at? s.book.rules i = some r) :
    ∃ m, at? s.members i = some m ∧ m.1 = r := by
  rw [rules_book, Arrangement.at?_map] at h
  exact Option.map_eq_some_iff.1 h

/-! ## What an operation does -/

/-- What comes of a move is the list that the arrangement makes, which is the same one if the move
is declined. -/
theorem moveUp?_getD (b : Book) (i : Int) :
    (b.moveUp? i).getD b = b.withRules (Arrangement.moveUp Rule.isFinal b.rules i) := by
  unfold Book.moveUp? Arrangement.moveUp
  split <;> rfl

theorem moveDown?_getD (b : Book) (i : Int) :
    (b.moveDown? i).getD b = b.withRules (Arrangement.moveDown Rule.isFinal b.rules i) := by
  unfold Book.moveDown? Arrangement.moveDown
  split <;> rfl

theorem relocate?_getD (b : Book) (source target : Int) (after : Bool) :
    ((b.relocate? source target after).map Prod.fst).getD b =
      b.withRules (Arrangement.relocate Rule.isFinal b.rules source target after) := by
  unfold Book.relocate? Arrangement.relocate
  cases Arrangement.landing? Rule.isFinal b.rules source target after with
  | none => rfl
  | some k =>
    dsimp only
    split
    · -- A rule that lands where it was is taken to its own place.
      rename_i h_same
      obtain rfl : k = source.toNat := by omega
      rw [Arrangement.transfer_self]
      rfl
    · rfl

theorem fst_orDeclined_map {β : Type} (b : Book) (moved : Option β) (f : β → Book × Answer) :
    (b.orDeclined (moved.map f)).1 = (moved.map fun x => (f x).1).getD b := by
  cases moved with
  | none => rfl
  | some x => rfl

theorem change_moveUp (s : Roster) (i : Int) :
    s.Change (.moveUp i) (Arrangement.moveUp final s.members i) := by
  unfold Arrangement.moveUp
  split
  · rename_i h_can
    obtain ⟨h0, m, hm, -⟩ := Arrangement.canMoveUp_iff.1 h_can
    obtain ⟨-, hlt⟩ := Arrangement.toNat_lt_of_at? hm
    rw [Arrangement.swapAt_pred_eq_transfer h0 hm]
    exact .moved rfl hm (by omega)
  · exact .same rfl rfl

theorem change_moveDown (s : Roster) (i : Int) :
    s.Change (.moveDown i) (Arrangement.moveDown final s.members i) := by
  unfold Arrangement.moveDown
  split
  · rename_i h_can
    obtain ⟨⟨m, hm, -⟩, hlt⟩ := Arrangement.canMoveDown_iff.1 h_can
    obtain ⟨h0, -⟩ := Arrangement.toNat_lt_of_at? hm
    have h_next : i.toNat + 1 < s.members.length := by split at hlt <;> omega
    rw [Arrangement.swapAt_eq_transfer h_next]
    exact .moved rfl hm h_next
  · exact .same rfl rfl

theorem change_relocate (s : Roster) (source target : Int) (after : Bool) :
    s.Change (.relocate source target after)
      (Arrangement.relocate final s.members source target after) := by
  unfold Arrangement.relocate
  cases h_landing : Arrangement.landing? final s.members source target after with
  | none => exact .same rfl rfl
  | some k =>
    obtain ⟨⟨m, hm, -⟩, hk, -⟩ := Arrangement.landing?_eq_some h_landing
    exact .moved rfl hm hk

theorem carry_toggle {m : Rule × Nat} (hm : at? s.members i = some m) (value : Value) :
    s.carry (.toggle i value) = s.members.set i.toNat (m.1.withFlag value, m.2) := by
  have h_at := (at?_eq_some_iff.1 hm).2
  rw [carry, List.modify_eq_set_getElem?, h_at]
  rfl

/-- **What an operation does that is carried out**: it makes the book of the members, whose change
is one of the six. -/
theorem carried_of_ok (h_call : s.book.call c = .ok (b', a)) :
    (s.carried c).book = b' ∧ s.Change c (s.carry c) := by
  have h_rules {rules : List Rule} (hb : b' = s.book.withRules rules)
      (h_map : (s.carry c).map Prod.fst = rules) : (s.carried c).book = b' := by
    rw [hb, ← h_map]
    rfl
  have h_length : s.book.rules.length = s.members.length := List.length_map _
  cases c with
  | get i =>
    obtain ⟨r, -, h_answer⟩ := map_eq_ok_iff.1 h_call
    exact ⟨congrArg Prod.fst h_answer, .same rfl rfl⟩
  | insert r placement =>
    obtain ⟨⟨b'', k⟩, h, h_answer⟩ := map_eq_ok_iff.1 h_call
    obtain ⟨rfl, -⟩ := Prod.mk.inj h_answer
    obtain ⟨-, rfl, h_book⟩ := Book.insert_eq_ok_iff.1 h
    have h_index := s.book.insertionIndex_le (placement.getD s.book.placement)
    rw [h_length] at h_index
    exact ⟨h_rules h_book (List.map_insertIdx _ _ _ _), .put rfl rfl h_index⟩
  | insertAt i r =>
    obtain ⟨b'', h, h_answer⟩ := map_eq_ok_iff.1 h_call
    obtain ⟨rfl, -⟩ := Prod.mk.inj h_answer
    obtain ⟨-, ⟨h0, h_index⟩, h_book⟩ := Book.insertAt_eq_ok_iff.1 h
    rw [h_length] at h_index
    exact ⟨h_rules h_book (List.map_insertIdx _ _ _ _), .put rfl rfl (by omega)⟩
  | replace i r =>
    obtain ⟨⟨b'', previous⟩, h, h_answer⟩ := map_eq_ok_iff.1 h_call
    obtain ⟨rfl, -⟩ := Prod.mk.inj h_answer
    obtain ⟨h_at, -, h_book⟩ := Book.replace_eq_ok_iff.1 h
    obtain ⟨m, hm, -⟩ := exists_member h_at
    exact ⟨h_rules h_book List.map_set, .replaced hm⟩
  | delete i =>
    obtain ⟨⟨b'', removed⟩, h, h_answer⟩ := map_eq_ok_iff.1 h_call
    obtain ⟨rfl, -⟩ := Prod.mk.inj h_answer
    obtain ⟨h_at, -, h_book⟩ := Book.delete_eq_ok_iff.1 h
    obtain ⟨m, hm, -⟩ := exists_member h_at
    exact ⟨h_rules h_book (List.eraseIdx_map _ _ _).symm, .deleted hm⟩
  | toggle i value =>
    obtain ⟨⟨b'', flag⟩, h, h_answer⟩ := map_eq_ok_iff.1 h_call
    obtain ⟨rfl, -⟩ := Prod.mk.inj h_answer
    obtain ⟨r, h_at, -, -, h_book⟩ := Book.toggle_eq_ok_iff.1 h
    obtain ⟨m, hm, rfl⟩ := exists_member h_at
    rw [carry_toggle hm] at h_rules ⊢
    exact ⟨h_rules h_book List.map_set, .switched hm⟩
  | moveUp i =>
    have h_book := congrArg Prod.fst (Except.ok.inj h_call)
    rw [fst_orDeclined_map, Option.map_id', moveUp?_getD] at h_book
    exact ⟨h_rules h_book.symm (Arrangement.map_moveUp Prod.fst s.members i), change_moveUp s i⟩
  | moveDown i =>
    have h_book := congrArg Prod.fst (Except.ok.inj h_call)
    rw [fst_orDeclined_map, Option.map_id', moveDown?_getD] at h_book
    exact ⟨h_rules h_book.symm (Arrangement.map_moveDown Prod.fst s.members i),
      change_moveDown s i⟩
  | relocate source target after =>
    have h_book := congrArg Prod.fst (Except.ok.inj h_call)
    rw [fst_orDeclined_map] at h_book
    have h_relocated := h_book.symm.trans (relocate?_getD s.book source target after)
    exact ⟨h_rules h_relocated (Arrangement.map_relocate Prod.fst s.members source target after),
      change_relocate s source target after⟩

/-- A step is the step of the book, and shows the same. -/
theorem step_book (s : Roster) (c : Call) :
    (s.step c).1.book = (s.book.step c).1 ∧ (s.step c).2 = (s.book.step c).2 := by
  unfold step
  rcases s.book.step_cases c with ⟨b', a, h_call, h_step⟩ | ⟨e, h_call, h_step⟩
  · rw [h_call, h_step]
    exact ⟨(carried_of_ok h_call).1, rfl⟩
  · rw [h_call, h_step]
    exact ⟨rfl, rfl⟩

/-- **The rules of the members are the list of the book**, whatever is done to both. -/
theorem book_after (s : Roster) (calls : List Call) :
    (Run.after step s calls).book = Run.after Book.step s.book calls := by
  induction calls generalizing s with
  | nil => rfl
  | cons c rest ih =>
    rw [Run.after, Run.after, ih, (step_book s c).1]

/-- An operation that is answered was carried out. -/
theorem call_of_answer (h : (s.step c).2 = .ok a) :
    (∃ b', s.book.call c = .ok (b', a)) ∧ (s.step c).1 = s.carried c := by
  unfold step at h ⊢
  cases h_call : s.book.call c with
  | error e =>
    rw [h_call] at h
    exact nomatch h
  | ok p =>
    rw [h_call] at h
    obtain rfl := Except.ok.inj h
    exact ⟨⟨p.1, rfl⟩, rfl⟩

/-- An operation that is refused leaves the members alone; any other one changes them in one of the
six ways. -/
theorem step_cases (s : Roster) (c : Call) :
    (s.step c).1 = s ∨ ((s.step c).1 = s.carried c ∧ s.Change c (s.carry c)) := by
  unfold step
  cases h_call : s.book.call c with
  | error e => exact .inl rfl
  | ok p => exact .inr ⟨rfl, (carried_of_ok h_call).2⟩

/-! ## None is lost and none is there twice -/

variable {m : Rule × Nat} {ms : List (Rule × Nat)}

theorem at?_numbers (hm : at? s.members i = some m) : at? s.numbers i = some m.2 := by
  rw [numbers, Arrangement.at?_map, hm]
  rfl

/-- Setting a flag does not change a number. -/
theorem map_set_flag (hm : at? s.members i = some m) (r : Rule) :
    (s.members.set i.toNat (r, m.2)).map Prod.snd = s.numbers := by
  rw [List.map_set]
  exact Arrangement.set_of_getElem? (at?_eq_some_iff.1 (at?_numbers hm)).2

/-- An operation that moves a rule puts none in and takes none out. -/
theorem given?_taken?_of_moved? (h : c.moved? = some i) : c.given? = none ∧ c.taken? = none := by
  cases c with
  | moveUp | moveDown | relocate => exact ⟨rfl, rfl⟩
  | get | insert | insertAt | replace | delete | toggle => exact nomatch h

theorem taken?_of_taken? (h : c.taken? = some i) (hm : at? s.members i = some m) :
    s.taken? c = some m.2 := by
  rw [taken?, h, Option.bind_some, at?_numbers hm]

/-- The other members, with one that is taken out behind them, are all members. -/
theorem eraseIdx_append_perm (hm : at? s.members i = some m) :
    s.numbers.eraseIdx i.toNat ++ [m.2] ~ s.numbers := by
  obtain ⟨hlt, h_number⟩ := List.getElem?_eq_some_iff.1 (at?_eq_some_iff.1 (at?_numbers hm)).2
  rw [← h_number]
  exact (List.perm_append_singleton _ _).trans (List.getElem_cons_eraseIdx_perm hlt)

/-- When a member is replaced, the new one is there with all the others. -/
theorem set_perm (hm : at? s.members i = some m) (n : Nat) :
    s.numbers.set i.toNat n ~ s.numbers.eraseIdx i.toNat ++ [n] := by
  obtain ⟨hlt, -⟩ := List.getElem?_eq_some_iff.1 (at?_eq_some_iff.1 (at?_numbers hm)).2
  exact (List.set_perm_cons_eraseIdx hlt n).trans (List.perm_append_singleton _ _).symm

/-- A change takes out of the numbers the one of the rule that the operation takes out, and adds the
next one if the operation puts in a rule. -/
theorem Change.perm (h : s.Change c ms) :
    ms.map Prod.snd ++ (s.taken? c).toList ~
      s.numbers ++ if c.given?.isSome then [s.next] else [] := by
  cases h with
  | same h_given h_taken =>
    rw [taken?, h_given, h_taken]
    exact .refl _
  | @put c r k h_given h_taken hk =>
    have h_length : k ≤ s.numbers.length := by rwa [numbers, List.length_map]
    rw [taken?, h_given, h_taken, List.map_insertIdx]
    exact ((List.perm_insertIdx s.next s.numbers h_length).append_right []).trans
      ((List.perm_append_singleton _ _).trans (.of_eq (List.append_nil _).symm)).symm
  | @replaced i r m hm =>
    rw [taken?_of_taken? rfl hm, List.map_set]
    calc s.numbers.set i.toNat s.next ++ [m.2]
        ~ s.numbers.eraseIdx i.toNat ++ [s.next] ++ [m.2] := (set_perm hm s.next).append_right _
      _ ~ s.numbers.eraseIdx i.toNat ++ [m.2] ++ [s.next] := by
        rw [List.append_assoc, List.append_assoc]
        exact List.perm_append_comm.append_left _
      _ ~ s.numbers ++ [s.next] := (eraseIdx_append_perm hm).append_right _
  | @deleted i m hm =>
    rw [taken?_of_taken? rfl hm, ← List.eraseIdx_map]
    exact (eraseIdx_append_perm hm).trans (.of_eq (List.append_nil _).symm)
  | @moved c i m k h_moved hm hk =>
    obtain ⟨h_given, h_taken⟩ := given?_taken?_of_moved? h_moved
    have h_transfer := (Arrangement.transfer_perm (at?_eq_some_iff.1 hm).2 hk).map Prod.snd
    rw [taken?, h_given, h_taken]
    exact h_transfer.append_right []
  | switched hm =>
    rw [map_set_flag hm]
    exact .refl _

/-- Every number that was given is the one of a member or of a rule that was taken out, and of one
only. -/
structure Accounted (size : Nat) (s : Roster) : Prop where
  given : List.range size ++ s.came = List.range s.next
  once : s.numbers ++ s.went ~ List.range s.next

theorem numbers_start (b : Book) : (start b).numbers = List.range b.size := by
  rw [numbers, start, List.zipIdx_map_snd, ← List.range_eq_range']
  rfl

theorem accounted_start (b : Book) : Accounted b.size (start b) where
  given := List.append_nil _
  once := by
    rw [numbers_start]
    exact .of_eq (List.append_nil _)

/-- Every operation keeps the account. -/
theorem accounted_step {size : Nat} (h : Accounted size s) (c : Call) :
    Accounted size (s.step c).1 := by
  rcases step_cases s c with h_same | ⟨h_carried, h_change⟩
  · rw [h_same]
    exact h
  rw [h_carried]
  have h_next : List.range (s.carried c).next =
      List.range s.next ++ if c.given?.isSome then [s.next] else [] := by
    unfold carried
    split
    · exact List.range_succ
    · exact (List.append_nil _).symm
  have h_came : (s.carried c).came = s.came ++ if c.given?.isSome then [s.next] else [] := by
    unfold carried
    split
    · rfl
    · exact (List.append_nil _).symm
  constructor
  · rw [h_next, h_came, ← h.given, List.append_assoc]
  · rw [h_next]
    -- What is taken out goes from the members to the rules that went.
    calc (s.carried c).numbers ++ (s.carried c).went
        ~ (s.carry c).map Prod.snd ++ (s.taken? c).toList ++ s.went := by
          rw [List.append_assoc]
          exact List.perm_append_comm.append_left _
      _ ~ s.numbers ++ (if c.given?.isSome then [s.next] else []) ++ s.went :=
          h_change.perm.append_right _
      _ ~ s.numbers ++ s.went ++ if c.given?.isSome then [s.next] else [] := by
          rw [List.append_assoc, List.append_assoc]
          exact List.perm_append_comm.append_left _
      _ ~ List.range s.next ++ if c.given?.isSome then [s.next] else [] :=
          h.once.append_right _

theorem accounted_after (b : Book) (calls : List Call) :
    Accounted b.size (Run.after step (start b) calls) := by
  have h_allowed : Run.Allowed step (fun _ _ => True) (start b) calls :=
    Run.allowed_of_forall fun _ _ _ => trivial
  have h_step (s : Roster) (c : Call) (h : Accounted b.size s) (_ : True) :
      Accounted b.size (step s c).1 := accounted_step h c
  exact Run.inv_after h_step (accounted_start b) h_allowed

namespace Accounted

variable {size : Nat}

theorem nodup (h : Accounted size s) : (s.numbers ++ s.went).Nodup :=
  h.once.nodup_iff.2 List.nodup_range

theorem next_notMem (h : Accounted size s) : s.next ∉ s.numbers := by
  intro h_mem
  have h_given := h.once.subset (List.mem_append_left _ h_mem)
  exact absurd (List.mem_range.1 h_given) (Nat.lt_irrefl _)

/-- The members are those of the start and those that were put in, without those that were taken
out. -/
theorem mem_numbers_iff (h : Accounted size s) (n : Nat) :
    n ∈ s.numbers ↔ (n < size ∨ n ∈ s.came) ∧ n ∉ s.went := by
  have h_given : (n < size ∨ n ∈ s.came) ↔ n ∈ s.numbers ∨ n ∈ s.went := by
    rw [← List.mem_range, ← List.mem_append, h.given, ← h.once.mem_iff, List.mem_append]
  have h_apart : n ∈ s.numbers → n ∉ s.went := fun h_mem h_went =>
    (List.nodup_append.1 h.nodup).2.2 n h_mem n h_went rfl
  rw [h_given]
  tauto

end Accounted

/-! ## The order of the others -/

/-- The members that an operation neither takes out nor moves are found, in one order, before it and
after it. -/
theorem Change.others (h : s.Change c ms) (h_new : s.next ∉ s.numbers) :
    ∃ zs, zs <+ s.numbers ∧ zs <+ ms.map Prod.snd ∧
      ∀ n ∈ s.numbers, n ∈ ms.map Prod.snd → s.moved? c ≠ some n → n ∈ zs := by
  cases h with
  | same => exact ⟨s.numbers, .refl _, .refl _, fun n hn _ _ => hn⟩
  | @put c r k =>
    refine ⟨s.numbers, .refl _, ?_, fun n hn _ _ => hn⟩
    rw [List.map_insertIdx]
    exact List.sublist_insertIdx _ _ _
  | @replaced i r m hm =>
    refine ⟨s.numbers.eraseIdx i.toNat, List.eraseIdx_sublist _ _, ?_, fun n hn h_after _ => ?_⟩
    · rw [List.map_set]
      exact Arrangement.eraseIdx_sublist_set _ _ _
    · rw [List.map_set] at h_after
      have h_set := (set_perm hm s.next).subset h_after
      rcases List.mem_append.1 h_set with h_other | h_next
      · exact h_other
      · -- The rule that is put in has a number that no other one has.
        obtain rfl := List.mem_singleton.1 h_next
        exact absurd hn h_new
  | @deleted i m hm =>
    rw [← List.eraseIdx_map]
    exact ⟨_, List.eraseIdx_sublist _ _, .refl _, fun n _ h_after _ => h_after⟩
  | @moved c i m k h_moved hm hk =>
    refine ⟨s.numbers.eraseIdx i.toNat, List.eraseIdx_sublist _ _, ?_, fun n hn _ h_ne => ?_⟩
    · rw [Arrangement.map_transfer]
      exact Arrangement.eraseIdx_sublist_transfer _ _ _
    · have h_number : s.moved? c = some m.2 := by
        rw [moved?, h_moved, Option.bind_some, at?_numbers hm]
      rcases List.mem_append.1 ((eraseIdx_append_perm hm).symm.subset hn) with h_other | h_self
      · exact h_other
      · obtain rfl := List.mem_singleton.1 h_self
        exact absurd h_number h_ne
  | switched hm =>
    rw [map_set_flag hm]
    exact ⟨s.numbers, .refl _, .refl _, fun n hn _ _ => hn⟩

/-- A member that stays has the rule that it had, or has had its flag set. -/
theorem Change.rules (h : s.Change c ms) (h_new : s.next ∉ s.numbers) :
    ∀ m ∈ ms, m.2 ∈ s.numbers → m ∈ s.members ∨ ∃ i value r,
      c = .toggle i value ∧ at? s.members i = some (r, m.2) ∧ m.1 = r.withFlag value := by
  intro m h_mem h_stays
  have h_old {r : Rule} (h : m = (r, s.next)) : False := by
    rw [h] at h_stays
    exact h_new h_stays
  cases h with
  | same => exact .inl h_mem
  | put => exact .inl ((List.eq_or_mem_of_mem_insertIdx h_mem).resolve_left h_old)
  | replaced => exact .inl ((List.mem_or_eq_of_mem_set h_mem).resolve_right h_old)
  | deleted => exact .inl (List.mem_of_mem_eraseIdx h_mem)
  | moved h_moved hm hk =>
    exact .inl ((Arrangement.transfer_perm (at?_eq_some_iff.1 hm).2 hk).subset h_mem)
  | @switched i value m' hm =>
    rcases List.mem_or_eq_of_mem_set h_mem with h_mem | rfl
    · exact .inl h_mem
    · exact .inr ⟨i, value, m'.1, rfl, hm, rfl⟩

/-! ## Where a new rule stands -/

/-- Where a new member goes under a placement, and at which position it stands then: at the head; in
front of a sentinel that is the last rule, in a book that has one; at the end otherwise. -/
inductive Placed (s : Roster) (new : Rule × Nat) : Placement → Nat → List (Rule × Nat) → Prop where
  | head : Placed s new .atHead 0 (new :: s.members)
  | beforeFinal {front : List (Rule × Nat)} {last : Rule × Nat} (h_mode : s.book.hasFinal = true)
    (h_final : last.1.isFinal = true) (h_members : s.members = front ++ [last]) :
    Placed s new .beforeFinal front.length (front ++ [new, last])
  | behind (h : s.book.hasFinal = true → ∀ last ∈ s.members.getLast?, last.1.isFinal = false) :
    Placed s new .beforeFinal s.members.length (s.members ++ [new])

theorem placed_insertIdx (s : Roster) (new : Rule × Nat) (placement : Placement) :
    s.Placed new placement (s.book.insertionIndex placement)
      (s.members.insertIdx (s.book.insertionIndex placement) new) := by
  have h_ends : Arrangement.endsFixed Rule.isFinal s.book.rules =
      Arrangement.endsFixed final s.members := Arrangement.endsFixed_map _ _
  have h_length : s.book.rules.length = s.members.length := List.length_map _
  cases placement with
  | atHead => exact .head
  | beforeFinal =>
    rw [Book.insertionIndex, h_ends, h_length]
    split
    · rename_i h
      rw [Bool.and_eq_true] at h
      obtain ⟨last, h_last, h_final⟩ := Arrangement.endsFixed_iff.1 h.2
      obtain ⟨front, h_members⟩ := List.getLast?_eq_some_iff.1 h_last
      have h_index : s.members.length - 1 = front.length := by
        rw [h_members, List.length_append]
        rfl
      rw [h_index, h_members, Arrangement.insertIdx_length_append]
      exact .beforeFinal h.1 h_final h_members
    · rename_i h
      rw [List.insertIdx_length_self]
      refine .behind fun h_mode last h_last => ?_
      rw [← Bool.not_eq_true]
      intro h_final
      exact h (Bool.and_eq_true_iff.2 ⟨h_mode, Arrangement.endsFixed_iff.2 ⟨last, h_last, h_final⟩⟩)

/-! ## Any run -/

/-- From a roster to the one after an operation. -/
structure Keeps (s : Roster) (c : Call) (s' : Roster) : Prop where
  /-- two members that stay, and neither of which is moved, stay in their order -/
  order : ∀ m ∈ s.numbers, m ∈ s'.numbers → ∀ n ∈ s.numbers, n ∈ s'.numbers →
    s.moved? c ≠ some m → s.moved? c ≠ some n → (InFront s.numbers m n ↔ InFront s'.numbers m n)
  /-- a member that stays has the rule that it had, or has had its flag set -/
  rules : ∀ m ∈ s'.members, m.2 ∈ s.numbers → m ∈ s.members ∨ ∃ i value r,
    c = .toggle i value ∧ at? s.members i = some (r, m.2) ∧ m.1 = r.withFlag value

theorem keeps_step {size : Nat} (h : Accounted size s) (c : Call) : s.Keeps c (s.step c).1 := by
  have h_after := accounted_step h c
  rcases step_cases s c with h_same | ⟨h_carried, h_change⟩
  · rw [h_same]
    exact ⟨fun _ _ _ _ _ _ _ _ => Iff.rfl, fun _ h_mem _ => .inl h_mem⟩
  · rw [h_carried] at h_after ⊢
    refine ⟨?_, h_change.rules h.next_notMem⟩
    obtain ⟨zs, h_before, h_behind, h_all⟩ := h_change.others h.next_notMem
    intro m hm hm' n hn hn' hm_ne hn_ne
    have hm_stays := h_all m hm hm' hm_ne
    have hn_stays := h_all n hn hn' hn_ne
    have h_nodup : s.numbers.Nodup := (List.nodup_append.1 h.nodup).1
    have h_nodup' : (s.carried c).numbers.Nodup := (List.nodup_append.1 h_after.nodup).1
    have h_front := Arrangement.inFront_iff_of_sublist h_before h_nodup hm_stays hn_stays
    have h_front' := Arrangement.inFront_iff_of_sublist h_behind h_nodup' hm_stays hn_stays
    exact h_front.trans h_front'.symm

theorem book_start (b : Book) : (start b).book = b := by
  have h_rules : (start b).members.map Prod.fst = b.rules := List.zipIdx_map_fst 0 b.rules
  rw [book, h_rules]
  rfl

/-- A rule that replaces another one takes its place. -/
theorem members_replace {previous : Rule} (h : (s.step (.replace i r)).2 = .ok (.rule previous)) :
    ∃ m, at? s.members i = some m ∧
      (s.step (.replace i r)).1.members = s.members.set i.toNat (r, s.next) := by
  obtain ⟨⟨b', h_call⟩, h_carried⟩ := call_of_answer h
  obtain ⟨⟨b'', previous'⟩, h_replace, -⟩ := map_eq_ok_iff.1 h_call
  obtain ⟨h_at, -⟩ := Book.replace_eq_ok_iff.1 h_replace
  obtain ⟨m, hm, -⟩ := exists_member h_at
  rw [h_carried]
  exact ⟨m, hm, rfl⟩

theorem placed_of_insert {placement : Option Placement} {k : Nat}
    (h : (s.step (.insert r placement)).2 = .ok (.position k)) :
    s.Placed (r, s.next) (placement.getD s.book.placement) k
      (s.step (.insert r placement)).1.members := by
  obtain ⟨⟨b', h_call⟩, h_carried⟩ := call_of_answer h
  obtain ⟨⟨b'', k'⟩, h_insert, h_answer⟩ := map_eq_ok_iff.1 h_call
  obtain ⟨-, h_position⟩ := Prod.mk.inj h_answer
  obtain rfl := Answer.position.inj h_position
  obtain ⟨-, h_index, -⟩ := Book.insert_eq_ok_iff.1 h_insert
  rw [h_carried, h_index]
  exact placed_insertIdx s (r, s.next) _

/-- **No rule is lost, none is there twice, and none leaves its place for nothing.**  The rules of
any book are given numbers, and any operations are carried out on it.  The rules with the numbers
are then the list that the operations make of the book.  No number is there twice, and those that
are there are the numbers of the rules at the start and of those that were put in since, without
the numbers of those that were deleted or replaced.

Whatever operation comes next: two rules that are there before and after it keep their order, unless
one of them is the rule that it moves; a rule that is there before and after it is the same, but for
a flag that is set; a rule that replaces another one stands in the place of that one, and all others
stand where they stood; and a rule that is inserted stands at the position that is answered, which is
the head, or in front of the sentinel at the end, or the end. -/
theorem members_kept (b : Book) (calls : List Call) (c : Call) :
    let s := Run.after step (start b) calls
    let s' := (s.step c).1
    (s.book = Run.after Book.step b calls ∧ s'.book = (s.book.step c).1) ∧
      (s.numbers.Nodup ∧ ∀ n, n ∈ s.numbers ↔ (n < b.size ∨ n ∈ s.came) ∧ n ∉ s.went) ∧
      s.Keeps c s' ∧
      (∀ i r previous, c = .replace i r → (s.step c).2 = .ok (.rule previous) →
        ∀ j, at? s'.members j = if j = i then some (r, s.next) else at? s.members j) ∧
      (∀ r placement k, c = .insert r placement → (s.step c).2 = .ok (.position k) →
        s.Placed (r, s.next) (placement.getD s.book.placement) k s'.members) := by
  intro s s'
  have h_accounted := accounted_after b calls
  refine ⟨⟨?_, (step_book s c).1⟩, ⟨(List.nodup_append.1 h_accounted.nodup).1,
    h_accounted.mem_numbers_iff⟩, keeps_step h_accounted c, ?_, ?_⟩
  · have h_run := book_after (start b) calls
    rwa [book_start] at h_run
  · rintro i r previous rfl h_answer j
    obtain ⟨m, hm, h_members⟩ := members_replace h_answer
    rw [h_members]
    split
    · rename_i h_same
      rw [h_same, Arrangement.at?_set_self hm]
    · rename_i h_ne
      exact Arrangement.at?_set_of_ne (at?_eq_some_iff.1 hm).1 h_ne _
  · rintro r placement k rfl h_answer
    exact placed_of_insert h_answer

end Roster

end Rulebook
