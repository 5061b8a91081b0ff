/-
  Rulebook.Proofs.Editor.Journal

  A ledger that also keeps what has become of each save, in the order in which the saves ended.

  What one act can do to such a journal is said once (`Journal.turn_step`): something happens
  between two commands, a command starts and is over or is being saved, or a save ends.  What is
  said later of journals is proved for these cases, and for a run by induction on its acts, the
  last one first.

  Every command has one number.  It is the number of its answer or of its save, if that is still
  under way (`Journal.numbers_after`).
-/
import Rulebook.Proofs.Editor.Serial
import Rulebook.Proofs.Editor.Undone
import Mathlib.Data.List.Induction

namespace Rulebook

/-- A save that has ended. -/
structure Ending where
  /-- the number of its command -/
  number : Nat
  /-- what was to be stored -/
  payload : Value
  /-- whether it was stored -/
  saved : Bool
  /-- the answer to the command -/
  outcome : Editor.Outcome

/-- The answer to the command of a save has a status. -/
def Ending.Says (x : Ending) (status : Editor.Status) : Prop :=
  ∃ reply, x.outcome = .ok reply ∧ reply.status = status

instance (x : Ending) (status : Editor.Status) : Decidable (x.Says status) :=
  Desk.decidableReplies x.outcome status

open Workbench (Act IsAside)

/-- The save that an act ends. -/
def Ledger.ending? (l : Ledger) : Act → Option Ending
  | .finish k saved =>
    l.pending[k]?.map fun (number, t) =>
      { number, payload := t.payload, saved, outcome := (l.editor.finish t saved).2.2 }
  | _ => none

/-- A ledger, and the saves that have ended, the last one at the end. -/
structure Journal extends Ledger where
  endings : List Ending := []

namespace Journal

/-- Does one thing and writes down what is seen of it. -/
def step (j : Journal) (a : Act) : Journal :=
  { j.toLedger.step a with endings := j.endings ++ (j.ending? a).toList }

/-- What is written down of acts that are made one after another. -/
def after (e : Editor) (acts : List Act) : Journal :=
  acts.foldl step { editor := e }

theorem after_concat (e : Editor) (acts : List Act) (a : Act) :
    after e (acts ++ [a]) = (after e acts).step a := by
  rw [after, List.foldl_concat]
  rfl

/-- To keep the saves that have ended changes nothing else. -/
theorem toLedger_after (e : Editor) (acts : List Act) :
    (after e acts).toLedger = acts.foldl Ledger.step { editor := e } := by
  induction acts using List.reverseRecOn with
  | nil => rfl
  | append_singleton acts a ih =>
    rw [after_concat, List.foldl_concat, ← ih]
    rfl

/-! ## One act -/

/-- What an act can do to a journal. -/
inductive Turn (j : Journal) : Act → Journal → Prop where
  /-- something happens that concerns neither the list nor a save -/
  | aside {a : Act} {e' : Editor} (h_aside : IsAside a) (h_work : Editor.SameWork j.editor e') :
      Turn j a { j with editor := e' }
  /-- a command starts and is over -/
  | ended {c : Editor.Command} {e' : Editor} {events : List Event} {outcome : Editor.Outcome}
      (h_begin : j.editor.begin c = (e', events, .done outcome)) :
      Turn j (.start c)
        { j with
          editor := e', started := j.started + 1, answers := j.answers ++ [(j.started, outcome)] }
  /-- a command starts and is being saved -/
  | begun {c : Editor.Command} {e' : Editor} {events : List Event} {t : Editor.Ticket}
      (h_begin : j.editor.begin c = (e', events, .saving t)) :
      Turn j (.start c)
        { j with
          editor := e', started := j.started + 1, pending := (j.started, t) :: j.pending
          payloads := j.payloads ++ [t.payload] }
  /-- there is no such save -/
  | missing {k : Nat} {saved : Bool} (h_ticket : j.pending[k]? = none) :
      Turn j (.finish k saved) j
  /-- a save ends -/
  | finished {k n : Nat} {saved : Bool} {t : Editor.Ticket} {e' : Editor} {events : List Event}
      {outcome : Editor.Outcome} (h_ticket : j.pending[k]? = some (n, t))
      (h_finish : j.editor.finish t saved = (e', events, outcome)) :
      Turn j (.finish k saved)
        { j with
          editor := e', pending := j.pending.eraseIdx k, answers := j.answers ++ [(n, outcome)]
          endings := j.endings ++ [⟨n, t.payload, saved, outcome⟩] }

/-- **What one act does to a journal.** -/
theorem turn_step (j : Journal) (a : Act) : Turn j a (j.step a) := by
  have h_aside (ha : IsAside a) (h_step : j.toLedger.step a =
      { j.toLedger with editor := (j.bench.step a).1.editor }) (h_none : j.ending? a = none) :
      Turn j a (j.step a) := by
    have h_work := (Workbench.sameWork_of_isAside j.bench ha).1
    rw [step, h_step, h_none, Option.toList_none, List.append_nil]
    exact .aside ha h_work
  cases a with
  | start c =>
    have h_none : (j.ending? (.start c)).toList = [] := rfl
    rw [step, h_none, List.append_nil]
    cases h_begin : j.editor.begin c with
    | mk e' rest =>
      obtain ⟨events, outcome | t⟩ := rest
      · simp only [Ledger.step, h_begin]
        exact .ended h_begin
      · simp only [Ledger.step, h_begin]
        exact .begun h_begin
  | finish k saved =>
    cases h_ticket : j.pending[k]? with
    | none =>
      simp only [step, Ledger.step, Ledger.ending?, h_ticket, Option.map_none, Option.toList_none,
        List.append_nil]
      exact .missing h_ticket
    | some p =>
      obtain ⟨n, t⟩ := p
      simp only [step, Ledger.step, Ledger.ending?, h_ticket, Option.map_some, Option.toList_some]
      exact .finished h_ticket rfl
  | openAdd | openEdit | setField | closeDialog | startDrag | endDrag | attach | redraw =>
    exact h_aside trivial rfl rfl

/-! ## The numbers of the commands -/

/-- The numbers of the commands that were answered, and of those that are being saved. -/
def numbers (j : Journal) : List Nat :=
  j.answers.map Prod.fst ++ j.pending.map Prod.fst

theorem started_after (e : Editor) (acts : List Act) :
    (after e acts).started = (acts.filterMap Ledger.started?).length := by
  rw [toLedger_after, Ledger.started_run, Nat.zero_add]

/-- Every act keeps it that each number belongs to one command. -/
theorem numbers_step (j : Journal) (a : Act) (h : j.numbers.Perm (List.range j.started)) :
    (j.step a).numbers.Perm (List.range (j.step a).started) := by
  have h_turn := turn_step j a
  generalize j.step a = j' at h_turn ⊢
  unfold numbers at h ⊢
  cases h_turn with
  | aside => exact h
  | missing => exact h
  | ended =>
    rw [List.map_append, List.append_assoc, List.range_succ]
    refine List.perm_middle.trans ?_
    exact (h.cons j.started).trans (List.perm_append_singleton _ _).symm
  | begun =>
    rw [List.map_cons, List.range_succ]
    refine List.perm_middle.trans ?_
    exact (h.cons j.started).trans (List.perm_append_singleton _ _).symm
  | @finished k n _ t _ _ _ h_ticket =>
    -- The number goes from the saves to the answers.
    obtain ⟨hlt, h_get⟩ := List.getElem?_eq_some_iff.1 h_ticket
    have h_moved : (n :: (j.pending.eraseIdx k).map Prod.fst).Perm (j.pending.map Prod.fst) := by
      have h_erase := (List.getElem_cons_eraseIdx_perm hlt).map Prod.fst
      rw [h_get, List.map_cons] at h_erase
      exact h_erase
    rw [List.map_append, List.append_assoc]
    exact (h_moved.append_left _).trans h

/-- **Each command is answered or being saved**, and not both. -/
theorem numbers_after (e : Editor) (acts : List Act) :
    (after e acts).numbers.Perm (List.range (after e acts).started) := by
  induction acts using List.reverseRecOn with
  | nil => exact .refl _
  | append_singleton acts a ih =>
    rw [after_concat]
    exact numbers_step _ a ih

/-- Once all saves have ended, each command has its one answer. -/
theorem answers_of_pending {e : Editor} {acts : List Act} (h : (after e acts).pending = []) :
    ((after e acts).answers.map Prod.fst).Perm
      (List.range (acts.filterMap Ledger.started?).length) := by
  have h_numbers := numbers_after e acts
  rwa [numbers, h, List.map_nil, List.append_nil, started_after] at h_numbers

/-! ## The saves that are under way -/

/-- The workbench of a journal. -/
theorem bench_after (e : Editor) (acts : List Act) :
    (after e acts).bench = Run.after Workbench.step { editor := e } acts := by
  induction acts using List.reverseRecOn with
  | nil => rfl
  | append_singleton acts a ih =>
    rw [after_concat, Run.after_append, ← ih]
    exact Ledger.bench_step _ a

/-- Every command whose save is under way has an answer for either end of it. -/
theorem fair_after (e : Editor) (acts : List Act) :
    ∀ p ∈ (after e acts).pending, p.2.Fair := by
  have h_fair := Workbench.fair_after (w := { editor := e })
    (fun _ ht => absurd ht List.not_mem_nil) acts
  rw [← bench_after] at h_fair
  exact fun p hp => h_fair p.2 (List.mem_map_of_mem hp)

end Journal

end Rulebook
