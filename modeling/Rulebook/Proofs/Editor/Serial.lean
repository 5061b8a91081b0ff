/-
  Rulebook.Proofs.Editor.Serial

  Commands of the list whose saves overlap and succeed come to what they would come to one after
  another (`overlapping_eq_serial`): the same list in the end, the same payloads in the same order,
  and the same answer to each command.

  A ledger is an editor at work that numbers its commands, so that an answer can be told from the
  answers to other commands.  Beside a ledger in which saves overlap stands one in which each save
  ends before the next command starts (`Matches`).  Starting a command does the same to both lists.
  In one of the ledgers its answer is there at once; in the other it is promised by the ticket, and
  is there when the save has ended, whatever has happened in between.
-/
import Rulebook.Proofs.Editor.Agree
import Rulebook.Schema.Headers

namespace Rulebook

/-- An editor at work, and what has been seen of each of its commands. -/
structure Ledger where
  editor : Editor
  /-- the saves that are under way with the numbers of their commands, the last one first -/
  pending : List (Nat × Editor.Ticket) := []
  /-- how many commands were started -/
  started : Nat := 0
  /-- what was handed to the storage, the first payload first -/
  payloads : List Value := []
  /-- the answers, in the order in which they were given -/
  answers : List (Nat × Editor.Outcome) := []

namespace Ledger

open Workbench (Act IsAside)

/-- The workbench of a ledger. -/
def bench (l : Ledger) : Workbench :=
  { editor := l.editor, pending := l.pending.map Prod.snd }

/-- Does one thing and writes down what is seen of it. -/
def step (l : Ledger) : Act → Ledger
  | .start c =>
    match l.editor.begin c with
    | (editor, _, .done outcome) =>
      { l with editor, started := l.started + 1, answers := l.answers ++ [(l.started, outcome)] }
    | (editor, _, .saving t) =>
      { l with
        editor, started := l.started + 1, pending := (l.started, t) :: l.pending
        payloads := l.payloads ++ [t.payload] }
  | .finish k saved =>
    match l.pending[k]? with
    | none => l
    | some (n, t) =>
      let (editor, _, outcome) := l.editor.finish t saved
      { l with
        editor, pending := l.pending.eraseIdx k, answers := l.answers ++ [(n, outcome)] }
  | a => { l with editor := (l.bench.step a).1.editor }

/-- A ledger is a workbench on which something is written down. -/
theorem bench_step (l : Ledger) (a : Act) : (l.step a).bench = (l.bench.step a).1 := by
  cases a with
  | start c =>
    simp only [step, bench, Workbench.step]
    cases l.editor.begin c with
    | mk editor rest =>
      obtain ⟨events, outcome | t⟩ := rest
      · rfl
      · rfl
  | finish k saved =>
    simp only [step, bench, Workbench.step, List.getElem?_map]
    cases h : l.pending[k]? with
    | none => rfl
    | some p => simp only [Option.map_some, List.eraseIdx_map]
  | setField n name value =>
    simp only [step, bench, Workbench.step]
    split
    · rfl
    · rfl
  | openAdd | openEdit | closeDialog | startDrag | endDrag | attach | redraw => rfl

/-- The command that an act starts. -/
def started? : Act → Option Editor.Command
  | .start c => some c
  | _ => none

variable {l s : Ledger}

theorem step_finish_saved {k n : Nat} {t : Editor.Ticket} (h : l.pending[k]? = some (n, t)) :
    l.step (.finish k true) =
      { l with
        editor := (l.editor.finish t true).1, pending := l.pending.eraseIdx k
        answers := l.answers ++ [(n, .ok t.onSaved)] } := by
  simp only [step, h]
  rfl

/-- Commands are counted when they start. -/
theorem started_step (l : Ledger) (a : Act) :
    (l.step a).started = l.started + (started? a).toList.length := by
  cases a with
  | start c =>
    simp only [step]
    cases l.editor.begin c with
    | mk editor rest =>
      obtain ⟨events, outcome | t⟩ := rest
      · rfl
      · rfl
  | finish k saved =>
    simp only [step]
    cases l.pending[k]? with
    | none => rfl
    | some p => rfl
  | openAdd | openEdit | setField | closeDialog | startDrag | endDrag | attach | redraw => rfl

theorem started_run (l : Ledger) (acts : List Act) :
    (acts.foldl step l).started = l.started + (acts.filterMap started?).length := by
  induction acts generalizing l with
  | nil => rfl
  | cons a rest ih =>
    rw [List.foldl_cons, ih, started_step, List.filterMap_cons]
    cases started? a with
    | none => rfl
    | some c => rw [Option.toList_some, List.length_singleton, List.length_cons]; omega

/-! ## Two ways to the same answers -/

/-- The acts that carry commands out one after another: each save ends before the next command
starts. -/
def oneByOne (commands : List Editor.Command) : List Act :=
  commands.flatMap fun c => [.start c, .finish 0 true]

/-- Whether an act starts a command of the list or ends a save that has succeeded, if it does not
leave the list alone. -/
def Overlaps : Act → Prop
  | .start c => c.IsOfList
  | .finish _ saved => saved = true
  | _ => True

/-- The answer that is given when a save has succeeded. -/
def promised (p : Nat × Editor.Ticket) : Nat × Editor.Outcome :=
  (p.1, .ok p.2.onSaved)

/-- A ledger in which saves overlap beside one in which they do not. -/
structure Matches (l s : Ledger) : Prop where
  work : Editor.SameWork l.editor s.editor
  ended : s.pending = []
  started : s.started = l.started
  payloads : s.payloads = l.payloads
  /-- what the one has answered is answered or promised in the other -/
  answers : (l.answers ++ l.pending.map promised).Perm s.answers
  /-- each command is answered once -/
  numbers : s.answers.map Prod.fst = List.range s.started

/-- One more answer on both sides, which the one side may put between what it has answered and
what it has promised. -/
theorem perm_insert {answers given : List (Nat × Editor.Outcome)} {due : List (Nat × Editor.Outcome)}
    (h : (answers ++ due).Perm given) (p : Nat × Editor.Outcome) :
    (answers ++ p :: due).Perm (given ++ [p]) :=
  (List.perm_middle.trans (h.cons p)).trans (List.perm_append_singleton p given).symm

/-- Starting a command of the list in one ledger matches carrying it out in the other. -/
theorem Matches.start (h : l.Matches s) {c : Editor.Command} (hc : c.IsOfList) :
    (l.step (.start c)).Matches ((s.step (.start c)).step (.finish 0 true)) := by
  have h_numbers (outcome : Editor.Outcome) :
      (s.answers ++ [(s.started, outcome)]).map Prod.fst = List.range (s.started + 1) := by
    rw [List.map_append, h.numbers, List.range_succ, List.map_singleton]
  have h_started : s.started + 1 = l.started + 1 := congrArg (· + 1) h.started
  obtain ⟨h_work, -, h_begun⟩ := Editor.agrees_begin h.work hc
  simp only [step]
  generalize l.editor.begin c = x at h_work h_begun ⊢
  generalize s.editor.begin c = y at h_work h_begun ⊢
  obtain ⟨e, events, begun⟩ := x
  obtain ⟨e', events', begun'⟩ := y
  cases h_begun with
  | done outcome =>
    -- Nothing is saved, so there is nothing to end.
    simp only [h.ended, List.getElem?_nil]
    refine ⟨h_work, rfl, h_started, h.payloads, ?_, h_numbers outcome⟩
    dsimp only
    rw [List.append_assoc, List.singleton_append, h.started]
    exact perm_insert h.answers _
  | @saving t t' h_ticket =>
    have h_finished := Editor.sameWork_finish_saved e' t'
    simp only [h.ended, List.getElem?_cons_zero]
    refine ⟨h_work.trans h_finished, rfl, h_started, ?_, ?_, h_numbers _⟩
    · dsimp only
      rw [h.payloads, h_ticket.payload]
    · dsimp only
      rw [List.map_cons, promised, h.started, Editor.finish_saved, h_ticket.onSaved]
      exact perm_insert h.answers _

/-- The end of a save that has succeeded keeps a promise. -/
theorem Matches.finish (h : l.Matches s) (k : Nat) : (l.step (.finish k true)).Matches s := by
  cases h_ticket : l.pending[k]? with
  | none =>
    simp only [step, h_ticket]
    exact h
  | some p =>
    obtain ⟨n, t⟩ := p
    obtain ⟨hlt, h_get⟩ := List.getElem?_eq_some_iff.1 h_ticket
    have h_work := (Editor.sameWork_finish_saved l.editor t).symm.trans h.work
    rw [step_finish_saved h_ticket]
    refine ⟨h_work, h.ended, h.started, h.payloads, ?_, h.numbers⟩
    -- The answer goes from what is promised to what is answered.
    have h_moved : (promised (n, t) :: (l.pending.eraseIdx k).map promised).Perm
        (l.pending.map promised) := by
      rw [← h_get, ← List.map_cons]
      exact (List.getElem_cons_eraseIdx_perm hlt).map promised
    dsimp only
    rw [List.append_assoc, List.singleton_append]
    exact (h_moved.append_left l.answers).trans h.answers

/-- Whatever is done between two commands leaves no trace. -/
theorem Matches.aside (h : l.Matches s) {a : Act} (ha : IsAside a) : (l.step a).Matches s := by
  have h_work := (Workbench.sameWork_of_isAside l.bench ha).1.symm.trans h.work
  cases a with
  | start c => exact ha.elim
  | finish k saved => exact ha.elim
  | openAdd | openEdit | setField | closeDialog | startDrag | endDrag | attach | redraw =>
    exact ⟨h_work, h.ended, h.started, h.payloads, h.answers, h.numbers⟩

/-- One act, and the command that it starts carried out in the other ledger. -/
theorem Matches.step (h : l.Matches s) {a : Act} (ha : Overlaps a) :
    (l.step a).Matches ((oneByOne (started? a).toList).foldl Ledger.step s) := by
  cases a with
  | start c => exact h.start ha
  | finish k saved =>
    obtain rfl : saved = true := ha
    exact h.finish k
  | openAdd | openEdit | setField | closeDialog | startDrag | endDrag | attach | redraw =>
    exact h.aside trivial

theorem oneByOne_cons (c : Editor.Command) (rest : List Editor.Command) :
    oneByOne (c :: rest) = [.start c, .finish 0 true] ++ oneByOne rest := by
  rw [oneByOne, List.flatMap_cons]
  rfl

/-- Any acts, and the commands that they start carried out one after another. -/
theorem Matches.run (h : l.Matches s) {acts : List Act} (h_acts : ∀ a ∈ acts, Overlaps a) :
    (acts.foldl Ledger.step l).Matches
      ((oneByOne (acts.filterMap started?)).foldl Ledger.step s) := by
  induction acts generalizing l s with
  | nil => exact h
  | cons a rest ih =>
    have h_step := h.step (h_acts a List.mem_cons_self)
    have h_rest := ih h_step fun b hb => h_acts b (List.mem_cons_of_mem a hb)
    rw [← List.foldl_append] at h_rest
    rw [List.foldl_cons, List.filterMap_cons]
    cases h_started : started? a with
    | none =>
      rw [h_started] at h_rest
      exact h_rest
    | some c =>
      rw [h_started] at h_rest
      rw [oneByOne_cons]
      exact h_rest

/-- **Saves that overlap and succeed come to the same as saves that do not.**  Commands of the list
are started at any time, while earlier saves are under way or not; their saves succeed, and end in
any order; and in between dialogs may be opened and closed and rules picked up.  Once all saves
have ended, the list is the one that the same commands lead to one after another, the same payloads
were handed to the storage in the same order, and each command got its one answer: the one that it
would have got then. -/
theorem overlapping_eq_serial (e : Editor) (acts : List Act) (h_acts : ∀ a ∈ acts, Overlaps a)
    (h_ended : (acts.foldl step { editor := e }).pending = []) :
    let commands := acts.filterMap started?
    let overlapping := acts.foldl step { editor := e }
    let serial := (oneByOne commands).foldl step { editor := e }
    overlapping.editor.rules = serial.editor.rules ∧ overlapping.payloads = serial.payloads ∧
      overlapping.answers.Perm serial.answers ∧
      serial.answers.map Prod.fst = List.range commands.length ∧ serial.pending = [] := by
  intro commands overlapping serial
  have h_start : Matches { editor := e } { editor := e } :=
    ⟨.refl e, rfl, rfl, rfl, .refl _, rfl⟩
  have h : overlapping.Matches serial := h_start.run h_acts
  refine ⟨congrArg Book.rules h.work.book.symm, h.payloads.symm, ?_, ?_, h.ended⟩
  · have h_answers := h.answers
    rwa [show overlapping.pending = [] from h_ended, List.map_nil, List.append_nil] at h_answers
  · rw [h.numbers, h.started, started_run, Nat.zero_add]

/-- A rule is added, one is given another value and one is deleted, while no save has ended; the
saves end in another order, and the dialog of the second command is given up in between. -/
theorem overlapping_eq_serial_of_three :
    let form : Form := ⟨Headers.schema, none, none⟩
    let e := (Editor.new {} form none [.onValue "a", .onValue "b"]).1
    let acts : List Act := [
      .start (.add (.mapping [("match_value", .text "c")])),
      .start (.update 0 (.mapping [("match_value", .text "d")])), .closeDialog,
      .start (.delete 1 none), .finish 1 true, .finish 1 true, .finish 0 true]
    let commands := acts.filterMap started?
    let overlapping := acts.foldl step { editor := e }
    let serial := (oneByOne commands).foldl step { editor := e }
    (∀ a ∈ acts, Overlaps a) ∧ overlapping.pending = [] ∧
      overlapping.editor.rules = serial.editor.rules ∧ overlapping.payloads = serial.payloads ∧
      overlapping.answers.Perm serial.answers ∧
      serial.answers.map Prod.fst = List.range commands.length ∧ serial.pending = [] := by
  intro form e acts commands overlapping serial
  have h_acts : ∀ a ∈ acts, Overlaps a := by
    simp only [acts, List.forall_mem_cons]
    exact ⟨trivial, trivial, trivial, trivial, rfl, rfl, rfl, nofun⟩
  have h_ended : overlapping.pending = [] := by decide
  exact ⟨h_acts, h_ended, overlapping_eq_serial e acts h_acts h_ended⟩

end Ledger

end Rulebook
