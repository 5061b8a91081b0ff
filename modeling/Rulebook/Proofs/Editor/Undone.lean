/-
  Rulebook.Proofs.Editor.Undone

  What becomes of a command whose save has failed, while others are being saved.

  Its undo knows positions only, and by the time at which the save fails another rule may stand
  there, or none.  The book then refuses the undo, and the end of the command breaks off: the list
  is not drawn, no notice is given, and the answer is not that the command was undone.  When a book
  refuses an undo can be told from its list (`Undo.Applies`), and nothing else keeps a failed save
  from being undone and reported (`undone_iff_applies`).

  A deletion that overlaps with a change of the rule that it deletes is enough for a refusal
  (`not_undone_of_deleted`).
-/
import Rulebook.Proofs.Editor.Report

namespace Rulebook

open Arrangement (at? at?_eq_some_iff)

/-! ## Undos that a book does not refuse -/

namespace Undo

/-- Whether a book carries an undo out.  What is taken out, put back in its place or flipped has to
be there and must not be the sentinel, unless it is a sentinel that is put back; and there has to be
room for what is put in.  A move that cannot be made is none, and is not refused. -/
def Applies (u : Undo) (b : Book) : Prop :=
  match u with
  | .delete i | .toggle i _ => ∃ r ∈ at? b.rules i, r.isFinal = false
  | .replace i previous => ∃ r ∈ at? b.rules i, r.kind = previous.kind
  | .insertAt i removed => removed.isFinal = false ∧ 0 ≤ i ∧ i ≤ b.rules.length
  | .carry landed source =>
    (∃ r ∈ at? b.rules landed, r.isFinal = false) ∧ 0 ≤ source ∧ source < b.rules.length
  | .moveUp _ | .moveDown _ => True

instance (u : Undo) (b : Book) : Decidable (u.Applies b) :=
  match u with
  | .delete i | .toggle i _ =>
    inferInstanceAs (Decidable (∃ r ∈ at? b.rules i, r.isFinal = false))
  | .replace i previous => inferInstanceAs (Decidable (∃ r ∈ at? b.rules i, r.kind = previous.kind))
  | .insertAt i removed =>
    inferInstanceAs (Decidable (removed.isFinal = false ∧ 0 ≤ i ∧ i ≤ b.rules.length))
  | .carry landed source =>
    inferInstanceAs (Decidable ((∃ r ∈ at? b.rules landed, r.isFinal = false) ∧
      0 ≤ source ∧ source < b.rules.length))
  | .moveUp _ | .moveDown _ => .isTrue trivial

variable {u : Undo} {b : Book}

/-- A step that may be refused ends well if it is not refused. -/
theorem snd_step_eq_ok_iff {α : Type} {outcome : Except Book.Error α} {next : α → Book} :
    (step b outcome next).2 = .ok () ↔ ∃ a, outcome = .ok a := by
  cases outcome with
  | error e =>
    constructor
    · intro h
      exact nomatch h
    · rintro ⟨a, h⟩
      exact nomatch h
  | ok a => exact ⟨fun _ => ⟨a, rfl⟩, fun _ => rfl⟩

/-- **When a book carries an undo out.** -/
theorem snd_run_eq_ok_iff : (u.run b).2 = .ok () ↔ u.Applies b := by
  -- But for a move, an undo is one operation of the book, or two, which say when they are refused.
  cases u with
  | delete i =>
    rw [run, snd_step_eq_ok_iff]
    constructor
    · rintro ⟨⟨b', r⟩, h⟩
      obtain ⟨hr, hf, -⟩ := Book.delete_eq_ok_iff.1 h
      exact ⟨r, hr, hf⟩
    · rintro ⟨r, hr, hf⟩
      exact ⟨_, Book.delete_eq_ok_iff.2 ⟨hr, hf, rfl⟩⟩
  | toggle i flag =>
    rw [run, snd_step_eq_ok_iff]
    constructor
    · rintro ⟨⟨b', flag'⟩, h⟩
      obtain ⟨r, hr, hf, -⟩ := Book.toggle_eq_ok_iff.1 h
      exact ⟨r, hr, hf⟩
    · rintro ⟨r, hr, hf⟩
      exact ⟨_, Book.toggle_eq_ok_iff.2 ⟨r, hr, hf, rfl, rfl⟩⟩
  | replace i previous =>
    rw [run, snd_step_eq_ok_iff]
    constructor
    · rintro ⟨⟨b', r⟩, h⟩
      obtain ⟨hr, hk, -⟩ := Book.replace_eq_ok_iff.1 h
      exact ⟨r, hr, hk⟩
    · rintro ⟨r, hr, hk⟩
      exact ⟨_, Book.replace_eq_ok_iff.2 ⟨hr, hk, rfl⟩⟩
  | insertAt i removed =>
    rw [run, snd_step_eq_ok_iff]
    constructor
    · rintro ⟨b', h⟩
      obtain ⟨hf, hi, -⟩ := Book.insertAt_eq_ok_iff.1 h
      exact ⟨hf, hi⟩
    · rintro ⟨hf, hi⟩
      exact ⟨_, Book.insertAt_eq_ok_iff.2 ⟨hf, hi, rfl⟩⟩
  | moveUp i => exact ⟨fun _ => trivial, fun _ => rfl⟩
  | moveDown i => exact ⟨fun _ => trivial, fun _ => rfl⟩
  | carry landed source =>
    rw [run]
    cases hd : b.delete landed with
    | error e =>
      constructor
      · intro h
        cases h
      · rintro ⟨⟨r, hr, hf⟩, -⟩
        cases hd.symm.trans (Book.delete_eq_ok_iff.2 ⟨hr, hf, rfl⟩)
    | ok p =>
      -- The rule is put into the list without it, which is one shorter.
      obtain ⟨b', r⟩ := p
      obtain ⟨hr, hf, rfl⟩ := Book.delete_eq_ok_iff.1 hd
      obtain ⟨-, hlt⟩ := Arrangement.toNat_lt_of_at? hr
      have hlength : (b.rules.eraseIdx landed.toNat).length + 1 = b.rules.length := by
        rw [List.length_eraseIdx_of_lt hlt]
        omega
      dsimp only
      rw [snd_step_eq_ok_iff]
      constructor
      · rintro ⟨b', h⟩
        obtain ⟨-, hi, -⟩ := Book.insertAt_eq_ok_iff.1 h
        rw [Book.rules_withRules] at hi
        exact ⟨⟨r, hr, hf⟩, hi.1, by omega⟩
      · rintro ⟨-, h0, hsource⟩
        refine ⟨_, Book.insertAt_eq_ok_iff.2 ⟨hf, ⟨h0, ?_⟩, rfl⟩⟩
        rw [Book.rules_withRules]
        omega

/-- An undo that the book carries out leads to a book. -/
theorem Applies.run_eq (h : u.Applies b) : u.run b = ((u.run b).1, .ok ()) :=
  Prod.ext rfl (snd_run_eq_ok_iff.2 h)

/-- An undo that the book refuses is refused with an error. -/
theorem run_eq_of_not_applies (h : ¬ u.Applies b) :
    ∃ error, u.run b = ((u.run b).1, .error error) := by
  cases h_run : u.run b with
  | mk b' outcome =>
    cases outcome with
    | error error => exact ⟨error, rfl⟩
    | ok =>
      have h_ok : (u.run b).2 = .ok () := by rw [h_run]
      exact absurd (snd_run_eq_ok_iff.1 h_ok) h

end Undo

/-- An edit can be undone on the book that it has led to, with or without a sentinel. -/
theorem Edit.applies {b b' : Book} {u : Undo} (h : Edit b b' u) : u.Applies b' := by
  -- What undoes an operation is an operation that takes it back, so it is not refused.
  rw [← Undo.snd_run_eq_ok_iff]
  cases h with
  | insert h => exact Undo.snd_step_eq_ok_iff.2 ⟨_, Book.delete_of_insert h⟩
  | insertAt h => exact Undo.snd_step_eq_ok_iff.2 ⟨_, Book.delete_of_insertAt h⟩
  | replace h => exact Undo.snd_step_eq_ok_iff.2 ⟨_, Book.replace_of_replace h⟩
  | delete h => exact Undo.snd_step_eq_ok_iff.2 ⟨_, Book.insertAt_of_delete h⟩
  | moveUp h => rfl
  | moveDown h => rfl
  | relocate h =>
    obtain ⟨b'', r, h_delete, h_insert⟩ := Book.delete_insertAt_of_relocate? h
    rw [Undo.run, h_delete]
    exact Undo.snd_step_eq_ok_iff.2 ⟨_, h_insert⟩
  | toggle h =>
    obtain ⟨flag', h_back⟩ := Book.toggle_of_toggle h
    exact Undo.snd_step_eq_ok_iff.2 ⟨_, h_back⟩

/-! ## Answers that are due -/

namespace Editor

/-- A ticket holds an answer for either end of its save. -/
structure Ticket.Fair (t : Ticket) : Prop where
  onSaved : t.onSaved.status = .ok
  onRolledBack : t.onRolledBack.status = .rolledBack

theorem Begins.fair {e e' : Editor} {events : List Event} {t : Ticket}
    (h : Begins e (e', events, .saving t)) : t.Fair := by
  cases h with
  | saving _ _ _ _ _ h_saved h_rolledBack => exact ⟨h_saved, h_rolledBack⟩

/-- What an undo that is refused comes to is the answer neither of a saved command nor of one that
was undone. -/
theorem idle_stuck (e : Editor) (origin : Origin) (error : Book.Error) :
    Idle (e.stuck origin error) := by
  cases origin with
  | list => exact idle_error _
  | dialog n => exact idle_dialogError e error
  | toggle i =>
    rw [stuck]
    split
    · exact idle_invalidIndex e error
    · intro reply h
      rw [← Except.ok.inj h]
      exact ⟨nofun, nofun⟩

/-- An answer that speaks of a save is given if the save has succeeded only. -/
theorem Ticket.Fair.saved_of_ok {e : Editor} {t : Ticket} {saved : Bool} {reply : Reply}
    (h : t.Fair) (h_outcome : (e.finish t saved).2.2 = .ok reply) (h_ok : reply.status = .ok) :
    saved = true := by
  cases saved with
  | true => rfl
  | false =>
    cases h_run : t.undo.run e.book with
    | mk b outcome =>
      cases outcome with
      | ok =>
        rw [finish_of_undone h_run, Except.ok.injEq] at h_outcome
        rw [← h_outcome, h.onRolledBack] at h_ok
        exact nomatch h_ok
      | error error =>
        rw [finish_of_stuck h_run] at h_outcome
        exact absurd h_ok (idle_stuck _ _ _ reply h_outcome).1

/-- A command that is being saved, and ends before anything else happens, answers that it was saved
or that it was undone, as its save has turned out. -/
theorem exists_reply_of_saving {e e' : Editor} {c : Command} {events : List Event} {t : Ticket}
    (h : e.begin c = (e', events, .saving t)) (save : Value → Bool) :
    ∃ reply, (e.run c save).2.2 = .ok reply ∧
      reply.status = if save t.payload then .ok else .rolledBack := by
  have h_begins := h ▸ begins_begin e c
  have h_fair := h_begins.fair
  rw [run, h]
  dsimp only
  cases h_begins with
  | @saving _ _ book _ _ h_edit _ _ h_same =>
    cases save t.payload with
    | true =>
      rw [finish_saved]
      exact ⟨_, rfl, h_fair.onSaved⟩
    | false =>
      have h_book : e'.book = book := h_same.book
      have h_applies : t.undo.Applies e'.book := by
        rw [h_book]
        exact h_edit.applies
      rw [finish_of_undone h_applies.run_eq]
      exact ⟨_, rfl, h_fair.onRolledBack⟩

end Editor

/-- What is seen when a command has been undone: the save has failed, the list that is left is drawn
once, if there is a renderer, one notice is given, and the answer is that it was undone. -/
structure Seen.Undone (seen : Seen) (e : Editor) : Prop where
  events : seen.events = .afterSave false :: e.render ++ [.notice saveFailedNotice]
  answer : ∃ reply, seen.outcome = some (.ok reply) ∧ reply.status = .rolledBack

/-- What is seen when the end of a command has broken off: nothing but that the save has failed,
and an answer that speaks neither of a save nor of an undo. -/
structure Seen.BrokenOff (seen : Seen) : Prop where
  events : seen.events = [.afterSave false]
  answer : ∃ outcome, seen.outcome = some outcome ∧ Editor.Idle outcome

theorem Seen.BrokenOff.not_undone {seen : Seen} {e : Editor} (h : seen.BrokenOff) :
    ¬ seen.Undone e := by
  intro h_undone
  obtain ⟨outcome, h_outcome, h_idle⟩ := h.answer
  obtain ⟨reply, h_reply, h_status⟩ := h_undone.answer
  rw [h_outcome, Option.some.injEq] at h_reply
  exact (h_idle reply h_reply).2 h_status

namespace Workbench

variable {w : Workbench} {t : Editor.Ticket}

/-- Every command whose save is under way has an answer for either end of it. -/
theorem fair_step (w : Workbench) (a : Act) (h : ∀ t ∈ w.pending, t.Fair) :
    ∀ t ∈ (w.step a).1.pending, t.Fair := by
  cases a with
  | start c =>
    have h_begins := Editor.begins_begin w.editor c
    simp only [step]
    generalize w.editor.begin c = begun at h_begins ⊢
    obtain ⟨e', events, outcome | t⟩ := begun
    · exact h
    · intro t' ht
      rcases List.mem_cons.1 ht with rfl | ht
      · exact h_begins.fair
      · exact h t' ht
  | finish k saved =>
    simp only [step]
    split
    · exact h
    · intro t ht
      exact h t (List.mem_of_mem_eraseIdx ht)
  | setField n name value =>
    simp only [step]
    split
    · exact h
    · exact h
  | openAdd | openEdit | closeDialog | startDrag | endDrag | attach | redraw => exact h

theorem fair_after (h : ∀ t ∈ w.pending, t.Fair) (acts : List Act) :
    ∀ t ∈ (Run.after step w acts).pending, t.Fair :=
  Run.inv_after (fun w a h (_ : True) => fair_step w a h) h
    (Run.allowed_of_forall fun _ _ _ => trivial)

/-- A failed save is undone and reported if the book carries the undo out. -/
theorem undone_of_applies {k : Nat} (h_ticket : w.pending[k]? = some t) (h_fair : t.Fair)
    (h : t.undo.Applies w.editor.book) :
    (w.step (.finish k false)).2.Undone (w.step (.finish k false)).1.editor := by
  simp only [step, h_ticket, Editor.finish_of_undone h.run_eq]
  refine ⟨?_, t.onRolledBack, rfl, h_fair.onRolledBack⟩
  rw [Desk.render_releaseDialog]

/-- The end of a command breaks off if the book refuses the undo. -/
theorem brokenOff_of_not_applies {k : Nat} (h_ticket : w.pending[k]? = some t)
    (h : ¬ t.undo.Applies w.editor.book) : (w.step (.finish k false)).2.BrokenOff := by
  obtain ⟨error, h_run⟩ := Undo.run_eq_of_not_applies h
  simp only [step, h_ticket, Editor.finish_of_stuck h_run]
  exact ⟨rfl, _, rfl, Editor.idle_stuck _ _ _⟩

/-- **When a failed save is undone and reported.**  Whatever commands have been started and have
ended so far, in whatever order, if one of the saves that are under way fails now, then its command
is undone, the list is drawn once, one notice is given and the answer is that it was undone, exactly
if the book as it now is does not refuse the undo.  If it does, nothing is drawn, no notice is
given, and the answer is that of a command that has done nothing, or an error. -/
theorem undone_iff_applies (settings : Settings) (form : Form) (renderer : Option String)
    (rules : List Rule) (acts : List Act) (k : Nat) (t : Editor.Ticket)
    (h_ticket :
      (Run.after step (new settings form renderer rules).1 acts).pending[k]? = some t) :
    let w := Run.after step (new settings form renderer rules).1 acts
    let ended := w.step (.finish k false)
    (ended.2.Undone ended.1.editor ↔ t.undo.Applies w.editor.book) ∧
      (¬ t.undo.Applies w.editor.book → ended.2.BrokenOff) := by
  intro w ended
  have h_fair : t.Fair :=
    fair_after (fun _ ht => absurd ht List.not_mem_nil) acts t (List.mem_of_getElem? h_ticket)
  refine ⟨⟨fun h_undone => ?_, undone_of_applies h_ticket h_fair⟩,
    brokenOff_of_not_applies h_ticket⟩
  by_contra h
  exact (brokenOff_of_not_applies h_ticket h).not_undone h_undone

/-- A rule is deleted, then another one above it; the first deletion fails, and its rule goes back
behind the one that is left. -/
theorem undone_deletion :
    let start := (new {} ⟨{}, none, none⟩ (some "table")
      [.onValue "a", .onValue "b", .onValue "c", .onValue "d"]).1
    let acts : List Act := [.start (.delete 2 none), .start (.delete 0 none)]
    let w := Run.after step start acts
    ∃ t, w.pending[1]? = some t ∧ t.undo.Applies w.editor.book ∧
      (w.step (.finish 1 false)).2.Undone (w.step (.finish 1 false)).1.editor := by
  intro start acts w
  refine ⟨_, rfl, by decide, ?_⟩
  exact (undone_iff_applies {} _ (some "table") _ acts 1 _ rfl).1.2 (by decide)

/-- A rule is disabled, and deleted before that is saved.  When the save fails, the sentinel stands
in the place of the rule: the command is answered as if it had been refused, although nothing was
refused when it was carried out, and neither is the list drawn nor is a notice given. -/
theorem not_undone_of_deleted :
    let start := (new {} ⟨{}, none, none⟩ (some "table") [.onValue "a"]).1
    let acts : List Act := [.start (.toggle 0 (.bool false)), .start (.delete 0 none)]
    let ended := (Run.after step start acts).step (.finish 1 false)
    Settings.hasFinal {} = true ∧ ended.2.events = [.afterSave false] ∧
      ended.2.outcome = some (.ok (.ofRejected 0 "FINAL rule is always enabled")) ∧
      ¬ ended.2.Undone ended.1.editor := by
  intro start acts ended
  have h_outcome :
      ended.2.outcome = some (.ok (.ofRejected 0 "FINAL rule is always enabled")) := rfl
  refine ⟨rfl, rfl, h_outcome, fun h => ?_⟩
  obtain ⟨reply, h_reply, h_status⟩ := h.answer
  rw [h_outcome, Option.some.injEq, Except.ok.injEq] at h_reply
  rw [← h_reply] at h_status
  exact nomatch h_status

end Workbench

end Rulebook
