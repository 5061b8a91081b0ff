/-
  Rulebook.Proofs.Editor.Sentinel

  An editor with a sentinel ends its list with it, and stores and draws such lists only.

  As long as one command is carried out after another, this holds throughout, whatever becomes of
  the saves (`endsInSentinel_sequential`): the undo of a command whose save has failed finds the
  book as the command left it, and leads back to the book before.

  If commands overlap, an undo may find a shorter list and put its rule behind the sentinel.  That
  is the only way in which the sentinel loses the last place (`endsInSentinel_iff_allowed`), and
  two deletions are enough for it (`not_endsInSentinel_of_deletions`).
-/
import Rulebook.Proofs.Book.Overshoot
import Rulebook.Proofs.Book.Stored
import Rulebook.Proofs.Book.Undo
import Rulebook.Proofs.Editor.Workbench

namespace Rulebook

/-- Every list that was drawn or handed to the storage ends in the sentinel. -/
structure Seen.InOrder (seen : Seen) : Prop where
  drawn : ∀ name rules, .rendered name rules ∈ seen.events → EndsInSentinel rules
  stored : ∀ payload ∈ seen.payload, StoresSentinel payload

theorem Seen.Shows.inOrder {seen : Seen} {b : Book} (h : seen.Shows b)
    (hb : EndsInSentinel b.rules) : seen.InOrder := by
  constructor
  · intro name rules hmem
    rw [h.drawn name rules hmem]
    exact hb
  · intro payload hmem
    obtain ⟨key, rfl⟩ := h.stored payload hmem
    exact storesSentinel_toValue_iff.2 hb

namespace Workbench

variable {w : Workbench} {a : Act}

theorem inOrder_new {settings : Settings} (form : Form) (renderer : Option String)
    (rules : List Rule) (h_final : settings.hasFinal = true) :
    (new settings form renderer rules).1.editor.book.InOrder := by
  have h_book : (new settings form renderer rules).1.editor.book =
      Book.new rules true settings.placement settings.finalDescription := by
    rw [← h_final]
    rfl
  rw [h_book]
  exact Book.inOrder_new rules _ _

theorem shows_new (settings : Settings) (form : Form) (renderer : Option String)
    (rules : List Rule) :
    (new settings form renderer rules).2.Shows
      (new settings form renderer rules).1.editor.book := by
  constructor
  · intro name rules' hmem
    exact Saver.rendered_render hmem
  · intro payload hmem
    exact nomatch hmem

/-! ## One command after another -/

/-- A command is started only while no save is under way. -/
def Sequential (w : Workbench) : Act → Prop
  | .start _ => w.pending = []
  | _ => True

instance (w : Workbench) : (a : Act) → Decidable (w.Sequential a)
  | .start _ => decidable_of_iff (w.pending.isEmpty = true) List.isEmpty_iff
  | .openAdd | .openEdit _ | .setField .. | .closeDialog | .startDrag _ | .endDrag | .attach _
  | .redraw | .finish .. => .isTrue trivial

/-- The book is in order, and the command that is being saved, if there is one, can be undone. -/
structure Undoable (w : Workbench) : Prop where
  book : w.editor.book.InOrder
  pending : ∀ t ∈ w.pending, w.pending = [t] ∧
    ∃ b : Book, b.InOrder ∧ t.undo.run w.editor.book = (b, .ok ())

/-- One act keeps the book in order and what is being saved undoable. -/
theorem undoable_step (w : Workbench) (a : Act) (h : w.Undoable) (ha : w.Sequential a) :
    (w.step a).1.Undoable := by
  cases turn_step w a with
  | quiet h_book h_pending =>
    constructor
    · rw [h_book]
      exact h.book
    · rw [h_book, h_pending]
      exact h.pending
  | edited h_edit h_pending =>
    refine ⟨h_edit.inOrder h.book, fun t ht => ?_⟩
    rw [h_pending, show w.pending = [] from ha] at ht
    exact absurd ht List.not_mem_nil
  | @started c t h_edit h_pending =>
    refine ⟨h_edit.inOrder h.book, fun t' ht => ?_⟩
    rw [h_pending, show w.pending = [] from ha] at ht ⊢
    -- What was started is the only one, and its undo leads back to the book of before.
    obtain rfl := List.mem_singleton.1 ht
    exact ⟨rfl, w.editor.book, h.book, h_edit.run_undo h.book.rules.endsFixed⟩
  | @finished k saved t h_ticket h_book h_pending =>
    obtain ⟨h_single, b, hb, h_run⟩ := h.pending t (List.mem_of_getElem? h_ticket)
    constructor
    · rw [h_book]
      split
      · exact h.book
      · rw [h_run]
        exact hb
    · -- The save that has ended was the only one.
      intro t' ht
      have hk : k = 0 := by
        obtain ⟨hlt, -⟩ := List.getElem?_eq_some_iff.1 h_ticket
        rw [h_single, List.length_singleton] at hlt
        omega
      rw [h_pending, h_single, hk] at ht
      exact absurd ht List.not_mem_nil

/-- **One command after another keeps the sentinel in its place.**  From any raw list, with any
form and whatever is asked for, after each beginning of a run in which a command is started only
when the one before it has ended: exactly one rule is the sentinel, it is the last one, and it is
enabled.  The same goes for every list that is drawn and for every payload. -/
theorem endsInSentinel_sequential (settings : Settings) (form : Form) (renderer : Option String)
    (rules : List Rule) (acts : List Act) (h_final : settings.hasFinal = true)
    (h_acts : Run.Allowed step Sequential (new settings form renderer rules).1 acts) :
    (∀ before, before <+: acts →
      EndsInSentinel
        (Run.after step (new settings form renderer rules).1 before).editor.rules) ∧
    ∀ seen ∈ (new settings form renderer rules).2 ::
        Run.shown step (new settings form renderer rules).1 acts, seen.InOrder := by
  have h_start : (new settings form renderer rules).1.Undoable :=
    ⟨inOrder_new form renderer rules h_final, fun _ ht => absurd ht List.not_mem_nil⟩
  constructor
  · intro before h_before
    exact (Run.inv_prefix undoable_step h_start h_acts h_before).book.rules
  · intro seen hseen
    rcases List.mem_cons.1 hseen with rfl | hseen
    · exact (shows_new settings form renderer rules).inOrder h_start.book.rules
    · refine Run.right_shown undoable_step (fun w a h ha => ?_) h_start h_acts seen hseen
      exact (shows_step w a).inOrder (undoable_step w a h ha).book.rules

/-- A deletion whose save fails, in a list whose sentinel was first. -/
theorem endsInSentinel_failed_deletion :
    let start := new {} ⟨{}, none, none⟩ (some "table") [.fallback "", .onValue "a", .onValue "b"]
    let acts : List Act := [.start (.delete 0 none), .finish 0 false, .start (.moveDown 0)]
    Settings.hasFinal {} = true ∧ Run.Allowed step Sequential start.1 acts ∧
      (∀ before, before <+: acts →
        EndsInSentinel (Run.after step start.1 before).editor.rules) ∧
      ∀ seen ∈ start.2 :: Run.shown step start.1 acts, seen.InOrder :=
  ⟨rfl, by decide, endsInSentinel_sequential {} _ _ _ _ rfl (by decide)⟩

/-! ## Commands that overlap -/

/-- Whether an act ends a save that has failed, and puts a rule behind the last one in undoing its
command. -/
def Overshoots (w : Workbench) : Act → Prop
  | .finish k false => ∃ t ∈ w.pending[k]?, t.undo.Overshoots w.editor.book
  | _ => False

instance (w : Workbench) : (a : Act) → Decidable (w.Overshoots a)
  | .finish k false =>
    inferInstanceAs (Decidable (∃ t ∈ w.pending[k]?, t.undo.Overshoots w.editor.book))
  | .openAdd | .openEdit _ | .setField .. | .closeDialog | .startDrag _ | .endDrag | .attach _
  | .redraw | .start _ | .finish _ true => .isFalse id

/-- An act neither brings a sentinel nor takes one away. -/
theorem countP_step (w : Workbench) (a : Act) :
    (w.step a).1.editor.book.rules.countP Rule.isFinal =
      w.editor.book.rules.countP Rule.isFinal := by
  cases turn_step w a with
  | quiet h_book => rw [h_book]
  | edited h_edit => exact h_edit.countP_eq
  | started h_edit => exact h_edit.countP_eq
  | @finished k saved t _ h_book =>
    rw [h_book]
    split
    · rfl
    · exact t.undo.countP_run w.editor.book

/-- An act that does not overshoot keeps the book in order, whatever is being saved. -/
theorem inOrder_step (w : Workbench) (a : Act) (h : w.editor.book.InOrder)
    (ha : ¬ w.Overshoots a) : (w.step a).1.editor.book.InOrder := by
  cases turn_step w a with
  | quiet h_book =>
    rw [h_book]
    exact h
  | edited h_edit => exact h_edit.inOrder h
  | started h_edit => exact h_edit.inOrder h
  | @finished k saved t h_ticket h_book =>
    rw [h_book]
    cases saved with
    | true => exact h
    | false => exact (Undo.edits_run fun h_over => ha ⟨t, h_ticket, h_over⟩).inOrder h

/-- An act that overshoots takes the last place from the sentinel. -/
theorem not_endsInSentinel_step (ha : w.Overshoots a) :
    ¬ EndsInSentinel (w.step a).1.editor.book.rules := by
  cases a with
  | finish k saved =>
    cases saved with
    | true => exact ha.elim
    | false =>
      obtain ⟨t, h_ticket, h_over⟩ := ha
      obtain ⟨b, r, -, hr, h_run⟩ := Undo.run_of_overshoots h_over
      have h_book : (w.step (.finish k false)).1.editor.book = b.behind r := by
        simp only [step, show w.pending[k]? = some t from h_ticket, Editor.book_finish,
          Bool.false_eq_true, if_false, h_run]
      rw [h_book]
      exact Book.not_endsInSentinel_behind hr
  | _ => exact ha.elim

/-- **What overlapping commands may do to the sentinel.**  Whatever commands are started while
others are being saved, in whatever order the saves end, and whatever becomes of them: there is
exactly one sentinel throughout.  It is the last rule throughout, and each payload ends with it,
exactly if no undo puts a rule behind the last one. -/
theorem endsInSentinel_iff_allowed (settings : Settings) (form : Form) (renderer : Option String)
    (rules : List Rule) (acts : List Act) (h_final : settings.hasFinal = true) :
    (∀ before, before <+: acts →
      (Run.after step (new settings form renderer rules).1 before).editor.book.rules.countP
        Rule.isFinal = 1) ∧
    (((∀ before, before <+: acts →
        EndsInSentinel
          (Run.after step (new settings form renderer rules).1 before).editor.book.rules) ∧
      ∀ seen ∈ Run.shown step (new settings form renderer rules).1 acts, seen.InOrder) ↔
    Run.Allowed step (fun w a => ¬ w.Overshoots a) (new settings form renderer rules).1 acts) := by
  have h_start := inOrder_new form renderer rules h_final
  refine ⟨fun before h_before => ?_, ?_, fun h_acts => ⟨fun before h_before => ?_, ?_⟩⟩
  · have h_step (w : Workbench) (a : Act) (h : w.editor.book.rules.countP Rule.isFinal = 1)
        (_ : True) : (w.step a).1.editor.book.rules.countP Rule.isFinal = 1 :=
      (countP_step w a).trans h
    exact Run.inv_after h_step h_start.rules.once (Run.allowed_of_forall fun _ _ _ => trivial)
  · -- An act that overshoots is seen in the list that it leaves.
    intro ⟨h_rules, _⟩
    refine Run.allowed_iff_prefix.2 fun before a h_before h_over => ?_
    have h := h_rules (before ++ [a]) h_before
    rw [Run.after_append] at h
    exact not_endsInSentinel_step h_over h
  · exact (Run.inv_prefix inOrder_step h_start h_acts h_before).rules
  · refine Run.right_shown inOrder_step (fun w a h ha => ?_) h_start h_acts
    exact (shows_step w a).inOrder (inOrder_step w a h ha).rules

/-- Two deletions that overlap and are undone, the last one first. -/
theorem endsInSentinel_undone_deletions :
    let start := new {} ⟨{}, none, none⟩ none [.onValue "a", .onValue "b"]
    let acts : List Act :=
      [.start (.delete 1 none), .start (.delete 0 none), .finish 0 false, .finish 0 false]
    Settings.hasFinal {} = true ∧
      Run.Allowed step (fun w a => ¬ w.Overshoots a) start.1 acts ∧
      (∀ before, before <+: acts →
        EndsInSentinel (Run.after step start.1 before).editor.book.rules) ∧
      ∀ seen ∈ Run.shown step start.1 acts, seen.InOrder :=
  ⟨rfl, by decide, (endsInSentinel_iff_allowed {} _ _ _ _ rfl).2.2 (by decide)⟩

/-- Of two deletions that overlap, the first one fails: its rule is put back behind the
sentinel. -/
theorem not_endsInSentinel_of_deletions :
    let start := (new {} ⟨{}, none, none⟩ none [.onValue "a", .onValue "b"]).1
    let acts : List Act := [.start (.delete 1 none), .start (.delete 0 none), .finish 1 false]
    (Run.after step start acts).editor.book.rules =
        [.fallback Rule.defaultFinalDescription, .onValue "b"] ∧
      ¬ EndsInSentinel (Run.after step start acts).editor.book.rules := by
  decide

end Workbench

end Rulebook
