/-
  Rulebook.Proofs.Dialog.Session

  The life of a dialog over a book that others change as well.

  A call is refused because of the stage of the dialog exactly if it is made in the wrong one; any
  other refusal comes from the draft or from the book.  Whatever is refused, and a commit that the
  check finds fault with, leaves the dialog and the book as they were, and a commit that stores its
  rule is the only call that changes the book.

  What carries the run is small (`Dialog.Tidy`): a dialog that is open has a draft, and one that is
  closed or was cancelled has none.  It does not speak of the book, so it does not matter what is
  done to the book in between.
-/
import Rulebook.Proofs.Book.Sentinel
import Rulebook.Proofs.Dialog.Draft
import Rulebook.Proofs.Dialog.Fresh

namespace Rulebook.Dialog

/-! ## Calls -/

/-- A call on a dialog. -/
inductive Call where
  | «open» (existing : Option Rule) (index : Int)
  | set (name : Name) (value : Value)
  | collect
  | candidate
  | commit
  | cancel
  | close

/-- Whether a call is one on a dialog that is open; the other calls are for one that is not. -/
def Call.isOfOpen : Call → Bool
  | .open .. | .close => false
  | .set .. | .collect | .candidate | .commit | .cancel => true

/-- What a call that is not refused answers. -/
inductive Answer where
  | done
  /-- whether it was worked out again what is shown -/
  | told (again : Bool)
  | values (values : Entries)
  | rule (r : Rule)
  | ended (result : Commit)

/-- What a call comes to: the dialog and the book that it leads to, and its answer. -/
def call (form : Form) (d : Dialog) (b : Book) : Call → Except Error (Dialog × Book × Answer)
  | .open existing index => (d.open form existing index).map fun d' => (d', b, .done)
  | .set name value => (d.set form name value).map fun p => (p.1, b, .told p.2)
  | .collect => d.collect.map fun values => (d, b, .values values)
  | .candidate => d.candidate.map fun r => (d, b, .rule r)
  | .commit => (d.commit form b).map fun p => (p.1, p.2.1, .ended p.2.2)
  | .cancel => d.cancel.map fun d' => (d', b, .done)
  | .close => d.close.map fun d' => (d', b, .done)

/-- Whether a call was refused because of the stage of the dialog. -/
def Error.isMistimed : Error → Bool
  | .alreadyOpen | .stillOpen | .notOpen _ => true
  | .unknownField _ | .notName | .notShown _ | .refused _ => false

/-! ## A dialog and a book -/

/-- A dialog, and the book that it is about. -/
structure Session where
  dialog : Dialog := {}
  shelf : Shelf

namespace Session

/-- What can happen: a call on the dialog, or an operation on the book by somebody else. -/
inductive Act where
  | call (c : Call)
  | other (a : Shelf.Act)

/-- What a call answers. -/
def answer (form : Form) (s : Session) (c : Call) : Except Error Answer :=
  (s.dialog.call form s.shelf.book c).map fun p => p.2.2

/-- The session after a call.  One that is refused changes nothing, except that the dialog stays as
it is by then if it cannot be worked out what is shown. -/
def keep (s : Session) : Except Error (Dialog × Book × Answer) → Session
  | .ok (dialog, book, _) => { dialog, shelf := { s.shelf with book } }
  | .error (.notShown left) => { s with dialog := left }
  | .error _ => s

/-- Does one thing; a call shows what it answers. -/
def step (form : Form) (s : Session) : Act → Session × Option (Except Error Answer)
  | .call c => (s.keep (s.dialog.call form s.shelf.book c), some (s.answer form c))
  | .other a => ({ s with shelf := (s.shelf.step a).1 }, none)

end Session

/-- The dialog has a draft if it is open, and none, with nothing shown, if it is closed or was
cancelled. -/
structure Tidy (d : Dialog) : Prop where
  opened : d.stage = .opened → d.draft.isSome = true
  ended : d.stage = .closed ∨ d.stage = .cancelled → d.draft = none ∧ d.visibility = []

/-- What storing the rule of a draft does to a book, and the answer: a new rule is put in once,
where the book puts new rules; any other takes the place of the rule at the position of the draft,
which is of its kind. -/
inductive Stores (b : Book) (draft : Draft) (r : Rule) : Book → Int → Option Rule → Prop where
  | new (h_new : draft.index < 0) (h_final : r.isFinal = false) :
    Stores b draft r (b.withRules (b.rules.insertIdx (b.insertionIndex b.placement) r))
      (b.insertionIndex b.placement) none
  | inPlace {old : Rule} (h_old : 0 ≤ draft.index)
      (h_at : Arrangement.at? b.rules draft.index = some old) (h_kind : old.kind = r.kind) :
    Stores b draft r (b.withRules (b.rules.set draft.index.toNat r)) draft.index (some old)

variable {form : Form} {d d' : Dialog} {b b' : Book} {draft : Draft} {e : Error}

/-! ## What each function can do -/

theorem isOpen_iff : d.isOpen = true ↔ d.stage = .opened := by
  rw [isOpen, beq_iff_eq]

/-- In a tidy dialog there is a draft to work on if it is open. -/
theorem Tidy.openDraft (h : d.Tidy) (h_open : d.isOpen = true) :
    ∃ draft, d.openDraft = .ok draft := by
  obtain ⟨draft, h_draft⟩ := Option.isSome_iff_exists.1 (h.opened (isOpen_iff.1 h_open))
  exact ⟨draft, openDraft_eq_ok_iff.2 ⟨h_open, h_draft⟩⟩

/-- A dialog that is open, or was committed, is tidy if it has a draft. -/
theorem Tidy.of_draft (h_stage : d.stage = .opened ∨ d.stage = .committed)
    (h_draft : d.draft = some draft) : d.Tidy := by
  refine ⟨fun _ => by rw [h_draft, Option.isSome_some], fun h_ended => ?_⟩
  rcases h_stage with h_stage | h_stage <;> rw [h_stage] at h_ended <;> simp at h_ended

theorem tidy_closed : Tidy {} := by
  refine ⟨fun h => ?_, fun _ => ⟨rfl, rfl⟩⟩
  exact nomatch h

/-- Working out what is shown leaves the dialog in its stage, with the draft; it is refused only if
the name of a field is no name. -/
theorem showing_cases (form : Form) (d : Dialog) (draft : Draft) :
    (∃ d', showing form d draft = .ok d' ∧ d'.stage = d.stage ∧ d'.draft = some draft) ∨
      form.schema.hasNames = false ∧
        showing form d draft = .error (.notShown { d with draft := some draft }) := by
  cases h_names : form.schema.hasNames with
  | true => exact .inl ⟨_, showing_of_hasNames h_names d draft, rfl, rfl⟩
  | false =>
    refine .inr ⟨rfl, ?_⟩
    rw [showing, h_names, if_neg Bool.false_ne_true]

/-- Giving a field a value leaves the dialog in its stage. -/
theorem stage_of_set {name : Name} {value : Value} {told : Bool}
    (h : d.set form name value = .ok (d', told)) : d'.stage = d.stage := by
  obtain ⟨draft, -, h⟩ := bind_eq_ok_iff.1 h
  split at h
  · dsimp only at h
    split at h
    · obtain ⟨d'', h_showing, h⟩ := bind_eq_ok_iff.1 h
      obtain ⟨rfl, -⟩ := Prod.mk.inj (Except.ok.inj h)
      rcases showing_cases form d { draft with values := draft.values.put name value } with
        ⟨shown, h_shown, h_stage, -⟩ | ⟨-, h_shown⟩
      · rw [h_shown] at h_showing
        rw [← Except.ok.inj h_showing, h_stage]
      · rw [h_shown] at h_showing
        exact nomatch h_showing
    · obtain ⟨rfl, -⟩ := Prod.mk.inj (Except.ok.inj h)
      rfl
  · exact nomatch h

/-- What storing the rule of a draft comes to if the book takes it. -/
theorem stores_of_store {r s : Rule} {i : Int} {previous : Option Rule}
    (h : store b draft r = .ok (b', .stored s i previous)) : Stores b draft r b' i previous := by
  unfold store at h
  split at h
  · rename_i h_new
    obtain ⟨⟨b'', k⟩, h_insert, h⟩ := bind_eq_ok_iff.1 h
    obtain ⟨rfl, h_stored⟩ := Prod.mk.inj (Except.ok.inj h)
    obtain ⟨-, rfl, rfl⟩ := Commit.stored.inj h_stored
    obtain ⟨h_final, rfl, rfl⟩ := Book.insert_eq_ok_iff.1 h_insert
    exact .new (of_decide_eq_true h_new) h_final
  · rename_i h_old
    obtain ⟨⟨b'', old⟩, h_replace, h⟩ := bind_eq_ok_iff.1 h
    obtain ⟨rfl, h_stored⟩ := Prod.mk.inj (Except.ok.inj h)
    obtain ⟨-, rfl, rfl⟩ := Commit.stored.inj h_stored
    obtain ⟨h_at, h_kind, rfl⟩ := Book.replace_eq_ok_iff.1 h_replace
    exact .inPlace (Int.not_lt.1 fun h => h_old (decide_eq_true h)) h_at h_kind

/-! ## Calls that are refused -/

/-- What a call is refused with is about the stage exactly if the stage is wrong, and only if it
cannot be worked out what is shown the dialog is another one afterwards. -/
structure Refusal (form : Form) (d : Dialog) (c : Call) (e : Error) : Prop where
  mistimed : e.isMistimed = true ↔ d.isOpen ≠ c.isOfOpen
  left : ∀ left, e = .notShown left → form.schema.hasNames = false ∧ left.Tidy

/-- A call in its stage is refused with something else than the stage. -/
theorem Refusal.of_timely {c : Call} (h_time : d.isOpen = c.isOfOpen)
    (h_other : e.isMistimed = false)
    (h_left : ∀ left, e = .notShown left → form.schema.hasNames = false ∧ left.Tidy) :
    Refusal form d c e :=
  ⟨by simp [h_time, h_other], h_left⟩

/-- A call in a wrong stage is refused with that. -/
theorem Refusal.of_mistimed {c : Call} (h_time : d.isOpen ≠ c.isOfOpen)
    (h_stage : e.isMistimed = true) : Refusal form d c e := by
  refine ⟨by simp [h_time, h_stage], fun left h_left => ?_⟩
  rw [h_left] at h_stage
  exact nomatch h_stage

/-- If a call that works on the draft is refused although the dialog is open, it is what it makes
of the draft that is refused. -/
theorem Refusal.of_draft {β : Type} {c : Call} {work : Draft → Except Error β} (h_tidy : d.Tidy)
    (h_call : c.isOfOpen = true) (h : (d.openDraft >>= work) = .error e)
    (h_work : ∀ draft, d.isOpen = true → work draft = .error e → e.isMistimed = false ∧
      ∀ left, e = .notShown left → form.schema.hasNames = false ∧ left.Tidy) :
    Refusal form d c e := by
  cases h_open : d.isOpen with
  | false =>
    rw [openDraft_of_not_open h_open] at h
    obtain rfl := Except.error.inj h
    exact .of_mistimed (by rw [h_open, h_call]; exact Bool.false_ne_true) rfl
  | true =>
    obtain ⟨draft, h_draft⟩ := h_tidy.openDraft h_open
    rw [h_draft] at h
    obtain ⟨h_other, h_left⟩ := h_work draft h_open h
    exact .of_timely (by rw [h_open, h_call]) h_other h_left

theorem refusal_of_open {existing : Option Rule} {index : Int}
    (h : d.open form existing index = .error e) : Refusal form d (.open existing index) e := by
  unfold «open» at h
  split at h
  · rename_i h_open
    obtain rfl := Except.error.inj h
    exact .of_mistimed (by rw [h_open]; exact Bool.false_ne_true.symm) rfl
  · rename_i h_open
    have h_time : d.isOpen = false := Bool.eq_false_iff.2 h_open
    dsimp only at h
    split at h
    · obtain rfl := Except.error.inj h
      exact .of_timely h_time rfl fun left h_left => nomatch h_left
    · rename_i values _
      rcases showing_cases form { d with stage := .opened } _ with
        ⟨d', h_shown, -⟩ | ⟨h_names, h_shown⟩
      · rw [h_shown] at h
        exact nomatch h
      · rw [h_shown] at h
        obtain rfl := Except.error.inj h
        refine .of_timely h_time rfl fun left h_left => ⟨h_names, ?_⟩
        obtain rfl := Error.notShown.inj h_left
        exact .of_draft (.inl rfl) rfl

theorem refusal_of_set {name : Name} {value : Value} (h_tidy : d.Tidy)
    (h : d.set form name value = .error e) : Refusal form d (.set name value) e := by
  refine .of_draft h_tidy rfl h fun draft h_open h_work => ?_
  split at h_work
  · dsimp only at h_work
    split at h_work
    · rcases bind_eq_error_iff.1 h_work with h_showing | ⟨d', -, h_pure⟩
      · rcases showing_cases form d { draft with values := draft.values.put name value } with
          ⟨d', h_shown, -⟩ | ⟨h_names, h_shown⟩
        · rw [h_shown] at h_showing
          exact nomatch h_showing
        · rw [h_shown] at h_showing
          obtain rfl := Except.error.inj h_showing
          refine ⟨rfl, fun left h_left => ⟨h_names, ?_⟩⟩
          obtain rfl := Error.notShown.inj h_left
          exact .of_draft (.inl (isOpen_iff.1 h_open)) rfl
      · exact nomatch h_pure
    · exact nomatch h_work
  · obtain rfl := Except.error.inj h_work
    exact ⟨rfl, fun left h_left => nomatch h_left⟩

theorem refusal_of_commit (h_tidy : d.Tidy) (h : d.commit form b = .error e) :
    Refusal form d .commit e := by
  refine .of_draft h_tidy rfl h fun draft _ h_work => ?_
  dsimp only at h_work
  split at h_work
  · exact nomatch h_work
  · split at h_work
    · exact nomatch h_work
    · obtain rfl := Except.error.inj h_work
      exact ⟨rfl, fun left h_left => nomatch h_left⟩

/-- **A call is refused because of the stage exactly if it is made in the wrong one.** -/
theorem refusal_of_call {c : Call} (h_tidy : d.Tidy) (h : d.call form b c = .error e) :
    Refusal form d c e := by
  cases c with
  | «open» existing index => exact refusal_of_open (map_eq_error_iff.1 h)
  | set name value => exact refusal_of_set h_tidy (map_eq_error_iff.1 h)
  | collect => exact .of_draft h_tidy rfl (map_eq_error_iff.1 h) fun _ _ h_work => nomatch h_work
  | candidate => exact .of_draft h_tidy rfl (map_eq_error_iff.1 h) fun _ _ h_work => nomatch h_work
  | commit => exact refusal_of_commit h_tidy (map_eq_error_iff.1 h)
  | cancel => exact .of_draft h_tidy rfl (map_eq_error_iff.1 h) fun _ _ h_work => nomatch h_work
  | close =>
    have h_close := map_eq_error_iff.1 h
    unfold close at h_close
    split at h_close
    · rename_i h_open
      obtain rfl := Except.error.inj h_close
      exact .of_mistimed (by rw [h_open]; exact Bool.false_ne_true.symm) rfl
    · exact nomatch h_close

/-! ## Calls that are not refused -/

/-- What a call that is not refused has done: it was made in its stage, and only a commit that
stored its rule has made another book. -/
structure Success (form : Form) (d : Dialog) (b : Book) (c : Call) (d' : Dialog) (b' : Book)
    (a : Answer) : Prop where
  timely : d.isOpen = c.isOfOpen
  tidy : d'.Tidy
  book : b' = b ∨ ∃ r i previous, c = .commit ∧ a = .ended (.stored r i previous)
  invalid : ∀ message i, a = .ended (.invalid message i) → d' = d ∧ b' = b
  stored : ∀ r i previous, a = .ended (.stored r i previous) →
    ∃ draft, d.draft = some draft ∧ form.complaint (d.candidateOf draft) draft.isFinal = none ∧
      r = form.finished (d.candidateOf draft) draft.isFinal ∧
      Stores b draft r b' i previous ∧ d' = { d with stage := .committed }

/-- A call that is no commit does nothing to the book. -/
theorem Success.of_other {c : Call} {a : Answer} (h_time : d.isOpen = c.isOfOpen)
    (h_tidy : d'.Tidy) (h_answer : ∀ result, a ≠ .ended result) : Success form d b c d' b a where
  timely := h_time
  tidy := h_tidy
  book := .inl rfl
  invalid _ _ h := absurd h (h_answer _)
  stored _ _ _ h := absurd h (h_answer _)

/-- If a call that works on the draft is not refused, the dialog is open. -/
theorem exists_of_draft {β : Type} {work : Draft → Except Error β} {y : β}
    (h : (d.openDraft >>= work) = .ok y) :
    d.isOpen = true ∧ ∃ draft, d.draft = some draft ∧ work draft = .ok y := by
  obtain ⟨draft, h_draft, h_work⟩ := bind_eq_ok_iff.1 h
  obtain ⟨h_open, h_some⟩ := openDraft_eq_ok_iff.1 h_draft
  exact ⟨h_open, draft, h_some, h_work⟩

theorem success_of_open {existing : Option Rule} {index : Int}
    (h : d.open form existing index = .ok d') :
    Success form d b (.open existing index) d' b .done := by
  unfold «open» at h
  split at h
  · exact nomatch h
  · rename_i h_open
    dsimp only at h
    split at h
    · exact nomatch h
    · rcases showing_cases form { d with stage := .opened } _ with
        ⟨shown, h_shown, h_stage, h_draft⟩ | ⟨-, h_shown⟩
      · rw [h_shown] at h
        obtain rfl := Except.ok.inj h
        exact .of_other (Bool.eq_false_iff.2 h_open) (.of_draft (.inl h_stage) h_draft)
          fun _ h => nomatch h
      · rw [h_shown] at h
        exact nomatch h

theorem success_of_set {name : Name} {value : Value} {told : Bool}
    (h : d.set form name value = .ok (d', told)) :
    Success form d b (.set name value) d' b (.told told) := by
  obtain ⟨h_open, -⟩ := exists_of_draft h
  obtain ⟨draft, -, h_draft⟩ := draft_of_set h
  have h_stage : d'.stage = .opened := (stage_of_set h).trans (isOpen_iff.1 h_open)
  exact .of_other h_open (.of_draft (.inl h_stage) h_draft) fun _ h => nomatch h

theorem success_of_commit {result : Commit} (h_tidy : d.Tidy)
    (h : d.commit form b = .ok (d', b', result)) :
    Success form d b .commit d' b' (.ended result) := by
  obtain ⟨h_open, draft, h_draft, h_work⟩ := exists_of_draft h
  cases result with
  | stored r i previous =>
    -- The draft is the one that is open, and the dialog keeps it beyond the commit.
    obtain ⟨draft', h_draft', h_complaint, h_rule, h_store⟩ := rule_of_commit h
    have h_same : d.draft = some draft' := (openDraft_eq_ok_iff.1 h_draft').2
    have h_dialog : d' = { d with stage := .committed } := by
      dsimp only at h_work
      split at h_work
      · exact nomatch h_work
      · split at h_work
        · exact ((Prod.mk.inj (Except.ok.inj h_work)).1).symm
        · exact nomatch h_work
    refine ⟨h_open, ?_, .inr ⟨r, i, previous, rfl, rfl⟩, fun _ _ h => (nomatch h), ?_⟩
    · rw [h_dialog]
      exact .of_draft (.inr rfl) h_draft
    · intro r' i' previous' h_answer
      obtain ⟨rfl, rfl, rfl⟩ := Commit.stored.inj (Answer.ended.inj h_answer)
      exact ⟨draft', h_same, h_complaint, h_rule, stores_of_store h_store, h_dialog⟩
  | invalid message i =>
    obtain ⟨-, -, -, rfl, rfl⟩ := complaint_of_commit h
    exact ⟨h_open, h_tidy, .inl rfl, fun _ _ _ => ⟨rfl, rfl⟩, fun _ _ _ h => nomatch h⟩

/-- **A call that is not refused was made in its stage, and does what it answers.** -/
theorem success_of_call {c : Call} {a : Answer} (h_tidy : d.Tidy)
    (h : d.call form b c = .ok (d', b', a)) : Success form d b c d' b' a := by
  cases c with
  | «open» existing index =>
    obtain ⟨_, h_open, h_eq⟩ := map_eq_ok_iff.1 h
    cases h_eq
    exact success_of_open h_open
  | set name value =>
    obtain ⟨_, h_set, h_eq⟩ := map_eq_ok_iff.1 h
    cases h_eq
    exact success_of_set h_set
  | collect =>
    obtain ⟨_, h_collect, h_eq⟩ := map_eq_ok_iff.1 h
    cases h_eq
    exact .of_other (exists_of_draft h_collect).1 h_tidy fun _ h => nomatch h
  | candidate =>
    obtain ⟨_, h_candidate, h_eq⟩ := map_eq_ok_iff.1 h
    cases h_eq
    exact .of_other (exists_of_draft h_candidate).1 h_tidy fun _ h => nomatch h
  | commit =>
    obtain ⟨_, h_commit, h_eq⟩ := map_eq_ok_iff.1 h
    cases h_eq
    exact success_of_commit h_tidy h_commit
  | cancel =>
    obtain ⟨_, h_cancel, h_eq⟩ := map_eq_ok_iff.1 h
    cases h_eq
    obtain ⟨h_open, draft, -, h_work⟩ := exists_of_draft h_cancel
    obtain rfl := Except.ok.inj h_work
    exact .of_other h_open ⟨fun h => (nomatch h), fun _ => ⟨rfl, rfl⟩⟩ fun _ h => nomatch h
  | close =>
    obtain ⟨_, h_close, h_eq⟩ := map_eq_ok_iff.1 h
    cases h_eq
    unfold close at h_close
    split at h_close
    · exact nomatch h_close
    · rename_i h_open
      obtain rfl := Except.ok.inj h_close
      exact .of_other (Bool.eq_false_iff.2 h_open) tidy_closed fun _ h => nomatch h

/-! ## Runs -/

namespace Session

variable {s : Session} {c : Call}

theorem step_of_ok {a : Answer} (h : s.dialog.call form s.shelf.book c = .ok (d', b', a)) :
    (s.step form (.call c)).1 = ⟨d', { s.shelf with book := b' }⟩ ∧
      s.answer form c = .ok a := by
  rw [step, answer, h]
  exact ⟨rfl, rfl⟩

/-- A call that is refused leaves everything as it was, except for a dialog that cannot work out
what it shows. -/
theorem step_of_error (h : s.dialog.call form s.shelf.book c = .error e) :
    ((s.step form (.call c)).1 = s ∨
      ∃ left, e = .notShown left ∧ (s.step form (.call c)).1 = { s with dialog := left }) ∧
      s.answer form c = .error e := by
  rw [step, answer, h]
  refine ⟨?_, rfl⟩
  cases e with
  | notShown left => exact .inr ⟨left, rfl, rfl⟩
  | alreadyOpen | stillOpen | notOpen _ | unknownField _ | notName | refused _ => exact .inl rfl

/-- What happens to the dialog or to the book keeps the dialog tidy. -/
theorem tidy_step (form : Form) (s : Session) (a : Act) (h_tidy : s.dialog.Tidy) :
    (s.step form a).1.dialog.Tidy := by
  cases a with
  | other a => exact h_tidy
  | call c =>
    cases h_call : s.dialog.call form s.shelf.book c with
    | ok p =>
      rw [(step_of_ok h_call).1]
      exact (success_of_call h_tidy h_call).tidy
    | error e =>
      rcases (step_of_error h_call).1 with h_step | ⟨left, h_left, h_step⟩
      · rw [h_step]
        exact h_tidy
      · rw [h_step]
        exact ((refusal_of_call h_tidy h_call).left left h_left).2

/-- **A dialog makes exactly the changes that it answers for.**  In any run of calls on a dialog,
which begins closed, and of operations on its book by others, the dialog has a draft while it is
open, and none, with nothing shown, while it is closed or cancelled.  The next call is refused
because of the stage exactly if it opens or closes a dialog that is open, or asks anything else of
one that is not.  A call that is refused leaves the dialog and the book as they were, unless a
field of the schema has a name that is none, so that it cannot be worked out what is shown; then at
least the book is left.  A commit that the check finds fault with leaves both.  The book changes
only in a commit that stores its rule, which is the one that the draft makes, with the change of
the form made to it: a new one is put in once, at the position that is answered, and any other
takes the place of the rule at the position of the draft, which is answered as well. -/
theorem changes_only_by_stored_commit (form : Form) (book : Book) (acts : List Act) (c : Call) :
    let now := Run.after (step form) { shelf := { book } } acts
    let next := (now.step form (.call c)).1
    now.dialog.Tidy ∧
      ((∃ e, now.answer form c = .error e ∧ e.isMistimed = true) ↔
        now.dialog.isOpen ≠ c.isOfOpen) ∧
      (∀ e, now.answer form c = .error e → next = now ∨
        (∃ left, e = .notShown left) ∧ form.schema.hasNames = false ∧ next.shelf = now.shelf) ∧
      (∀ message i, now.answer form c = .ok (.ended (.invalid message i)) → next = now) ∧
      (next.shelf = now.shelf ∨ ∃ r i previous,
        c = .commit ∧ now.answer form c = .ok (.ended (.stored r i previous))) ∧
      (∀ r i previous, now.answer form c = .ok (.ended (.stored r i previous)) →
        ∃ draft, now.dialog.draft = some draft ∧
          form.complaint (now.dialog.candidateOf draft) draft.isFinal = none ∧
          r = form.finished (now.dialog.candidateOf draft) draft.isFinal ∧
          Stores now.shelf.book draft r next.shelf.book i previous ∧
          next.dialog = { now.dialog with stage := .committed }) := by
  intro now next
  -- Tidiness is all that is needed of the past: the book may be any by now.
  have h_step (s : Session) (a : Act) (h : s.dialog.Tidy) (_ : True) :
      (step form s a).1.dialog.Tidy := tidy_step form s a h
  have h_tidy : now.dialog.Tidy :=
    @Run.inv_after Session _ _ _ _ _ (fun s => s.dialog.Tidy) h_step _ tidy_closed
      (Run.allowed_of_forall fun _ _ _ => trivial)
  cases h_call : now.dialog.call form now.shelf.book c with
  | error e =>
    have h_refusal := refusal_of_call h_tidy h_call
    obtain ⟨h_step, h_answer⟩ := step_of_error h_call
    have h_next : next = now ∨ ∃ left, e = .notShown left ∧ next = { now with dialog := left } :=
      h_step
    rw [h_answer]
    refine ⟨h_tidy, ?_, ?_, fun _ _ h => (nomatch h), .inl ?_, fun _ _ _ h => (nomatch h)⟩
    · rw [← h_refusal.mistimed]
      constructor
      · rintro ⟨e', h, h_stage⟩
        obtain rfl := Except.error.inj h
        exact h_stage
      · intro h_stage
        exact ⟨e, rfl, h_stage⟩
    · intro e' h
      obtain rfl := Except.error.inj h
      rcases h_next with h_same | ⟨left, h_left, h_other⟩
      · exact .inl h_same
      · have h_shelf : next.shelf = now.shelf := by rw [h_other]
        exact .inr ⟨⟨left, h_left⟩, (h_refusal.left left h_left).1, h_shelf⟩
    · rcases h_next with h_same | ⟨left, -, h_other⟩
      · rw [h_same]
      · rw [h_other]
  | ok p =>
    obtain ⟨d', b', a⟩ := p
    have h_success := success_of_call h_tidy h_call
    obtain ⟨h_step, h_answer⟩ := step_of_ok h_call
    have h_next : next = ⟨d', { now.shelf with book := b' }⟩ := h_step
    rw [h_answer, h_next]
    refine ⟨h_tidy, ?_, fun _ h => (nomatch h), ?_, ?_, ?_⟩
    · -- A call that is answered was made in its stage, so neither side holds.
      constructor
      · rintro ⟨e, h, -⟩
        exact nomatch h
      · intro h_time
        exact absurd h_success.timely h_time
    · intro message i h
      obtain ⟨rfl, rfl⟩ := h_success.invalid message i (Except.ok.inj h)
      rfl
    · rcases h_success.book with rfl | ⟨r, i, previous, h_commit, h_stored⟩
      · exact .inl rfl
      · exact .inr ⟨r, i, previous, h_commit, congrArg Except.ok h_stored⟩
    · intro r i previous h
      exact h_success.stored r i previous (Except.ok.inj h)

/-- The rule that is edited is deleted by somebody else, so the commit is refused and the dialog
stays open. -/
example :
    let form : Form := ⟨Headers.schema, some Headers.validate, some Headers.transform⟩
    let now := Run.after (step form) { shelf := { book := Book.new [.onValue "a"] false } }
      [.call (.open (some (.onValue "a")) 0), .other (.delete 0)]
    now.dialog.isOpen = true ∧ now.answer form .commit = .error (.refused (.outOfRange 0)) :=
  ⟨rfl, rfl⟩

end Session

end Rulebook.Dialog
