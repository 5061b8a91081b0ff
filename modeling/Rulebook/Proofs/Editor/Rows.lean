/-
  Rulebook.Proofs.Editor.Rows

  What a row of the table offers is what the editor does.

  The flags of a row are worked out from the list and the settings.  The commands check for
  themselves what they may do: the editor asks the settings and who is the sentinel, and the book
  refuses what it must.  Each command is therefore asked once when it has anything to save
  (`attempts_moveUp_iff` and its like), and the rows are compared with the answers
  (`rows_promise`).
-/
import Rulebook.Proofs.Editor.Undone
import Rulebook.Schema.Headers
import Rulebook.Terminal.Table

namespace Rulebook

/-! ## The rows of a list -/

namespace Row

variable {schema : Schema} {may : Permissions} {rules : List Rule}

/-- Where each row of a table comes from. -/
theorem of_eq_ok {index : Nat} {r : Rule} {row : Row} (h : of schema may rules index r = .ok row) :
    ∃ cells, schema.columns.mapM (cell schema may index r) = .ok cells ∧
      row = {
        index
        isFinal := r.isFinal
        cells
        canMoveUp := may.move && Arrangement.canMoveUp Rule.isFinal rules index
        canMoveDown := may.move && Arrangement.canMoveDown Rule.isFinal rules index
        canDelete := may.delete && !r.isFinal
        draggable := may.move && !r.isFinal } := by
  obtain ⟨cells, h_cells, h⟩ := bind_eq_ok_iff.1 h
  exact ⟨cells, h_cells, (Except.ok.inj h).symm⟩

/-- There is one row for each rule, in the order of the list. -/
theorem rows_of_all {rows : List Row} (h : all schema may rules = .ok rows) :
    rows.length = rules.length ∧
      ∀ (i : Nat) (row : Row), rows[i]? = some row →
        ∃ r, rules[i]? = some r ∧ of schema may rules i r = .ok row := by
  have h_each := forall₂_of_mapM h
  refine ⟨by rw [← h_each.length_eq, List.length_zipIdx], fun i row h_row => ?_⟩
  obtain ⟨h_lt, rfl⟩ := List.getElem?_eq_some_iff.1 h_row
  have h_lt' : i < rules.length := by
    rwa [← h_each.length_eq, List.length_zipIdx] at h_lt
  refine ⟨rules[i], List.getElem?_eq_getElem h_lt', ?_⟩
  have h_of := h_each.get (by rwa [List.length_zipIdx]) h_lt
  simpa using h_of

/-- The rows can be made if the columns show attributes that have names. -/
theorem exists_all (h : ∀ c ∈ schema.columns, ∃ name, c.field.asName = .ok name) :
    ∃ rows, all schema may rules = .ok rows := by
  refine exists_mapM_eq_ok fun ⟨r, index⟩ _ => ?_
  have h_cell (c : Column) (hc : c ∈ schema.columns) :
      ∃ made, cell schema may index r c = .ok made := by
    obtain ⟨name, h_name⟩ := h c hc
    have h_value : valueOf r c = .ok (r.get name) := by
      rw [valueOf, h_name]
      rfl
    unfold cell
    cases c.kind with
    | checkbox | index | actions => exact ⟨_, rfl⟩
    | label =>
      rw [h_value]
      exact ⟨_, rfl⟩
    | value =>
      dsimp only
      split
      · exact ⟨_, rfl⟩
      · rw [h_value]
        exact ⟨_, rfl⟩
  obtain ⟨cells, h_cells⟩ := exists_mapM_eq_ok h_cell
  dsimp only [of]
  rw [h_cells]
  exact ⟨_, rfl⟩

/-- A cell of a row has the kind of its column. -/
theorem kind_of_cell {index : Nat} {r : Rule} {c : Column} {made : Cell}
    (h : cell schema may index r c = .ok made) : made.kind = c.kind := by
  unfold cell at h
  cases h_kind : c.kind with
  | checkbox | index | actions =>
    rw [h_kind] at h
    rw [← Except.ok.inj h]
  | label =>
    rw [h_kind] at h
    obtain ⟨v, -, h⟩ := bind_eq_ok_iff.1 h
    rw [← Except.ok.inj h]
  | value =>
    rw [h_kind] at h
    dsimp only at h
    split at h
    · rw [← Except.ok.inj h]
    · obtain ⟨v, -, h⟩ := bind_eq_ok_iff.1 h
      rw [← Except.ok.inj h]

/-- A checkbox is disabled if the rule is the sentinel or no flag may be changed. -/
theorem disabled_of_cell {index : Nat} {r : Rule} {c : Column} {made : Cell}
    (h : cell schema may index r c = .ok made) (h_kind : made.kind = .checkbox) :
    made.disabled = (r.isFinal || !may.toggle) := by
  rw [kind_of_cell h] at h_kind
  rw [cell, h_kind] at h
  rw [← Except.ok.inj h]

/-- Which commands a row lists. -/
theorem mem_hints_iff (row : Row) :
    ("up" ∈ row.hints ↔ row.canMoveUp = true) ∧ ("down" ∈ row.hints ↔ row.canMoveDown = true) ∧
      ("delete" ∈ row.hints ↔ row.canDelete = true) := by
  unfold hints
  cases row.canMoveUp <;> cases row.canMoveDown <;> cases row.canDelete <;> decide

end Row

/-! ## When a command has something to save -/

namespace Editor

/-- A command leads to an attempt to save the list. -/
def Attempts (e : Editor) (c : Command) : Prop :=
  ∃ t, (e.begin c).2.2 = .saving t

/-- A command is over at once, and has left everything as it was. -/
def Passes (e : Editor) (c : Command) : Prop :=
  ∃ reply, e.begin c = e.settle reply

/-- A command is answered by a refusal. -/
def Rejects (outcome : Outcome) : Prop :=
  ∃ reply, outcome = .ok reply ∧ reply.status = .rejected

variable {e : Editor} {name : Name}

theorem not_attempts_of_done {c : Command} {e' : Editor} {events : List Event} {outcome : Outcome}
    (h : e.begin c = (e', events, .done outcome)) : ¬ e.Attempts c := by
  rintro ⟨t, h_saving⟩
  rw [h] at h_saving
  exact nomatch h_saving

/-- What passes has nothing to save. -/
theorem Passes.not_attempts {c : Command} (h : e.Passes c) : ¬ e.Attempts c := by
  obtain ⟨reply, h_begin⟩ := h
  exact not_attempts_of_done h_begin

/-- A list with a name to store it under is saved when it has changed. -/
theorem launch_eq_saving (h_key : e.saver.key.name? = some name) (book : Book) (undo : Undo)
    (origin : Origin) (onSaved onRolledBack : Reply) :
    e.launch book undo origin onSaved onRolledBack = (e.saving book, [], .saving {
      payload := book.toValue name, undo, origin, onSaved, onRolledBack }) := by
  rw [launch, Saver.launch, h_key]
  rfl

/-- A move is saved if rules may be moved and the book makes it; otherwise nothing has happened. -/
theorem beginMove_cases (h_key : e.saver.key.name? = some name) (i : Int)
    (moved : Option (Book × Int × Undo)) :
    (e.settings.may.move = true ∧ moved.isSome = true ∧
        ∃ e' t, e.beginMove i moved = (e', [], .saving t)) ∨
      (¬ (e.settings.may.move = true ∧ moved.isSome = true) ∧
        ∃ reply, e.beginMove i moved = e.settle reply) := by
  unfold beginMove
  cases h_may : e.settings.may.move with
  | false =>
    rw [Bool.not_false, if_pos rfl]
    exact .inr ⟨fun h => Bool.false_ne_true h.1, _, rfl⟩
  | true =>
    rw [Bool.not_true, if_neg Bool.false_ne_true]
    cases moved with
    | none => exact .inr ⟨fun h => Bool.false_ne_true h.2, _, rfl⟩
    | some p =>
      dsimp only
      rw [launch_eq_saving h_key]
      exact .inl ⟨rfl, rfl, _, _, rfl⟩

/-- When a move of the list is saved. -/
theorem attempts_of_beginMove {c : Command} {i : Int} {moved : Option (Book × Int × Undo)}
    (h_key : e.saver.key.name? = some name) (h : e.begin c = e.beginMove i moved) :
    (e.Attempts c ↔ e.settings.may.move = true ∧ moved.isSome = true) ∧
      (¬ e.Attempts c → e.Passes c) := by
  rcases beginMove_cases h_key i moved with ⟨h_may, h_moved, e', t, h_saving⟩ |
    ⟨h_not, reply, h_done⟩
  · have h_attempts : e.Attempts c := ⟨t, by rw [h, h_saving]⟩
    exact ⟨⟨fun _ => ⟨h_may, h_moved⟩, fun _ => h_attempts⟩, fun h => absurd h_attempts h⟩
  · have h_passes : e.Passes c := ⟨reply, by rw [h, h_done]⟩
    exact ⟨⟨fun h => absurd h h_passes.not_attempts, fun h => absurd h h_not⟩, fun _ => h_passes⟩

/-- **When a move up is saved**, which otherwise does nothing. -/
theorem attempts_moveUp_iff (h_key : e.saver.key.name? = some name) (i : Int) :
    (e.Attempts (.moveUp i) ↔ e.settings.may.move = true ∧
        Arrangement.canMoveUp Rule.isFinal e.rules i = true) ∧
      (¬ e.Attempts (.moveUp i) → e.Passes (.moveUp i)) := by
  have h_some : (e.book.moveUp? i).isSome = Arrangement.canMoveUp Rule.isFinal e.rules i :=
    Bool.eq_iff_iff.2 Option.isSome_ite
  rw [← h_some, ← Option.isSome_map]
  exact attempts_of_beginMove h_key rfl

/-- **When a move down is saved**, which otherwise does nothing. -/
theorem attempts_moveDown_iff (h_key : e.saver.key.name? = some name) (i : Int) :
    (e.Attempts (.moveDown i) ↔ e.settings.may.move = true ∧
        Arrangement.canMoveDown Rule.isFinal e.rules i = true) ∧
      (¬ e.Attempts (.moveDown i) → e.Passes (.moveDown i)) := by
  have h_some : (e.book.moveDown? i).isSome = Arrangement.canMoveDown Rule.isFinal e.rules i :=
    Bool.eq_iff_iff.2 Option.isSome_ite
  rw [← h_some, ← Option.isSome_map]
  exact attempts_of_beginMove h_key rfl

/-- **When a deletion that nobody is asked about is saved.** -/
theorem attempts_delete_iff (h_key : e.saver.key.name? = some name) {i : Int} {r : Rule}
    (h_at : Arrangement.at? e.rules i = some r) :
    e.Attempts (.delete i none) ↔ e.settings.may.delete = true ∧ r.isFinal = false := by
  have h_at' : Arrangement.at? e.book.rules i = some r := h_at
  have h_final : e.book.isFinalAt i = r.isFinal := by
    rw [Book.isFinalAt, Arrangement.isFixedAt, h_at', Option.any_some]
  have h_begin : e.begin (.delete i none) = e.beginDelete i none := rfl
  unfold beginDelete at h_begin
  rw [h_final] at h_begin
  cases h_may : e.settings.may.delete with
  | false =>
    rw [h_may, Bool.not_false, if_pos rfl] at h_begin
    exact ⟨fun h => absurd h (not_attempts_of_done h_begin), fun h => absurd h.1 Bool.false_ne_true⟩
  | true =>
    rw [h_may, Bool.not_true, if_neg Bool.false_ne_true] at h_begin
    cases h_kind : r.isFinal with
    | true =>
      rw [h_kind, if_pos rfl] at h_begin
      exact ⟨fun h => absurd h (not_attempts_of_done h_begin),
        fun h => absurd h.2.symm Bool.false_ne_true⟩
    | false =>
      have h_delete : e.book.delete i = .ok (e.book.withRules (e.rules.eraseIdx i.toNat), r) :=
        Book.delete_eq_ok_iff.2 ⟨h_at, h_kind, rfl⟩
      rw [h_kind, if_neg Bool.false_ne_true, h_delete] at h_begin
      dsimp only at h_begin
      rw [if_neg (Option.some_ne_none false).symm, launch_eq_saving h_key] at h_begin
      exact ⟨fun _ => ⟨rfl, rfl⟩, fun _ => ⟨_, congrArg (·.2.2) h_begin⟩⟩

/-- **When the flag of a rule is refused to be changed**: if no flag may be changed, or the rule is
the sentinel.  Otherwise the list is saved. -/
theorem beginToggle_cases (h_key : e.saver.key.name? = some name) {i : Int} {r : Rule}
    (h_at : Arrangement.at? e.rules i = some r) (value : Value) :
    ((r.isFinal || !e.settings.may.toggle) = true ∧
        ∃ message, e.begin (.toggle i value) = e.settle (.ofRejected i message)) ∨
      ((r.isFinal || !e.settings.may.toggle) = false ∧
        ∃ e' t, e.begin (.toggle i value) = (e', [], .saving t)) := by
  have h_begin : e.begin (.toggle i value) = e.beginToggle i value := rfl
  rw [h_begin]
  unfold beginToggle
  cases h_may : e.settings.may.toggle with
  | false =>
    rw [Bool.not_false, Bool.or_true, if_pos rfl]
    exact .inl ⟨rfl, _, rfl⟩
  | true =>
    rw [Bool.not_true, Bool.or_false, if_neg Bool.false_ne_true]
    cases h_kind : r.isFinal with
    | true =>
      have h_toggle : e.book.toggle i value = .error (.sentinel i .toggle) := by
        have h_get : e.book.get i = .ok r := Book.get_eq_ok_iff.2 h_at
        rw [Book.toggle, h_get]
        dsimp only [bind, Except.bind]
        rw [h_kind, if_pos rfl]
        rfl
      rw [h_toggle]
      exact .inl ⟨rfl, _, rfl⟩
    | false =>
      have h_toggle : e.book.toggle i value =
          .ok (e.book.withRules (e.rules.set i.toNat (r.withFlag value)), r.enabled) :=
        Book.toggle_eq_ok_iff.2 ⟨r, h_at, h_kind, rfl, rfl⟩
      rw [h_toggle]
      dsimp only
      rw [launch_eq_saving h_key]
      exact .inr ⟨rfl, _, _, rfl⟩

/-- Whatever becomes of a save, the flag of a rule is refused to be changed exactly if its checkbox
is disabled. -/
theorem rejects_toggle_iff (h_key : e.saver.key.name? = some name) {i : Int} {r : Rule}
    (h_at : Arrangement.at? e.rules i = some r) (value : Value) (save : Value → Bool) :
    Rejects (e.run (.toggle i value) save).2.2 ↔ (r.isFinal || !e.settings.may.toggle) = true := by
  rcases beginToggle_cases h_key h_at value with ⟨h_disabled, message, h_begin⟩ |
    ⟨h_enabled, e', t, h_begin⟩
  · refine ⟨fun _ => h_disabled, fun _ => ⟨.ofRejected i message, ?_, rfl⟩⟩
    rw [run, h_begin]
    rfl
  · rw [h_enabled]
    refine ⟨?_, fun h => absurd h Bool.false_ne_true⟩
    rintro ⟨reply, h_reply, h_status⟩
    obtain ⟨reply', h_reply', h_status'⟩ := exists_reply_of_saving h_begin save
    rw [h_reply', Except.ok.injEq] at h_reply
    rw [← h_reply, h_status'] at h_status
    split at h_status <;> cases h_status

/-- **When a rule can be picked up.** -/
theorem startDrag_iff {i : Int} {r : Rule} (h_at : Arrangement.at? e.rules i = some r) :
    (e.startDrag i).2 = true ↔ e.settings.may.move = true ∧ r.isFinal = false := by
  unfold startDrag
  cases e.settings.may.move with
  | false => exact ⟨fun h => absurd h Bool.false_ne_true, fun h => absurd h.1 Bool.false_ne_true⟩
  | true =>
    have h_range : Arrangement.inRange e.rules i = true := Arrangement.inRange_of_at? h_at
    have h_final : Arrangement.isFixedAt Rule.isFinal e.rules i = r.isFinal := by
      rw [Arrangement.isFixedAt, h_at, Option.any_some]
    rw [if_pos rfl, Drag.start, h_range, h_final]
    cases r.isFinal with
    | true =>
      exact ⟨fun h => absurd h Bool.false_ne_true, fun h => absurd h.2.symm Bool.false_ne_true⟩
    | false => exact ⟨fun _ => ⟨rfl, rfl⟩, fun _ => rfl⟩

/-! ## The rows and the commands -/

/-- What a row of the table says of the rule at a position is what the editor does. -/
structure Promises (e : Editor) (i : Nat) (row : Row) : Prop where
  up : row.canMoveUp = true ↔ e.Attempts (.moveUp i)
  notUp : row.canMoveUp = false → e.Passes (.moveUp i)
  down : row.canMoveDown = true ↔ e.Attempts (.moveDown i)
  notDown : row.canMoveDown = false → e.Passes (.moveDown i)
  deletion : row.canDelete = true ↔ e.Attempts (.delete i none)
  drag : row.draggable = true ↔ (e.startDrag i).2 = true
  /-- of every value, whatever becomes of the save -/
  checkbox : ∀ cell ∈ row.cells, cell.kind = .checkbox → ∀ value save,
    cell.disabled = true ↔ Rejects (e.run (.toggle i value) save).2.2
  hasCheckbox : (∃ c ∈ e.form.schema.columns, c.kind = .checkbox) →
    ∃ cell ∈ row.cells, cell.kind = .checkbox
  hints : ("up" ∈ row.hints ↔ e.Attempts (.moveUp i)) ∧
    ("down" ∈ row.hints ↔ e.Attempts (.moveDown i)) ∧
    ("delete" ∈ row.hints ↔ e.Attempts (.delete i none))
  shown : ∀ cell ∈ row.cells, cell.kind = .actions →
    Terminal.cellText row cell = .ok (some (" ".intercalate row.hints))

theorem promises_of_row (h_key : e.saver.key.name? = some name) {i : Nat} {r : Rule} {row : Row}
    (h_rule : e.rules[i]? = some r)
    (h_row : Row.of e.form.schema e.settings.may e.rules i r = .ok row) : e.Promises i row := by
  obtain ⟨cells, h_cells, rfl⟩ := Row.of_eq_ok h_row
  have h_at : Arrangement.at? e.rules (i : Int) = some r := by rwa [Arrangement.at?_natCast]
  -- Each flag of the row is one condition with the answer of its command.
  have h_up := attempts_moveUp_iff h_key (i : Int)
  have h_down := attempts_moveDown_iff h_key (i : Int)
  have h_flagUp : (e.settings.may.move && Arrangement.canMoveUp Rule.isFinal e.rules i) = true ↔
      e.Attempts (.moveUp i) := by rw [Bool.and_eq_true, h_up.1]
  have h_flagDown : (e.settings.may.move && Arrangement.canMoveDown Rule.isFinal e.rules i) = true ↔
      e.Attempts (.moveDown i) := by rw [Bool.and_eq_true, h_down.1]
  have h_flagDelete : (e.settings.may.delete && !r.isFinal) = true ↔
      e.Attempts (.delete i none) := by
    rw [Bool.and_eq_true, Bool.not_eq_true', attempts_delete_iff h_key h_at]
  exact {
    up := h_flagUp
    notUp := fun h => h_up.2 fun h_attempts => by
      rw [h_flagUp.2 h_attempts] at h
      exact nomatch h
    down := h_flagDown
    notDown := fun h => h_down.2 fun h_attempts => by
      rw [h_flagDown.2 h_attempts] at h
      exact nomatch h
    deletion := h_flagDelete
    drag := by rw [startDrag_iff h_at, Bool.and_eq_true, Bool.not_eq_true']
    checkbox := fun made h_made h_kind value save => by
      obtain ⟨c, -, h_cell⟩ := exists_of_mem_mapM h_cells h_made
      rw [rejects_toggle_iff h_key h_at, Row.disabled_of_cell h_cell h_kind]
    hasCheckbox := fun ⟨c, hc, h_kind⟩ => by
      obtain ⟨made, h_made, h_cell⟩ := exists_result_of_mem h_cells hc
      exact ⟨made, h_made, (Row.kind_of_cell h_cell).trans h_kind⟩
    hints := by
      obtain ⟨h_hintUp, h_hintDown, h_hintDelete⟩ := Row.mem_hints_iff _
      exact ⟨h_hintUp.trans h_flagUp, h_hintDown.trans h_flagDown,
        h_hintDelete.trans h_flagDelete⟩
    shown := fun made _ h_kind => by rw [Terminal.cellText, h_kind] }

/-- **A row offers exactly what the editor does.**  Take any editor whose list has a name to be
stored under, and any row of its table.  The row says that its rule can go up or down, or be
deleted, exactly if that command would go on to save the list, and a move that it does not offer
leaves everything as it was; it says that the rule can be dragged exactly if it can be picked up;
its checkbox is disabled exactly if changing the flag is refused, to whatever value; and the
commands that are listed on a terminal are those that it offers.  There is a row for each rule, at
least if the columns show attributes that have names. -/
theorem rows_promise (e : Editor) (name : Name) (h_key : e.saver.key.name? = some name) :
    ((∀ c ∈ e.form.schema.columns, ∃ shown, c.field.asName = .ok shown) →
        ∃ rows, e.rows = .ok rows) ∧
      ∀ rows, e.rows = .ok rows → rows.length = e.rules.length ∧
        ∀ (i : Nat) (row : Row), rows[i]? = some row → e.Promises i row := by
  refine ⟨Row.exists_all, fun rows h_rows => ?_⟩
  obtain ⟨h_length, h_each⟩ := Row.rows_of_all h_rows
  refine ⟨h_length, fun i row h_row => ?_⟩
  obtain ⟨r, h_rule, h_of⟩ := h_each i row h_row
  exact promises_of_row h_key h_rule h_of

/-- A list with a sentinel in its middle, in an editor that keeps none and lets nothing be
deleted. -/
theorem rows_promise_misplaced :
    let e := (Editor.new { hasFinal := false, may := { delete := false } }
      ⟨Headers.schema, none, none⟩ none [.onValue "a", .fallback "", .onValue "b"]).1
    e.saver.key.name? = some (.text "rules") ∧ ∃ row, e.Promises 2 row ∧
      row.hints = ["edit", "up"] := by
  intro e
  refine ⟨rfl, ?_⟩
  obtain ⟨-, h_each⟩ := (rows_promise e (.text "rules") rfl).2 _ rfl
  exact ⟨_, h_each 2 _ rfl, rfl⟩

end Editor

end Rulebook
