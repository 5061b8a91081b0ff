/-
  Rulebook.Proofs.Terminal.Console

  What a terminal makes of what a run has to tell.

  Every list of the command line can be drawn (`exists_render`), so all that is told of a command
  can be drawn, and it says last, if at all, that the list was saved (`Telling.Draws`).  A terminal
  prints that up to the first thing that it refuses.  If it refuses nothing then the report says
  what was told; otherwise the run fails, and the report does not say that the list was saved
  (`Console.reports`).
-/
import Mathlib.Data.List.TakeWhile
import Rulebook.Proofs.Editor.Rows
import Rulebook.Terminal.Run

namespace Rulebook.Terminal

/-- The exit code of a run.  A run that fails ends with an error that nobody catches. -/
def Ending.code : Ending → Nat
  | .exit code => code
  | .stopped .help => 0
  | .stopped .misuse => 2
  | .failed _ => 1

/-- Whether a report says that the list was saved. -/
def Saved (report : Report) : Prop :=
  savedLine ∈ report.printed

instance (report : Report) : Decidable (Saved report) :=
  inferInstanceAs (Decidable (savedLine ∈ report.printed))

/-- What can be drawn is what is printed of it. -/
theorem mem_map_ok_iff {p : Printed} {printed : List Printed} :
    (.ok p : Drawing) ∈ printed.map .ok ↔ p ∈ printed :=
  List.mem_map_of_injective fun _ _ => Except.ok.inj

namespace Telling

/-- Whether a run has to tell that the list was saved. -/
def Saves (t : Telling) : Prop :=
  .ok savedLine ∈ t.drawings

instance (t : Telling) : Decidable t.Saves :=
  inferInstanceAs (Decidable (.ok savedLine ∈ t.drawings))

/-- All that a run has to tell can be drawn, and it says last, if at all, that the list was
saved. -/
structure Draws (t : Telling) (printed : List Printed) : Prop where
  drawings : t.drawings = printed.map .ok
  last : savedLine ∉ printed.dropLast

variable {t : Telling} {printed : List Printed}

theorem Draws.saves_iff (h : t.Draws printed) : t.Saves ↔ savedLine ∈ printed := by
  rw [Saves, h.drawings, mem_map_ok_iff]

/-- All that can be drawn is known from the drawings. -/
theorem Draws.eq_of_drawings (h : t.Draws printed) {shown : List Printed}
    (h_shown : t.drawings = shown.map .ok) : shown = printed :=
  List.map_injective_iff.2 (fun _ _ => Except.ok.inj) (h_shown.symm.trans h.drawings)

end Telling

/-! ## Terminals -/

/-- What becomes of what a run has to tell: all of it is printed and the run ends as it should, or
something in it is refused, and then the run fails and does not say that the list was saved. -/
inductive Reports (c : Console) (t : Telling) (report : Report) : Prop where
  | complete {printed : List Printed} (h_drawings : t.drawings = printed.map .ok)
      (h_prints : ∀ p ∈ printed, c.prints p = true)
      (h_report : report = { ending := t.ending, printed, asked := t.asked })
  | broken {printed : List Printed} (h_drawings : t.drawings = printed.map .ok)
      (h_refuses : ∃ p ∈ printed, c.prints p = false)
      (h_ending : report.ending = .failed (.reading .strayMarks)) (h_saved : ¬ Saved report)

namespace Console

variable {c : Console} {t : Telling} {printed : List Printed}

/-- What can be drawn is printed up to the first thing that is refused. -/
theorem draw_map_ok (c : Console) (printed : List Printed) :
    c.draw (printed.map .ok) =
      (printed.takeWhile c.prints, if printed.all c.prints then none else some .strayMarks) := by
  induction printed with
  | nil => rfl
  | cons p rest ih =>
    rw [List.map_cons, draw, ih]
    cases h : c.prints p with
    | true => simp [h]
    | false => simp [h]

/-- What stands last of what is printed is printed only if nothing is refused. -/
theorem all_of_mem_takeWhile {p : Printed} (h_last : p ∉ printed.dropLast)
    (h : p ∈ printed.takeWhile c.prints) : ∀ q ∈ printed, c.prints q = true := by
  obtain ⟨rest, h_rest⟩ := List.takeWhile_prefix (l := printed) c.prints
  cases rest with
  | nil =>
    rw [List.append_nil] at h_rest
    intro q hq
    rw [← h_rest] at hq
    exact List.mem_takeWhile_imp hq
  | cons q rest =>
    -- Something is left behind what is printed, so that is no more than the front of it all.
    refine absurd ?_ h_last
    rw [← h_rest, List.dropLast_append_cons]
    exact List.mem_append_left _ h

/-- **What a terminal makes of what can be drawn.** -/
theorem reports (c : Console) (h : t.Draws printed) : Reports c t (c.report t) := by
  have h_draw := c.draw_map_ok printed
  rw [← h.drawings] at h_draw
  cases h_all : printed.all c.prints with
  | true =>
    have h_prints := List.all_eq_true.1 h_all
    rw [h_all, if_pos rfl, List.takeWhile_eq_self_iff.2 h_prints] at h_draw
    refine .complete h.drawings h_prints ?_
    rw [report, h_draw]
  | false =>
    have h_refuses := List.all_eq_false.1 h_all
    rw [h_all, if_neg Bool.false_ne_true] at h_draw
    have h_report : c.report t =
        { ending := .failed (.reading .strayMarks), printed := printed.takeWhile c.prints
          asked := t.asked } := by
      rw [report, h_draw]
    obtain ⟨p, hp, h_refused⟩ := h_refuses
    refine .broken h.drawings ⟨p, hp, Bool.eq_false_iff.2 h_refused⟩ (by rw [h_report]) ?_
    rw [Saved, h_report]
    exact fun h_saved => h_refused (all_of_mem_takeWhile h.last h_saved p hp)

/-- A run says that the list was saved exactly if it has that to tell and nothing is refused. -/
theorem saved_report_iff (h : t.Draws printed) :
    Saved (c.report t) ↔ t.Saves ∧ ∀ p ∈ printed, c.prints p = true := by
  rw [h.saves_iff]
  cases c.reports h with
  | complete h_drawings h_prints h_report =>
    obtain rfl := h.eq_of_drawings h_drawings
    rw [h_report]
    exact ⟨fun h_saved => ⟨h_saved, h_prints⟩, fun h_saved => h_saved.1⟩
  | broken h_drawings h_refuses h_ending h_saved =>
    obtain rfl := h.eq_of_drawings h_drawings
    obtain ⟨p, hp, h_refused⟩ := h_refuses
    refine ⟨fun h => absurd h h_saved, fun ⟨_, h_prints⟩ => ?_⟩
    exact nomatch h_refused.symm.trans (h_prints p hp)

/-- A run that is told to end with code 1 does so, whatever is printed. -/
theorem code_report (c : Console) (h : t.ending.code = 1) : (c.report t).ending.code = 1 := by
  unfold report
  split
  · exact h
  · rfl

end Console

/-- A terminal that takes `[/x]` in a cell for the end of something that was never begun. -/
def strict : Console where
  prints
    | .table _ lines => lines.all fun line => !line.cells.contains "[/x]"
    | .text .. => true

/-! ## Lists -/

/-- What stands for a value among choices that are labelled by texts is a text. -/
theorem exists_labelAmong {choices : List Choice} {v label : Value}
    (h_texts : ∀ choice ∈ choices, choice.display = .text choice.display.shown)
    (h : Schema.labelAmong? choices v = some label) : ∃ s, label = .text s := by
  obtain ⟨choice, h_find, rfl⟩ := Option.map_eq_some_iff.1 h
  exact ⟨_, h_texts choice (List.mem_of_find?_eq_some h_find)⟩

/-- The labels of the header rules are texts. -/
theorem exists_labelFor (name v : Value) : ∃ s, Headers.schema.labelFor name v = .text s := by
  -- Only types and actions have labels; any other value is shown as it is.
  unfold Schema.labelFor
  split
  · unfold Schema.typeLabel
    split
    · rename_i label h_label
      exact exists_labelAmong (by decide) h_label
    · split
      · exact ⟨_, rfl⟩
      · exact ⟨_, rfl⟩
  · split
    · unfold Schema.actionLabel
      cases h_label : Schema.labelAmong? (Headers.schema.actions ++ Headers.schema.finalActions)
          (.text v.shown) with
      | none => exact ⟨_, rfl⟩
      | some label => exact exists_labelAmong (by decide) h_label
    · split
      · exact ⟨_, rfl⟩
      · exact ⟨_, rfl⟩

/-- Every cell of a header rule shows a text. -/
theorem exists_cellText {may : Permissions} {index : Nat} {r : Rule} {column : Column} {made : Cell}
    (h : Row.cell Headers.schema may index r column = .ok made) (row : Row) :
    ∃ s, cellText row made = .ok (some s) := by
  have h_text {s : String} (h_text : made.text = .text s) :
      ∃ s, cellText row made = .ok (some s) := by
    unfold cellText
    split
    · exact ⟨_, rfl⟩
    · exact ⟨_, rfl⟩
    · rw [h_text]
      exact ⟨_, rfl⟩
  -- Boxes and buttons are drawn whatever their text is; that of any other cell is a text.
  unfold Row.cell at h
  split at h
  · obtain rfl := Except.ok.inj h
    exact ⟨_, rfl⟩
  · obtain rfl := Except.ok.inj h
    exact h_text rfl
  · obtain ⟨v, -, h⟩ := bind_eq_ok_iff.1 h
    obtain rfl := Except.ok.inj h
    obtain ⟨s, h_label⟩ := exists_labelFor column.field v
    exact h_text h_label
  · split at h
    · obtain rfl := Except.ok.inj h
      exact h_text rfl
    · obtain ⟨v, -, h⟩ := bind_eq_ok_iff.1 h
      obtain rfl := Except.ok.inj h
      by_cases h_null : v = .null
      · exact h_text (if_pos h_null)
      · exact h_text (if_neg h_null)
  · obtain rfl := Except.ok.inj h
    exact ⟨_, rfl⟩

/-- The row of a header rule makes a line. -/
theorem exists_line {may : Permissions} {rules : List Rule} {index : Nat} {r : Rule} {row : Row}
    (h : Row.of Headers.schema may rules index r = .ok row) (shown : Rule) :
    ∃ made, line shown row = .ok made := by
  obtain ⟨cells, h_cells, h_row⟩ := Row.of_eq_ok h
  have h_texts : ∀ cell ∈ row.cells, ∃ s, cellText row cell = .ok (some s) := by
    rw [h_row]
    intro cell h_cell
    obtain ⟨column, -, h_made⟩ := exists_of_mem_mapM h_cells h_cell
    exact exists_cellText h_made _
  obtain ⟨drawn, h_drawn⟩ :=
    exists_mapM_eq_ok fun cell h_cell => (h_texts cell h_cell).imp' some fun _ h_text => h_text
  -- No cell is left out of the line.
  have h_shown : ∀ text ∈ drawn, ∃ s, id text = some s := by
    intro text h_text
    obtain ⟨cell, h_cell, h_eq⟩ := exists_of_mem_mapM h_drawn h_text
    obtain ⟨s, h_some⟩ := h_texts cell h_cell
    exact ⟨s, Except.ok.inj (h_eq.symm.trans h_some)⟩
  obtain ⟨texts, h_all⟩ := exists_mapM_eq_some h_shown
  refine ⟨⟨texts, rowStyle shown⟩, bind_eq_ok_iff.2 ⟨drawn, h_drawn, ?_⟩⟩
  rw [h_all]
  rfl

/-- **Every list of the command line can be drawn**, and the drawing does not say that it was
saved. -/
theorem exists_render (may : Permissions) (rules : List Rule) :
    ∃ printed, render Headers.schema may rules = .ok printed ∧ printed ≠ savedLine := by
  unfold render
  split
  · exact ⟨_, rfl, by decide⟩
  · have h_fields : ∀ column ∈ Headers.schema.columns, column.field = .text column.field.shown := by
      decide
    -- All rows are made before the first line is.
    have h_names (column : Column) (h : column ∈ Headers.schema.columns) :
        ∃ name, column.field.asName = .ok name := by
      rw [h_fields column h]
      exact ⟨_, rfl⟩
    obtain ⟨rows, h_rows⟩ : ∃ rows, Row.all Headers.schema may rules = .ok rows :=
      Row.exists_all h_names
    have h_lines : ∀ p ∈ rules.zip rows, ∃ made, line p.1 p.2 = .ok made := by
      intro p hp
      obtain ⟨⟨r, index⟩, -, h_of⟩ := exists_of_mem_mapM h_rows (List.of_mem_zip hp).2
      exact exists_line h_of p.1
    obtain ⟨lines, h_lines⟩ := exists_mapM_eq_ok h_lines
    have h_rows : (Row.all Headers.schema may rules).mapError RenderError.reading = .ok rows := by
      rw [h_rows]
      rfl
    rw [h_rows]
    exact ⟨.table _ lines, bind_eq_ok_iff.2 ⟨rows, rfl, bind_eq_ok_iff.2 ⟨lines, h_lines, rfl⟩⟩,
      nofun⟩

/-! ## What is told -/

variable {e : Editor} {events : List Event}

/-- What happens can be drawn, and does not say that the list was saved. -/
theorem exists_drawings (h_form : e.form = form) (events : List Event) :
    ∃ printed : List Printed,
      events.flatMap (drawingsOf e) = printed.map .ok ∧ savedLine ∉ printed := by
  induction events with
  | nil => exact ⟨[], rfl, List.not_mem_nil⟩
  | cons event rest ih =>
    obtain ⟨printed, h_rest, h_not⟩ := ih
    rw [List.flatMap_cons, h_rest]
    cases event with
    | rendered name rules =>
      obtain ⟨table, h_table, h_ne⟩ := exists_render e.settings.may rules
      refine ⟨table :: printed, ?_, ?_⟩
      · rw [drawingsOf, h_form]
        exact congrArg (· :: printed.map .ok) h_table
      · exact List.not_mem_cons_of_ne_of_not_mem h_ne.symm h_not
    | notice text =>
      refine ⟨_ :: printed, rfl, List.not_mem_cons_of_ne_of_not_mem ?_ h_not⟩
      exact fun h => nomatch (Printed.text.inj h).2
    | asked => exact ⟨printed, rfl, h_not⟩
    | afterSave saved => exact ⟨printed, rfl, h_not⟩

/-- **What is told of a command can be drawn**, and says last, if at all, that the list was
saved. -/
theorem draws_tellingOf (h_form : e.form = form) (events : List Event) (outcome : Editor.Outcome) :
    ∃ printed, (tellingOf e events outcome).Draws printed := by
  obtain ⟨printed, h_events, h_not⟩ := exists_drawings h_form events
  cases outcome with
  | error error => exact ⟨printed, h_events, fun h => h_not (List.dropLast_subset _ h)⟩
  | ok reply =>
    refine ⟨printed ++ [(conclude reply).1], ?_, by rwa [List.dropLast_concat]⟩
    rw [List.map_append, ← h_events]
    rfl

/-- It is told that the list was saved exactly if the reply says so. -/
theorem saves_tellingOf_iff (h_form : e.form = form) {reply : Editor.Reply} :
    (tellingOf e events (.ok reply)).Saves ↔ reply.status = .ok := by
  obtain ⟨printed, h_events, h_not⟩ := exists_drawings h_form events
  have h_line : (conclude reply).1 = savedLine ↔ reply.status = .ok := by
    cases h : reply.status <;> simp [conclude, h, savedLine, noopLine, errorLine]
  rw [← h_line, Telling.Saves, tellingOf, h_events]
  simp only [List.mem_append, mem_map_ok_iff, List.mem_singleton, Except.ok.injEq, h_not, false_or]
  exact eq_comm

theorem not_saves_of_error (h_form : e.form = form) (error : Editor.Error) :
    ¬ (tellingOf e events (.error error)).Saves := by
  obtain ⟨printed, h_events, h_not⟩ := exists_drawings h_form events
  rwa [Telling.Saves, tellingOf, h_events, mem_map_ok_iff]

end Rulebook.Terminal
