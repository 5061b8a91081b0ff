/-
  Rulebook.Proofs.Terminal.Kept

  One editor that is kept in memory and does what the command line is called for (`attend`).  It
  never loads or stores anything.  What it answers is what its reply says, with the code that goes
  with that, unless the user breaks the command off (`answers_serve`).

  The rules of its list can be stored at any time: the commands of the command line make storable
  rules of storable ones (`storable_begin`), and the editor of a payload has no others
  (`onTerminal_editorOf`).  What was stored of such a list makes an editor with the same list
  (`editorOf_toValue`).
-/
import Rulebook.Proofs.Editor.Reading
import Rulebook.Proofs.Terminal.Asked
import Rulebook.Proofs.Terminal.Console

namespace Rulebook.Terminal

open Storage

/-! ## The kept editor -/

/-- What is told of a command that the user broke off. -/
def brokenOff (events : List Event) : Telling :=
  { ending := .exit interruptedCode, drawings := [.ok cancelledLine]
    asked := events.flatMap askedOf }

/-- Carries a command out in a kept editor.  Its save succeeds, and if the user breaks it off it is
not carried out. -/
def obey (e : Editor) (c : Editor.Command) (consent : Consent) : Editor × Telling :=
  let (after, events, outcome) := e.run c fun _ => true
  if consent = .interrupt && events.contains .asked then (e, brokenOff events)
  else (after, tellingOf after events outcome)

/-- Does in a kept editor what is to be done. -/
def serve (e : Editor) (verb : Verb) (consent : Consent) : Editor × Telling :=
  match verb.command consent with
  | .error fault => (e, { ending := .failed fault })
  | .ok none => (e, { ending := .exit 0, drawings := e.render.flatMap (drawingsOf e) })
  | .ok (some c) =>
    if namesLongPosition e c then (e, { ending := .failed .longPosition }) else obey e c consent

/-- Does in a kept editor what a call asks for. -/
def attend (e : Editor) (call : Call) : Editor × Telling :=
  match Arguments.read call.arguments with
  | .error stop => (e, { ending := .stopped stop })
  | .ok a => serve e a.verb call.consent

/-! ## Rules that can be stored -/

/-- The values that a field of the header rules starts with fit into a rule. -/
theorem fits_default : ∀ f ∈ Headers.schema.fields, ∀ isFinal v,
    Headers.schema.defaultFor f isFinal = .ok v → Rule.Fits v := by
  have h_all : ∀ f ∈ Headers.schema.fields, ∀ isFinal : Bool,
      (Headers.schema.defaultFor f isFinal).toOption.all (fun v => decide (Rule.Fits v)) = true := by
    decide
  intro f hf isFinal v hv
  have h := h_all f hf isFinal
  rw [hv] at h
  exact of_decide_eq_true h

/-- A command of the command line makes storable rules of storable ones. -/
theorem storable_begin {e : Editor} (h_form : e.form = form) (h_rules : ∀ r ∈ e.rules, r.Storable)
    {c : Editor.Command} (hc : Modest c) : ∀ r ∈ (e.begin c).1.rules, r.Storable := by
  intro r hr
  cases Editor.made_begin hc.ofList hr with
  | kept h => exact h_rules r h
  | @flagged r i value h_command h =>
    obtain ⟨b, rfl⟩ := hc.flag i value h_command
    exact (h_rules r h).withFlag b
  | @drafted entries existing index opened filled draft h_entries h_existing h_open h_fill h_draft =>
    -- What a draft starts with fits, so does what it is given, and it has no other values.
    rw [h_form] at h_open h_fill ⊢
    have h_opened : opened.Holds Rule.Fits :=
      Dialog.holds_open fits_default
        (fun r hr _ _ h => (h_rules r (h_existing r hr)).fits_of_get? h) h_open
    have h_filled := Dialog.holds_setAll (hc.fits entries h_entries) h_opened h_fill
    have h_values := h_filled.of_openDraft h_draft
    have h_candidate : (filled.candidateOf draft).Storable :=
      Rule.storable_ofEntries fun e he => h_values e (Dialog.mem_extra_candidateOf he)
    exact h_candidate.trimRule

/-! ## Editors of one list -/

/-- Whether an editor is one of the command line, with a list that is kept as the settings say and
that can be stored. -/
structure OnTerminal (s : Settings) (e : Editor) : Prop where
  settings : e.settings = s
  form : e.form = form
  key : e.saver.key = s.ruleKey
  renderer : e.saver.renderer = some "terminal"
  book : s.Keeps e.book
  rules : ∀ r ∈ e.rules, r.Storable

variable {s : Settings} {e e' : Editor}

/-- Two editors of the command line with the same list do the same. -/
theorem OnTerminal.sameWork (h : OnTerminal s e) (h' : OnTerminal s e')
    (h_rules : e'.rules = e.rules) : Editor.SameWork e e' := by
  refine ⟨h'.settings.trans h.settings.symm, h'.form.trans h.form.symm, ?_,
    h'.key.trans h.key.symm⟩
  have h_book : s.book e'.rules = e'.book := h'.book.book_rules
  rw [← h_book, h_rules]
  exact h.book.book_rules

theorem OnTerminal.sameStore (h : OnTerminal s e) (h' : OnTerminal s e') :
    Editor.SameStore e e' :=
  ⟨h'.key.trans h.key.symm, h'.renderer.trans h.renderer.symm⟩

/-- An editor of the command line stays one with another list that can be stored. -/
theorem OnTerminal.of_sameStore (h : OnTerminal s e) (h_settings : e'.settings = e.settings)
    (h_form : e'.form = e.form) (h_store : Editor.SameStore e e') (h_book : s.Keeps e'.book)
    (h_rules : ∀ r ∈ e'.rules, r.Storable) : OnTerminal s e' :=
  ⟨h_settings.trans h.settings, h_form.trans h.form, h_store.key.trans h.key,
    h_store.renderer.trans h.renderer, h_book, h_rules⟩

/-- Putting a list in order brings no rule into it but a fallback. -/
theorem storable_normalise {hasFinal : Bool} {description : String} {rules : List Rule}
    (h : ∀ r ∈ rules, r.Storable) :
    ∀ r ∈ Book.normalise hasFinal (.text description) rules, r.Storable := by
  intro r hr
  unfold Book.normalise at hr
  split at hr
  · rcases List.mem_append.1 hr with hr | hr
    · exact h r (List.mem_filter.1 hr).1
    · rw [List.mem_singleton.1 hr]
      cases h_find : rules.find? Rule.isFinal with
      | none => exact Rule.storable_fallback description
      | some last => exact h last (List.mem_of_find?_eq_some h_find)
  · exact h r hr

/-- The editor of a payload is one of the command line. -/
theorem onTerminal_editorOf {description : String} {payload : Value}
    (h_description : s.finalDescription = .text description)
    (h : editorOf s payload = .ok e) : OnTerminal s e := by
  obtain ⟨rules, h_rules, h⟩ := bind_eq_ok_iff.1 h
  obtain rfl := Except.ok.inj h
  refine ⟨rfl, rfl, rfl, rfl, s.keeps_book rules, ?_⟩
  have h_storable : ∀ r ∈ Book.normalise s.hasFinal (.text description) rules, r.Storable :=
    storable_normalise (Editor.storable_of_rulesOf h_rules)
  rw [← h_description] at h_storable
  exact h_storable

/-- A payload of storable rules that are in order is taken over as it is. -/
theorem editorOf_toValue {name : Name} (h_key : s.ruleKey.name? = some name)
    (h : OnTerminal s e) :
    ∃ fresh, editorOf s (e.book.toValue name) = .ok fresh ∧ fresh.rules = e.rules := by
  refine ⟨_, bind_eq_ok_iff.2 ⟨_, Editor.rulesOf_toValue h_key h.rules, rfl⟩, ?_⟩
  exact congrArg Book.rules h.book.book_rules

/-! ## What is told -/

theorem drawingsOf_congr (h : Editor.SameWork e e') : drawingsOf e' = drawingsOf e := by
  funext event
  cases event with
  | rendered name rules => rw [drawingsOf, drawingsOf, h.form, h.settings]
  | notice text => rfl
  | asked => rfl
  | afterSave saved => rfl

theorem tellingOf_congr (h : Editor.SameWork e e') (events : List Event)
    (outcome : Editor.Outcome) : tellingOf e' events outcome = tellingOf e events outcome := by
  simp only [tellingOf, drawingsOf_congr h]

theorem render_congr (h : Editor.SameWork e e') (h_store : Editor.SameStore e e') :
    e'.render = e.render := by
  have h_book : e'.saver.book = e.saver.book := h.book
  rw [Editor.render, Editor.render, Saver.render_eq_map, Saver.render_eq_map, h_store.renderer,
    h_book]

/-- What is drawn of a list of the command line is drawn on the terminal. -/
theorem render_of_terminal (h : e.saver.renderer = some "terminal") :
    e.render = [.rendered "terminal" e.rules] := by
  rw [Editor.render, Saver.render_eq_map, h]
  rfl

theorem namesLongPosition_congr (h : Editor.SameWork e e') (c : Editor.Command) :
    namesLongPosition e' c = namesLongPosition e c := by
  cases c <;> simp only [namesLongPosition, h.settings]

/-- A command that is over without a save is not said to be saved. -/
theorem not_saves_of_idle (h_form : e.form = form) {events : List Event}
    {outcome : Editor.Outcome} (h_idle : Editor.Idle outcome) :
    ¬ (tellingOf e events outcome).Saves := by
  cases outcome with
  | error error => exact not_saves_of_error h_form error
  | ok reply => rw [saves_tellingOf_iff h_form]; exact (h_idle reply rfl).1

theorem not_saves_brokenOff (events : List Event) : ¬ (brokenOff events).Saves := by
  have h_line : savedLine ≠ cancelledLine := by decide
  exact fun h => h_line (Except.ok.inj (List.mem_singleton.1 h))

theorem draws_brokenOff (events : List Event) : (brokenOff events).Draws [cancelledLine] :=
  ⟨rfl, List.not_mem_nil⟩

/-! ## What the kept editor answers -/

/-- The line of a reply, and the exit code: the list was saved, there was nothing to do, or something
is wrong. -/
inductive Concludes (reply : Editor.Reply) : Printed → Nat → Prop where
  | saved (h : reply.status = .ok) : Concludes reply (.text "✓ Saved" (some .primary)) 0
  | idle (h : reply.status = .noop) (h_message : reply.message = "") :
      Concludes reply (.text "Nothing to do" (some .dim)) 0
  | idleSaying (h : reply.status = .noop) (h_message : reply.message ≠ "") :
      Concludes reply (.text reply.message (some .dim)) 0
  | refused (h : reply.status ≠ .ok) (h_noop : reply.status ≠ .noop) :
      Concludes reply (.text ("[bold red]Error:[/bold red] " ++ reply.message) none) 1

theorem concludes_conclude (reply : Editor.Reply) :
    Concludes reply (conclude reply).1 (conclude reply).2 := by
  unfold conclude
  cases h : reply.status with
  | ok => exact .saved h
  | noop =>
    by_cases h_message : reply.message = ""
    · rw [h_message]
      exact .idle h h_message
    · have h_some : reply.message.isEmpty = false := by simpa using h_message
      dsimp only
      rw [noopLine, h_some]
      exact .idleSaying h h_message
  | rejected | invalid | rolledBack => exact .refused (by rw [h]; decide) (by rw [h]; decide)

/-- The positions that the answer to a command names: not those of a command that is refused wherever
the rule is, and a move by one place names none. -/
inductive Names (may : Permissions) : Editor.Command → Int → Prop where
  | update {i : Int} {values : Value} : Names may (.update i values) i
  | delete {i : Int} {answer : Option Bool} (h : may.delete = true) : Names may (.delete i answer) i
  | toggle {i : Int} {value : Value} (h : may.toggle = true) : Names may (.toggle i value) i
  | source {i j : Int} {after : Bool} (h : may.move = true) (h_else : i ≠ j) :
      Names may (.relocate i j after) i
  | target {i j : Int} {after : Bool} (h : may.move = true) (h_else : i ≠ j) :
      Names may (.relocate i j after) j

/-- Whether the answer to a command would name a position that has too many digits to be written. -/
def NamesLong (e : Editor) (c : Editor.Command) : Prop :=
  ∃ i, Names e.settings.may c i ∧ Nat.pow 10 Text.maxDigits ≤ i.natAbs

theorem isTooLong_iff (i : Int) : Text.isTooLong i = true ↔ Nat.pow 10 Text.maxDigits ≤ i.natAbs := by
  unfold Text.isTooLong
  rw [decide_eq_true_iff]

theorem namesLongPosition_iff (e : Editor) (c : Editor.Command) :
    namesLongPosition e c = true ↔ NamesLong e c := by
  unfold NamesLong
  constructor
  · -- A command that names no position at all names no long one.
    intro h
    cases c with
    | update i values => exact ⟨i, .update, (isTooLong_iff i).1 h⟩
    | delete i answer =>
      obtain ⟨h_may, h_long⟩ := Bool.and_eq_true_iff.1 h
      exact ⟨i, .delete h_may, (isTooLong_iff i).1 h_long⟩
    | toggle i value =>
      obtain ⟨h_may, h_long⟩ := Bool.and_eq_true_iff.1 h
      exact ⟨i, .toggle h_may, (isTooLong_iff i).1 h_long⟩
    | relocate i j after =>
      obtain ⟨h_moves, h_long⟩ := Bool.and_eq_true_iff.1 h
      obtain ⟨h_may, h_else⟩ := Bool.and_eq_true_iff.1 h_moves
      rcases Bool.or_eq_true_iff.1 h_long with h_long | h_long
      · exact ⟨i, .source h_may (of_decide_eq_true h_else), (isTooLong_iff i).1 h_long⟩
      · exact ⟨j, .target h_may (of_decide_eq_true h_else), (isTooLong_iff j).1 h_long⟩
    | _ => cases h
  · rintro ⟨i, h_names, h_long⟩
    have h_long := (isTooLong_iff i).2 h_long
    cases h_names with
    | update => exact h_long
    | delete h_may | toggle h_may => simp only [namesLongPosition, h_may, h_long, Bool.and_self]
    | source h_may h_else | target h_may h_else =>
      simp [namesLongPosition, h_may, h_else, h_long]

/-- Whether the user breaks a command off: it asks before it does anything. -/
def Interrupts (e : Editor) (c : Editor.Command) (consent : Consent) : Prop :=
  consent = .interrupt ∧ Event.asked ∈ (e.run c fun _ => true).2.1

/-- What a kept editor answers to what it is asked for, and the editor after that.  It carries the
command out with a save that succeeds, and tells what its reply says. -/
inductive Answers (e : Editor) (consent : Consent) :
    Except Fault (Option Editor.Command) → Editor × Telling → Prop where
  | faulty {fault : Fault} : Answers e consent (.error fault) (e, { ending := .failed fault })
  | listed : Answers e consent (.ok none)
      (e, { ending := .exit 0, drawings := [render Headers.schema e.settings.may e.rules] })
  | long {c : Editor.Command} (h : NamesLong e c) :
      Answers e consent (.ok (some c)) (e, { ending := .failed .longPosition })
  | brokenOff {c : Editor.Command} {told : Telling} (h : Interrupts e c consent)
      (h_ending : told.ending = .exit 130) (h_saves : ¬ told.Saves) :
      Answers e consent (.ok (some c)) (e, told)
  | replied {c : Editor.Command} {reply : Editor.Reply} {line : Printed} {code : Nat}
      {told : Telling} (h_short : ¬ NamesLong e c)
      (h_stays : ¬ Interrupts e c consent) (h : (e.run c fun _ => true).2.2 = .ok reply)
      (h_line : Concludes reply line code) (h_last : told.drawings.getLast? = some (.ok line))
      (h_ending : told.ending = .exit code) (h_saves : told.Saves ↔ reply.status = .ok) :
      Answers e consent (.ok (some c)) ((e.run c fun _ => true).1, told)
  | failed {c : Editor.Command} {error : Editor.Error} {told : Telling}
      (h_short : ¬ NamesLong e c) (h_stays : ¬ Interrupts e c consent)
      (h : (e.run c fun _ => true).2.2 = .error error)
      (h_ending : told.ending = .failed (.editor error)) (h_saves : ¬ told.Saves) :
      Answers e consent (.ok (some c)) ((e.run c fun _ => true).1, told)

theorem answers_obey (h_form : e.form = form) {c : Editor.Command} {consent : Consent}
    (h_short : ¬ NamesLong e c) :
    Answers e consent (.ok (some c)) (obey e c consent) := by
  have h_after : (e.run c fun _ => true).1.form = form := (Editor.form_run e c _).trans h_form
  have h_interrupts : (consent = .interrupt && (e.run c fun _ => true).2.1.contains .asked) = true ↔
      Interrupts e c consent := by
    simp [Interrupts]
  unfold obey
  split
  next after events outcome h_run =>
    rw [h_run] at h_after h_interrupts
    -- Nothing is carried out of a command that is broken off; any other one has its outcome.
    split
    · rename_i h_off
      exact .brokenOff (h_interrupts.1 h_off) rfl (not_saves_brokenOff events)
    · rename_i h_on
      have h_stays := mt h_interrupts.2 h_on
      have h_outcome : (e.run c fun _ => true).2.2 = outcome := by rw [h_run]
      have h_editor : after = (e.run c fun _ => true).1 := by rw [h_run]
      cases outcome with
      | error error =>
        have h_not : ¬ (tellingOf after events (.error error)).Saves :=
          not_saves_of_error h_after error
        subst h_editor
        exact .failed h_short h_stays h_outcome rfl h_not
      | ok reply =>
        have h_saves : (tellingOf after events (.ok reply)).Saves ↔ reply.status = .ok :=
          saves_tellingOf_iff h_after
        subst h_editor
        exact .replied h_short h_stays h_outcome (concludes_conclude reply)
          List.getLast?_concat rfl h_saves

/-- **What the kept editor answers** to what a verb asks for. -/
theorem answers_serve (h : OnTerminal s e) (verb : Verb) (consent : Consent) :
    Answers e consent (verb.command consent) (serve e verb consent) := by
  unfold serve
  cases verb.command consent with
  | error fault => exact .faulty
  | ok command =>
    cases command with
    | none =>
      have h_drawn : e.render.flatMap (drawingsOf e) =
          [render Headers.schema e.settings.may e.rules] := by
        rw [render_of_terminal h.renderer]
        simp only [List.flatMap_cons, List.flatMap_nil, drawingsOf, h.form]
        rfl
      dsimp only
      rw [h_drawn]
      exact .listed
    | some c =>
      dsimp only
      split
      · rename_i h_long
        exact .long ((namesLongPosition_iff e c).1 h_long)
      · rename_i h_short
        exact answers_obey h.form (mt (namesLongPosition_iff e c).2 h_short)

end Rulebook.Terminal
