/-
  Rulebook.Proofs.Terminal.Follow

  Runs of the command line against one file come to what the same calls come to in one editor that
  is kept in memory (`runs_follow_kept`).

  A run loads the list, puts it in order, carries one command out and stores the list again.  The
  kept editor does none of that but the command.  What makes the two agree:

    * What a command comes to at a place is what it comes to in a kept editor with the same list, as
      far as the place saves it (`beside_carryOut`).
    * A list that was stored is loaded as it was (`File.load_of_save`, `editorOf_toValue`).
    * A run that stores nothing leaves the file as it is, in order or not; it is read as the same
      list the next time.

  `Follows` says so of one run; the invariant of all of them is that the file holds the list of the
  kept editor (`Holds`).  What a terminal does not print makes no difference to any of that: it is
  only missing in the report, and with it the line that says that the list was saved.
-/
import Rulebook.Proofs.Run
import Rulebook.Proofs.Storage.File
import Rulebook.Proofs.Terminal.Beside

namespace Rulebook.Terminal

open Storage

variable {s : Settings} {path : Path} {name : Name} {console : Console} {site : Site}
  {e e' fresh : Editor}

/-! ## The file and the kept editor -/

/-- A call is about the list in a file, with some settings. -/
def Against (s : Settings) (path : Path) (site : Site) (call : Call) : Prop :=
  ∃ a, Arguments.read call.arguments = .ok a ∧
    settingsOf site.tree call.environment a.config.value? = .ok s ∧
      Place.choose? a s = some (.file path)

instance (s : Settings) (path : Path) (site : Site) (call : Call) :
    Decidable (Against s path site call) :=
  match h : Arguments.read call.arguments with
  | .error _ => .isFalse fun ⟨_, h_read, _⟩ => nomatch h.symm.trans h_read
  | .ok a =>
    decidable_of_iff (settingsOf site.tree call.environment a.config.value? = .ok s ∧
      Place.choose? a s = some (.file path))
      ⟨fun h_rest => ⟨a, h, h_rest⟩, fun ⟨a', h_read, h_rest⟩ => by
        obtain rfl := Except.ok.inj (h.symm.trans h_read)
        exact h_rest⟩

/-- What is in a file, or that there is none, is read as the list of an editor. -/
def Holds (s : Settings) (path : Path) (site : Site) (e : Editor) : Prop :=
  ∃ found fresh, File.load site.tree path = .ok found ∧
    editorOf s (found.getD .null) = .ok fresh ∧ fresh.rules = e.rules

/-- A payload can be written to a file, and what is written is read as the payload. -/
def CanKeep (path : Path) (site : Site) (payload : Value) : Prop :=
  ((Place.file path).save site payload).2 = true ∧ ReadsBack File.writer payload

instance (path : Path) (site : Site) (payload : Value) : Decidable (CanKeep path site payload) :=
  inferInstanceAs (Decidable (_ ∧ _))

/-- What is in a file is the list of an editor, under the name of its key. -/
def InFile (path : Path) (name : Name) (p : Site × Editor) : Prop :=
  File.load p.1.tree path = .ok (some (p.2.book.toValue name))

/-- A file, beside a terminal, and a kept editor belong together. -/
structure Accord (s : Settings) (path : Path) (console : Console) (p : Site × Editor) : Prop where
  console : p.1.console = console
  kept : OnTerminal s p.2
  holds : Holds s path p.1 p.2

/-- A run and what the kept editor did come to the same: the terminal has made its report of what
the kept editor has to tell, and file and editor belong together.  If nothing was saved then nothing
has changed; if the list was saved then it is what is in the file. -/
structure Follows (s : Settings) (path : Path) (name : Name) (console : Console)
    (p p' : Site × Editor) (told : Report × Telling) : Prop where
  report : told.1 = console.report told.2
  draws : ∃ printed, told.2.Draws printed
  accord : Accord s path console p'
  untouched : ¬ told.2.Saves → p'.1 = p.1 ∧ p'.2.rules = p.2.rules
  stored : told.2.Saves → InFile path name p'

theorem Follows.told {p p' : Site × Editor} {told : Report × Telling}
    (h : Follows s path name console p p' told) :
    told.1 = console.report told.2 ∧ ∃ printed, told.2.Draws printed :=
  ⟨h.report, h.draws⟩

theorem Holds.of_rules (h : Holds s path site e) (h_rules : e'.rules = e.rules) :
    Holds s path site e' := by
  obtain ⟨found, fresh, h_load, h_fresh, h_list⟩ := h
  exact ⟨found, fresh, h_load, h_fresh, h_list.trans h_rules.symm⟩

/-- What was saved in a file is loaded from it. -/
theorem load_of_canKeep {payload : Value} (h : CanKeep path site payload) :
    File.load ((Place.file path).save site payload).1.tree path = .ok (some payload) := by
  obtain ⟨h_saved, h_read⟩ := h
  simp only [Place.save] at h_saved ⊢
  cases h_save : File.save site.tree path payload with
  | mk tree outcome =>
    rw [h_save] at h_saved
    cases outcome with
    | error error => exact nomatch h_saved
    | ok saved =>
      obtain rfl : saved = true := h_saved
      exact File.load_of_save h_save h_read

/-- A list that is in a file is held by it. -/
theorem InFile.holds (h_key : s.ruleKey.name? = some name) (h_kept : OnTerminal s e)
    (h_load : InFile path name (site, e)) : Holds s path site e := by
  obtain ⟨fresh, h_fresh, h_rules⟩ := editorOf_toValue h_key h_kept
  exact ⟨_, fresh, h_load, h_fresh, h_rules⟩

/-- Whether the list of an editor is in a file depends on its rules only. -/
theorem InFile.of_rules (h : InFile path name (site, e)) (h_rules : e'.rules = e.rules) :
    InFile path name (site, e') := by
  have h_payload : e'.book.toValue name = e.book.toValue name :=
    congrArg (fun rules : List Rule => Value.mapping [(name, .list (rules.map Rule.toValue))])
      h_rules
  rw [InFile, h_payload]
  exact h

/-- A list that is in the file is so after a run, too. -/
theorem Follows.inFile {p p' : Site × Editor} {told : Report × Telling}
    (h : Follows s path name console p p' told) (h_stored : InFile path name p) :
    InFile path name p' := by
  by_cases h_told : told.2.Saves
  · exact h.stored h_told
  · obtain ⟨h_site, h_rules⟩ := h.untouched h_told
    have h_kept : InFile path name (p.1, p'.2) := h_stored.of_rules h_rules
    rwa [← h_site] at h_kept

/-- A call that is about the list in a file means that one, and the kept editor answers what it asks
for. -/
theorem answers_attend (h_kept : OnTerminal s e) {call : Call} (h_call : Against s path site call) :
    ∃ asked, call.Means s (.file path) asked ∧
      Answers e call.consent asked (attend e call) := by
  obtain ⟨a, h_read, -, h_place⟩ := h_call
  refine ⟨_, means_of_read h_read h_place, ?_⟩
  rw [attend, h_read]
  exact answers_serve h_kept a.verb call.consent

/-! ## One run -/

/-- A run that tells nothing, and has done nothing. -/
theorem beside_silent (h_kept : OnTerminal s e) (place : Place) (ending : Ending) :
    Beside place name site e (e, { ending }) (site, { ending }) ∧ Kept s (e, { ending }) :=
  ⟨.idle List.not_mem_nil rfl, h_kept, [], rfl, List.not_mem_nil⟩

/-- **One run against a file, beside the kept editor**, if the file holds its list. -/
theorem beside_perform {description : String} (h_key : s.ruleKey.name? = some name)
    (h_description : s.finalDescription = .text description) (h_kept : OnTerminal s e)
    (h_holds : Holds s path site e) {call : Call} (h_call : Against s path site call) :
    Beside (.file path) name site e (attend e call) (perform site call) ∧
      Kept s (attend e call) := by
  obtain ⟨a, h_read, h_settings, h_place⟩ := h_call
  -- The run makes an editor of what it finds; its list is the one of the kept editor.
  obtain ⟨found, fresh, h_load, h_fresh, h_list⟩ := h_holds
  have h_terminal := onTerminal_editorOf h_description h_fresh
  have h_work := h_kept.sameWork h_terminal h_list
  have h_store := h_kept.sameStore h_terminal
  have h_loaded : (Place.file path).load site = (site, .ok (found.getD .null)) := by
    simp only [Place.load, h_load]
    rfl
  have h_attend : attend e call = serve e a.verb call.consent := by rw [attend, h_read]
  rw [perform_eq_workAt h_read h_settings h_place rfl fun _ => rfl, h_attend]
  simp only [workAt, serve, h_loaded, h_fresh, namesLongPosition_congr h_work]
  cases h_command : a.verb.command call.consent with
  | error fault => exact beside_silent h_kept _ _
  | ok command =>
    cases command with
    | none =>
      rw [render_congr h_work h_store, drawingsOf_congr h_work]
      obtain ⟨printed, h_drawn, h_not⟩ := exists_drawings h_kept.form e.render
      refine ⟨.idle (fun h => h_not ?_) rfl, h_kept, printed, h_drawn,
        fun h => h_not (List.dropLast_subset _ h)⟩
      rwa [Telling.Saves, h_drawn, mem_map_ok_iff] at h
    | some c =>
      dsimp only
      cases namesLongPosition e c with
      | true => exact beside_silent h_kept _ _
      | false => exact beside_carryOut h_key h_kept h_work h_store (modest_command h_command) _ _ _

/-- **One run against a file follows the kept editor**, if what the kept editor saves can be written
there. -/
theorem follows_run {description : String} (h_key : s.ruleKey.name? = some name)
    (h_description : s.finalDescription = .text description)
    (h_accord : Accord s path console (site, e)) {call : Call} (h_call : Against s path site call)
    (h_write : (attend e call).2.Saves →
      CanKeep path site ((attend e call).1.book.toValue name)) :
    Follows s path name console (site, e) ((run site call).1, (attend e call).1)
      ((run site call).2, (attend e call).2) := by
  obtain ⟨h_console, h_kept, h_holds⟩ := h_accord
  obtain ⟨h_beside, h_after, h_draws⟩ := beside_perform h_key h_description h_kept h_holds h_call
  obtain rfl : site.console = console := h_console
  rw [run]
  generalize perform site call = ended at h_beside
  cases h_beside with
  | idle h_told h_rules =>
    exact ⟨rfl, h_draws, ⟨rfl, h_after, h_holds.of_rules h_rules⟩, fun _ => ⟨rfl, h_rules⟩,
      fun h => absurd h h_told⟩
  | saved h_told h_saved =>
    have h_file : InFile path name
        (((Place.file path).save site ((attend e call).1.book.toValue name)).1, (attend e call).1) :=
      load_of_canKeep (h_write h_told)
    exact ⟨rfl, h_draws, ⟨rfl, h_after, h_file.holds h_key h_after⟩, fun h => absurd h_told h,
      fun _ => h_file⟩
  | unsaved h_told h_saved => exact nomatch h_saved.symm.trans (h_write h_told).1

theorem saved_of_getD {outcome : Except File.Error Bool}
    (h : outcome.toOption.getD false = true) : outcome = .ok true := by
  cases outcome with
  | error error => exact nomatch h
  | ok saved => exact congrArg Except.ok h

/-- A run whose list is none that can be put down, although there is a place for it, ends with code
1, does not say that the list was saved, and leaves what it has found. -/
theorem run_of_not_savable {description : String} (h_key : s.ruleKey.name? = some name)
    (h_description : s.finalDescription = .text description) (h_kept : OnTerminal s e)
    (h_holds : Holds s path site e) {call : Call} (h_call : Against s path site call)
    (h_ready : File.Ready site.tree path) (h_told : (attend e call).2.Saves)
    (h_not : ¬ Savable ((attend e call).1.book.toValue name)) :
    (run site call).2.ending.code = 1 ∧ ¬ Saved (run site call).2 ∧
      File.load (run site call).1.tree path = File.load site.tree path := by
  obtain ⟨h_beside, -⟩ := beside_perform h_key h_description h_kept h_holds h_call
  obtain ⟨tree, h_save, -, h_load⟩ := File.save_of_ready h_ready
    ((attend e call).1.book.toValue name)
  have h_verdict := mt File.verdict_eq_saved_iff.1 h_not
  -- The kept editor has saved, so the run has tried to, and what it wrote was none of the document.
  rw [run]
  generalize perform site call = ended at h_beside
  cases h_beside with
  | idle h_idle => exact absurd h_told h_idle
  | saved _ h_saved =>
    rw [Place.save, h_save] at h_saved
    exact absurd (saved_of_getD h_saved) h_verdict
  | unsaved _ _ h_ending h_unsaved h_draws =>
    obtain ⟨printed, h_draws⟩ := h_draws
    refine ⟨Console.code_report _ (by rw [h_ending]; rfl),
      fun h => h_unsaved ((Console.saved_report_iff h_draws).1 h).1, ?_⟩
    rw [Place.save, h_save]
    exact h_load h_verdict

/-! ## All runs -/

/-- A call is about the file, and what the kept editor saves for it can be written there. -/
def Proceeds (s : Settings) (path : Path) (name : Name) (p : Site × Editor) (call : Call) : Prop :=
  Against s path p.1 call ∧
    ((attend p.2 call).2.Saves → CanKeep path p.1 ((attend p.2 call).1.book.toValue name))

instance (s : Settings) (path : Path) (name : Name) (p : Site × Editor) (call : Call) :
    Decidable (Proceeds s path name p call) :=
  inferInstanceAs (Decidable (_ ∧ (_ → _)))

/-- The editor of a listing, or of nothing, can be made unless a rule is too deep to be held. -/
theorem editorOf_of_isListing (h_key : s.ruleKey.name? = some name) {found : Option Value}
    (h_listing : ∀ document ∈ found, Editor.IsListing name document) {error : ReadingError}
    (h_error : editorOf s (found.getD .null) = .error error) : error = .tooDeep := by
  have h_rules : ∃ rules, Editor.rulesOf s (found.getD .null) = Editor.holdable rules := by
    cases found with
    | none => exact ⟨[], Editor.rulesOf_null h_key⟩
    | some document => exact Editor.rulesOf_of_isListing h_key (h_listing document rfl)
  obtain ⟨rules, h_rules⟩ := h_rules
  rw [editorOf, h_rules, Editor.holdable] at h_error
  split at h_error
  · cases h_error
  · exact (Except.error.inj h_error).symm

/-- A run against a file that makes no editor fails, and nothing has changed. -/
theorem run_of_unreadable {call : Call} (h_call : Against s path site call) {found : Option Value}
    (h_load : File.load site.tree path = .ok found) {error : ReadingError}
    (h_error : editorOf s (found.getD .null) = .error error) :
    run site call = (site, { ending := .failed (.reading error) }) := by
  obtain ⟨a, h_read, h_settings, h_place⟩ := h_call
  have h_loaded : (Place.file path).load site = (site, .ok (found.getD .null)) := by
    simp only [Place.load, h_load]
    rfl
  rw [run, perform_eq_workAt h_read h_settings h_place rfl fun _ => rfl]
  simp only [workAt, h_loaded, h_error]
  rfl

/-- Runs against a file that makes no editor all fail, and leave the file as it is. -/
theorem runs_of_unreadable {found : Option Value} (h_found : File.load site.tree path = .ok found)
    {error : ReadingError} (h_error : editorOf s (found.getD .null) = .error error)
    {calls : List Call} (h_calls : Run.Allowed run (Against s path) site calls) :
    Run.after run site calls = site ∧
      ∀ report ∈ Run.shown run site calls, report = { ending := .failed (.reading error) } := by
  have h_run (site' : Site) (call : Call) (h : site' = site) (h_call : Against s path site' call) :
      run site' call = (site, { ending := .failed (.reading error) }) := by
    subst h
    exact run_of_unreadable h_call h_found h_error
  have h_step (site' : Site) (call : Call) (h : site' = site)
      (h_call : Against s path site' call) : (run site' call).1 = site := by
    rw [h_run site' call h h_call]
  have h_told (site' : Site) (call : Call) (h : site' = site)
      (h_call : Against s path site' call) :
      (run site' call).2 = { ending := .failed (.reading error) } := by
    rw [h_run site' call h h_call]
  exact ⟨Run.inv_after h_step rfl h_calls, Run.right_shown h_step h_told rfl h_calls⟩

/-- **Runs against one file come to what the same calls come to in one kept editor**, which was made
of the file once.  The file holds a listing, or there is none, and all that is saved can be written.
Each call means that file and asks for something, which the kept editor answers.  Every report is
what the terminal has made of what the kept editor has to tell, and it is all of that unless the
terminal refuses to print something; the list that a run finds in the file is the one of
the kept editor; a run leaves the files alone unless the kept editor has saved; and after the first
time that it has, the document in the file is the list of the kept editor under its key.  If the list
of a further call is none that can be put down then the run fails, and the file still holds what it
held.  An editor cannot be made only if a rule of the listing is too deep to be held, and then every
run fails for that reason. -/
theorem runs_follow_kept {key description : String} (h_key : s.ruleKey = .text key)
    (h_description : s.finalDescription = .text description) {found : Option Value}
    (h_found : File.load site.tree path = .ok found)
    (h_listing : ∀ document ∈ found, Editor.IsListing (.text key) document) :
    match editorOf s (found.getD .null) with
    | .ok e =>
      ∀ calls, Run.Allowed (Run.both run attend) (Proceeds s path (.text key)) (site, e) calls →
        let left := Run.after run site calls
        let kept := Run.after attend e calls
        (∀ before call, before ++ [call] <+: calls → ∃ asked, call.Means s (.file path) asked ∧
          Answers (Run.after attend e before) call.consent asked
            (attend (Run.after attend e before) call)) ∧
        Run.shown run site calls = (Run.shown attend e calls).map site.console.report ∧
        (∀ told ∈ Run.shown attend e calls,
          Reports site.console told (site.console.report told)) ∧
        (∀ before, before <+: calls →
          Holds s path (Run.after run site before) (Run.after attend e before)) ∧
        (∀ before call, before ++ [call] <+: calls →
          ¬ (attend (Run.after attend e before) call).2.Saves →
            Run.after run site (before ++ [call]) = Run.after run site before) ∧
        ((∃ told ∈ Run.shown attend e calls, told.Saves) →
          File.load left.tree path = .ok (some (kept.book.toValue (.text key)))) ∧
        ∀ call, Against s path left call → File.Ready left.tree path →
          (attend kept call).2.Saves → ¬ Savable ((attend kept call).1.book.toValue (.text key)) →
            (run left call).2.ending.code = 1 ∧ ¬ Saved (run left call).2 ∧
              File.load (run left call).1.tree path = File.load left.tree path
    | .error error =>
      error = .tooDeep ∧ ∀ calls, Run.Allowed run (Against s path) site calls →
        Run.after run site calls = site ∧ ∀ report ∈ Run.shown run site calls,
          report = { ending := .failed (.reading .tooDeep) } := by
  have h_name : s.ruleKey.name? = some (.text key) := by rw [h_key, Value.name?]
  cases h_editor : editorOf s (found.getD .null) with
  | error error =>
    obtain rfl := editorOf_of_isListing h_name h_listing h_editor
    exact ⟨rfl, fun calls h_calls => runs_of_unreadable h_found h_editor h_calls⟩
  | ok e =>
  intro calls h_calls left kept
  -- The invariant of the two runs side by side is that file and editor belong together.
  have h_start : Accord s path site.console (site, e) :=
    ⟨rfl, onTerminal_editorOf h_description h_editor, found, e, h_found, h_editor, rfl⟩
  have h_follows (p : Site × Editor) (call : Call) (h : Accord s path site.console p)
      (h_call : Proceeds s path (.text key) p call) :
      Follows s path (.text key) site.console p (Run.both run attend p call).1
        (Run.both run attend p call).2 :=
    follows_run h_name h_description h h_call.1 h_call.2
  have h_step (p : Site × Editor) (call : Call) (h : Accord s path site.console p)
      (h_call : Proceeds s path (.text key) p call) :=
    (h_follows p call h h_call).accord
  have h_accords {before : List Call} (h : before <+: calls) :
      Accord s path site.console (Run.after run site before, Run.after attend e before) := by
    rw [← Run.after_both]
    exact Run.inv_prefix h_step h_start h_calls h
  have h_next {before : List Call} {call : Call} (h : before ++ [call] <+: calls) :
      Accord s path site.console (Run.after run site before, Run.after attend e before) ∧
        Proceeds s path (.text key) (Run.after run site before, Run.after attend e before) call := by
    refine ⟨h_accords ((List.prefix_append before [call]).trans h), ?_⟩
    rw [← Run.after_both]
    exact Run.allowed_iff_prefix.1 h_calls before call h
  have h_shown : ∀ told ∈ Run.shown (Run.both run attend) (site, e) calls,
      told.1 = site.console.report told.2 ∧ ∃ printed, told.2.Draws printed :=
    Run.right_shown h_step (fun p call h h_call => (h_follows p call h h_call).told) h_start h_calls
  refine ⟨fun before call h => ?_, Run.shown_eq_map_of_both fun told h => (h_shown told h).1,
    fun told h_told => ?_, fun before h => (h_accords h).holds, fun before call h h_unsaved => ?_,
    fun h_saved => ?_, fun call h_call h_ready h_told h_not => ?_⟩
  · obtain ⟨h_before, h_call⟩ := h_next h
    exact answers_attend h_before.kept h_call.1
  · have h_both : (Run.shown (Run.both run attend) (site, e) calls).map Prod.snd =
        Run.shown attend e calls := Run.map_snd_shown_both calls
    rw [← h_both] at h_told
    obtain ⟨both, h_mem, rfl⟩ := List.mem_map.1 h_told
    obtain ⟨printed, h_draws⟩ := (h_shown both h_mem).2
    exact site.console.reports h_draws
  · obtain ⟨h_before, h_call⟩ := h_next h
    rw [Run.after_append]
    exact ((h_follows _ call h_before h_call).untouched h_unsaved).1
  · have h_told : ∃ told ∈ Run.shown (Run.both run attend) (site, e) calls, told.2.Saves :=
      Run.exists_shown_both h_saved
    -- From the first save on the list is in the file: each run stores it again or changes nothing.
    have h_file : InFile path (.text key) (Run.after (Run.both run attend) (site, e) calls) :=
      @Run.once_shown _ _ _ _ _ _ _ (fun told => told.2.Saves) (InFile path (.text key)) h_step
        (fun p call h h_call => (h_follows p call h h_call).stored)
        (fun p call h h_call => (h_follows p call h h_call).inFile) _ h_start h_calls (.inr h_told)
    rwa [Run.after_both] at h_file
  · have h_end := h_accords (List.prefix_refl calls)
    exact run_of_not_savable h_name h_description h_end.kept h_end.holds h_call h_ready h_told h_not

/-- A file holds a list that is not in order: it lacks the sentinel.  A run that is refused leaves
it so; the next one edits the sentinel that both runs see, and saves it. -/
theorem runs_follow_kept_edit :
    let path : Path := ⟨.here, ["rules.json"]⟩
    let site : Site := {
      tree := { nodes := [(⟨.here, 0, ["rules.json"]⟩, .ofText "\x7b\"rules\": []\x7d")] }
      link := { answer := fun _ => .broken "" } }
    let document : Value := .mapping [("rules", .list [])]
    let e := (Editor.new {} form none []).1.attach (some "terminal")
    let calls : List Call := [
      { arguments := ["toggle", "1", "off"] },
      { arguments := ["edit", "1", "--description", "rest"] }]
    File.load site.tree path = .ok (some document) ∧ Editor.IsListing "rules" document ∧
      Run.Allowed (Run.both run attend) (Proceeds {} path "rules") (site, e) calls ∧
      Run.shown run site calls = (Run.shown attend e calls).map site.console.report ∧
      File.load (Run.after run site calls).tree path =
        .ok (some ((Run.after attend e calls).book.toValue "rules")) := by
  intro path site document e calls
  have h_found : File.load site.tree path = .ok (some document) := by decide +kernel
  have h_listing : Editor.IsListing "rules" document := by
    refine ⟨_, rfl, fun stored h => ?_⟩
    obtain rfl := Option.some.inj h
    exact ⟨[], rfl⟩
  have h_calls : Run.Allowed (Run.both run attend) (Proceeds {} path "rules") (site, e) calls := by
    decide +kernel
  obtain ⟨-, h_shown, -, -, -, h_stored, -⟩ := runs_follow_kept (s := {}) rfl rfl h_found
    (fun found h => Option.some.inj h ▸ h_listing) calls h_calls
  have h_saves : ∃ told ∈ Run.shown attend e calls, told.Saves := by decide +kernel
  exact ⟨h_found, h_listing, h_calls, h_shown, h_stored h_saves⟩

/-- What the kept editor has to tell of a saved command is not all that comes of the run.  A terminal
that refuses a cell lets the run fail after the file was rewritten; and where the list has a text
without bytes the run cannot write it, and takes the command back. -/
theorem runs_not_as_kept :
    let path : Path := ⟨.here, ["rules.json"]⟩
    let call : Call := { arguments := ["toggle", "1", "off"] }
    let holding (console : Console) (rule : String) : Site := {
      tree := { nodes := [(⟨.here, 0, ["rules.json"]⟩,
        .ofText ("\x7b\"rules\": [\x7b" ++ rule ++ "\x7d]\x7d"))] }
      link := { answer := fun _ => .broken "" }
      console }
    let kept (site : Site) : Option Ending := do
      let found ← (File.load site.tree path).toOption
      let e ← (editorOf {} (found.getD .null)).toOption
      return (attend e call).2.ending
    let marked := holding strict "\"match_value\": \"[/x]\""
    let unpaired := holding {} "\"note\": \"\\ud800\""
    (kept marked = some (.exit 0) ∧
      (run marked call).2 = { ending := .failed (.reading .strayMarks) } ∧
      (run marked call).1.tree.look path ≠ marked.tree.look path) ∧
    kept unpaired = some (.exit 0) ∧ (run unpaired call).2.ending = .exit 1 ∧
      (run unpaired call).1.tree.look path = unpaired.tree.look path := by
  intro path call holding kept marked unpaired
  refine ⟨?_, ?_⟩
  · decide +kernel
  · decide +kernel

end Rulebook.Terminal
