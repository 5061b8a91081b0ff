/-
  Rulebook.Proofs.Terminal.Remote

  Runs of the command line against a list on the other side of a connection: what they send, and
  how they end (`posts_loaded_list_only`).

  A run asks for the list, carries one command out and posts the list if it has changed.  Whatever
  comes back, there are four courses that it can take (`course_workAt`): the list cannot be asked
  for, it is asked for and not loaded, it is loaded and nothing is posted, or it is loaded and
  posted.  All that is said of a run is said from these.

  What is posted in the last one is made of what was loaded (`Rewrites`).  Nothing is lost on the
  way because of what a command keeps of a list (`Editor.Command.Carries.keeps`), and a rule that the
  command has made is known from the options (`Editor.writes_begin`).  The run does not break off
  when the post has failed because the undo of a command is never refused right after it
  (`Editor.exists_reply_of_saving`).

  The new list is printed after it was posted.  So a terminal that refuses it has a say in how a run
  ends, but not in what is posted (`TellsPosted.report`).
-/
import Rulebook.Proofs.Editor.Given
import Rulebook.Proofs.Storage.Remote
import Rulebook.Proofs.Terminal.Beside

namespace Rulebook.Terminal

open Storage
open Storage.Remote (Delivers Fails TooDeep received)

/-! ## What a run sends -/

/-- The requests of a run: none, if the list cannot be asked for; otherwise it is asked for once,
and is posted once at most. -/
inductive Exchange (r : Remote) : List Request → Prop where
  | silent (h_load : ∀ text url, ¬ r.Sends r.loadUrl text url) : Exchange r []
  | asked {text : String} {url : Url} (h_load : r.Sends r.loadUrl text url) :
      Exchange r [r.asking url]
  | posted {text text' body : String} {url url' : Url} (h_load : r.Sends r.loadUrl text url)
      (h_save : r.Sends r.saveUrl text' url') : Exchange r [r.asking url, r.posting url' body]

/-- Whether the list was asked for, and what came back holds some entries. -/
def Loaded (l : Link) (requests : List Request) (entries : Entries) : Prop :=
  ∃ asked ∈ requests.head?, ∃ answer, received l asked.url = .ok answer ∧ Delivers answer entries

/-- How a book comes from entries that were loaded: an editor was made of them, and a command that
is being saved has carried out its operation there; a rule that it has put there is made of the
values that it gives.  If the entries have nothing under the key then no rule was read, and if they
have a list there then it is one of mappings, of which the rules were read; the editor has them in
order.  What is stored of the book is read as its rules. -/
structure Rewrites (s : Settings) (key : Name) (entries : Entries) (c : Editor.Command)
    (e : Editor) (book : Book) : Prop where
  editor : editorOf s (.mapping entries) = .ok e
  begun : (∃ t, (e.begin c).2.2 = .saving t) ∧ (e.begin c).1.book = book
  carries : c.Carries e.book book
  writes : c.Writes e.book book
  keeps : c.Keeps e.rules book.rules
  readBack : Editor.rulesOf s (book.toValue key) = .ok book.rules
  absent : entries.get? key = none → e.book = s.book []
  listed : ∀ members, entries.get? key = some (.list members) →
    ∃ items : List Entries, members = items.map .mapping ∧
      e.book = s.book (items.map Rule.ofEntries) ∧
      e.rules.filter (fun r => !r.isFinal) =
        (items.map Rule.ofEntries).filter fun r => !r.isFinal

variable {s : Settings} {r : Remote} {site : Site} {e e' : Editor} {c : Editor.Command}
  {key description : String} {consent : Consent} {events : List Event} {t : Editor.Ticket}

/-! ## Carrying a command out -/

/-- What a run tells of a list that was posted: that it was saved, below the list, or that it was
not. -/
structure TellsPosted (s : Settings) (book : Book) (saved : Bool) (told : Telling) : Prop where
  ending : told.ending = .exit (if saved then 0 else 1)
  saves : told.Saves ↔ saved = true
  draws : ∃ printed, told.Draws printed
  shown : saved = true →
    told.drawings = [render Headers.schema s.may book.rules, .ok savedLine]

/-- What is drawn of a command whose save has succeeded is the new list, and that it was saved. -/
theorem drawings_toldAfter (h_kept : OnTerminal s e) (h : e.begin c = (e', events, .saving t)) :
    (toldAfter e' events t true).drawings =
      [render Headers.schema s.may e'.book.rules, .ok savedLine] := by
  have h_begins := h ▸ Editor.begins_begin e c
  cases h_begins with
  | saving _ _ _ h_same h_events h_saved =>
    -- Until the save began nothing has happened but questions.
    have h_silent (e : Editor) : events.flatMap (drawingsOf e) = [] := by
      refine List.flatMap_eq_nil_iff.2 fun event h_event => ?_
      rw [h_events event h_event]
      rfl
    have h_renderer : (e'.landed e'.book).saver.renderer = some "terminal" :=
      h_same.sameStore.renderer.trans h_kept.renderer
    have h_settings : (e'.finish t true).1.settings = s :=
      ((Editor.sameWork_finish_saved e' t).settings.trans h_same.settings).trans h_kept.settings
    have h_form : (e'.finish t true).1.form = form :=
      (Editor.form_finish e' t true).trans (h_same.form.trans h_kept.form)
    have h_line : (conclude t.onSaved).1 = savedLine := by rw [conclude, h_saved]
    have h_drawn : (e'.landed e'.book).render = [.rendered "terminal" e'.book.rules] :=
      render_of_terminal h_renderer
    have h_table : (toldAfter e' events t true).drawings =
        (events ++ .afterSave true :: (e'.landed e'.book).render).flatMap
          (drawingsOf (e'.finish t true).1) ++ [.ok (conclude t.onSaved).1] := rfl
    rw [h_table, h_drawn, h_line, List.flatMap_append, h_silent]
    simp only [List.flatMap_cons, List.flatMap_nil, drawingsOf, h_settings, h_form]
    rfl

theorem tellsPosted_toldAfter (h_kept : OnTerminal s e) (h : e.begin c = (e', events, .saving t))
    (saved : Bool) : TellsPosted s e'.book saved (toldAfter e' events t saved) := by
  obtain ⟨h_ending, h_saves, h_draws⟩ := told_toldAfter h_kept.form h saved events
  refine ⟨h_ending, h_saves, h_draws, ?_⟩
  rintro rfl
  exact drawings_toldAfter h_kept h

/-- **Carrying a command out posts nothing, or the list that is being saved.**  If it is posted then
it is saved exactly if status 200 comes back, and the run has that to tell. -/
theorem carryOut_cases (r : Remote) (site : Site) (h_kept : OnTerminal s e) (c : Editor.Command)
    (consent : Consent) :
    (carryOut (.remote r) site e c consent).1 = site ∨
      ∃ t text url body saved, (e.begin c).2.2 = .saving t ∧
        r.Sends r.saveUrl text url ∧ Remote.bodyOf t.payload = .ok body ∧
        (carryOut (.remote r) site e c consent).1 =
          { site with link := site.link.after (r.posting url body) } ∧
        TellsPosted s (e.begin c).1.book saved (carryOut (.remote r) site e c consent).2 ∧
        (saved = true ↔ ∃ body, received site.link url = .ok (.response 200 body)) := by
  -- Something is posted only if a save has begun that is not broken off and can be sent.
  rcases h_begin : e.begin c with ⟨e', events, outcome | t⟩
  · rw [carryOut_of_done h_begin]
    split
    · exact .inl rfl
    · exact .inl rfl
  · rw [carryOut_of_begun h_begin]
    split
    · exact .inl rfl
    · rcases r.save_cases site.link t.payload with
        ⟨error, h_save⟩ | ⟨text, url, body, h_sends, h_body, h_save⟩
      · rw [Place.save, h_save]
        exact .inl rfl
      · rw [Place.save, h_save]
        exact .inr ⟨t, text, url, body, _, rfl, h_sends, h_body, rfl,
          tellsPosted_toldAfter h_kept h_begin _, Remote.isSaved_iff⟩

/-- What comes of it on a terminal: the run ends with success exactly if the list was saved and
the terminal prints it and the line that says so. -/
theorem TellsPosted.report {book : Book} {saved : Bool} {told : Telling} {table : Printed}
    (h : TellsPosted s book saved told)
    (h_table : render Headers.schema s.may book.rules = .ok table) (console : Console) :
    ((console.report told).ending.code = 0 ∨ (console.report told).ending.code = 1) ∧
      ((console.report told).ending.code = 0 ↔
        saved = true ∧ console.prints table = true ∧ console.prints savedLine = true) ∧
      (Saved (console.report told) ↔ (console.report told).ending.code = 0) := by
  obtain ⟨printed, h_draws⟩ := h.draws
  have h_said := Console.saved_report_iff (c := console) h_draws
  cases saved with
  | false =>
    have h_code : (console.report told).ending.code = 1 :=
      Console.code_report console (by rw [h.ending]; rfl)
    have h_unsaved : ¬ Saved (console.report told) :=
      fun h_shown => Bool.false_ne_true (h.saves.1 (h_said.1 h_shown).1)
    rw [h_code]
    exact ⟨.inr rfl, ⟨nofun, fun h => nomatch h.1⟩, ⟨fun h => absurd h h_unsaved, nofun⟩⟩
  | true =>
    -- The code is 0 if both things are printed; otherwise one is refused and the run fails.
    have h_shown : told.drawings = [table, savedLine].map .ok := by rw [h.shown rfl, h_table]; rfl
    obtain rfl := h_draws.eq_of_drawings h_shown
    have h_prints : (∀ p ∈ [table, savedLine], console.prints p = true) ↔
        console.prints table = true ∧ console.prints savedLine = true := by simp
    rw [h_said, h_prints, and_iff_right (h.saves.2 rfl), and_iff_right rfl]
    cases console.reports h_draws with
    | complete h_drawings h_all h_report =>
      obtain rfl := h_draws.eq_of_drawings h_drawings
      have h_code : (console.report told).ending.code = 0 := by rw [h_report, h.ending]; rfl
      rw [h_code]
      exact ⟨.inl rfl, iff_of_true rfl (h_prints.1 h_all), iff_of_true (h_prints.1 h_all) rfl⟩
    | broken h_drawings h_refuses h_ending =>
      obtain rfl := h_draws.eq_of_drawings h_drawings
      obtain ⟨p, hp, h_refused⟩ := h_refuses
      have h_not : ¬ (console.prints table = true ∧ console.prints savedLine = true) :=
        fun h => nomatch h_refused.symm.trans (h_prints.2 h p hp)
      rw [h_ending]
      exact ⟨.inr rfl, iff_of_false nofun h_not, iff_of_false h_not nofun⟩

/-! ## One run -/

/-- The list that a command is saving comes from the entries that were loaded. -/
theorem rewrites_of_begin {verb : Verb} {entries : Entries} (h_key : s.ruleKey = .text key)
    (h_description : s.finalDescription = .text description)
    (h_editor : editorOf s (.mapping entries) = .ok e)
    (h_command : verb.command consent = .ok (some c)) (h_saving : (e.begin c).2.2 = .saving t) :
    ∃ book, Rewrites s (.text key) entries c e book ∧ t.payload = book.toValue (.text key) := by
  have h_name : s.ruleKey.name? = some (.text key) := by rw [h_key, Value.name?]
  have h_modest := modest_command h_command
  have h_kept := onTerminal_editorOf h_description h_editor
  have h_begins := Editor.begins_begin e c
  have h_storable := storable_begin h_kept.form h_kept.rules h_modest
  obtain ⟨rules, h_rules, h_new⟩ := bind_eq_ok_iff.1 h_editor
  have h_book : e.book = s.book rules := by rw [← Except.ok.inj h_new]; rfl
  rcases h_begin : e.begin c with ⟨e', events, begun⟩
  rw [h_begin] at h_saving h_begins h_storable
  obtain rfl : begun = .saving t := h_saving
  have h_carries := Editor.carries_begin h_modest.ofList h_begin
  have h_writes : c.Writes e.book e'.book :=
    Editor.writes_begin (by rw [h_kept.form]; rfl) (by rw [h_kept.form]; rfl) h_modest.distinct
      h_begin
  -- The payload was made before the save began, of the book that the command leaves.
  have h_payload : t.payload = e'.book.toValue (.text key) := by
    cases h_begins with
    | saving _ h_some h_payload h_same =>
      rw [h_kept.key, h_name, Option.some.injEq] at h_some
      rw [h_payload, ← h_some, h_same.book]
      rfl
  rw [Editor.rulesOf_mapping h_name] at h_rules
  have h_begun : (∃ t, (e.begin c).2.2 = .saving t) ∧ (e.begin c).1.book = e'.book :=
    ⟨⟨t, by rw [h_begin]⟩, by rw [h_begin]⟩
  refine ⟨e'.book, ⟨h_editor, h_begun, h_carries, h_writes, h_carries.keeps,
    Editor.rulesOf_toValue h_name h_storable, fun h_none => ?_, fun members h_some => ?_⟩,
    h_payload⟩
  · rw [h_none] at h_rules
    obtain ⟨items, h_items, rfl⟩ := Editor.items_of_rulesOfItems h_rules
    obtain rfl := List.map_eq_nil_iff.1 h_items.symm
    exact h_book
  · rw [h_some] at h_rules
    obtain ⟨items, h_items, rfl⟩ := Editor.items_of_rulesOfItems h_rules
    refine ⟨items, h_items, h_book, ?_⟩
    have h_list : e.rules = (s.book (items.map Rule.ofEntries)).rules := congrArg Book.rules h_book
    rw [h_list]
    exact Book.filter_normalise _ _ _

/-- What a run tells that could not load the list. -/
def tellingOfLoad : LoadError → Telling
  | .fetch error => { ending := .exit 1, drawings := [.ok (errorLine error.message)] }
  | error => { ending := .failed (.load error) }

/-- All that a run can do: what it sends over a connection, and what it tells. -/
inductive Course (s : Settings) (r : Remote) (key : Name) (verb : Verb) (consent : Consent)
    (l : Link) : List Request → Telling → Prop where
  /-- the list cannot be asked for -/
  | unasked {error : RequestError} (h_asks : ∀ text url, ¬ r.Sends r.loadUrl text url) :
      Course s r key verb consent l [] { ending := .failed (.load (.request error)) }
  /-- it was asked for, but could not be loaded -/
  | unloaded {text : String} {url : Url} {error : LoadError}
      (h_asks : r.Sends r.loadUrl text url)
      (h_load : (received l url).mapError .request >>= Remote.readAnswer text = .error error) :
      Course s r key verb consent l [r.asking url] (tellingOfLoad error)
  /-- it was loaded, but nothing was posted -/
  | unposted {text : String} {url : Url} {answer : Answer} {entries : Entries} {told : Telling}
      (h_asks : r.Sends r.loadUrl text url) (h_received : received l url = .ok answer)
      (h_delivers : Delivers answer entries) :
      Course s r key verb consent l [r.asking url] told
  /-- a list that comes from it was posted -/
  | posted {text text' body : String} {url url' : Url} {answer : Answer} {entries : Entries}
      {c : Editor.Command} {e : Editor} {book : Book} {saved : Bool} {told : Telling}
      (h_asks : r.Sends r.loadUrl text url) (h_received : received l url = .ok answer)
      (h_delivers : Delivers answer entries) (h_command : verb.command consent = .ok (some c))
      (h_rewrites : Rewrites s key entries c e book)
      (h_posts : r.Sends r.saveUrl text' url')
      (h_body : Remote.bodyOf (book.toValue key) = .ok body)
      (h_told : TellsPosted s book saved told)
      (h_saved : saved = true ↔
        ∃ body, received (l.after (r.asking url)) url' = .ok (.response 200 body)) :
      Course s r key verb consent l [r.asking url, r.posting url' body] told

/-- **What a run against a remote list does.** -/
theorem course_workAt (h_key : s.ruleKey = .text key)
    (h_description : s.finalDescription = .text description) (r : Remote) (verb : Verb)
    (site : Site) (consent : Consent) :
    ∃ requests, (workAt (.remote r) s verb site consent).1 =
        { site with link := { site.link with sent := site.link.sent ++ requests } } ∧
      Course s r (.text key) verb consent site.link requests
        (workAt (.remote r) s verb site consent).2 := by
  unfold workAt
  rcases r.load_cases site.link with ⟨h_silent, error, h_load⟩ | ⟨text, url, h_asks, h_load⟩
  · rw [Place.load, h_load]
    exact ⟨[], by simp, .unasked h_silent⟩
  · rw [Place.load, h_load]
    cases h_read : (received site.link url).mapError .request >>= Remote.readAnswer text with
    | error error =>
      -- What could not be fetched is reported; any other error ends the run.
      have h_course : Course s r (.text key) verb consent site.link [r.asking url]
          (tellingOfLoad error) := .unloaded h_asks h_read
      cases error with
      | fetch error => exact ⟨_, rfl, h_course⟩
      | _ => exact ⟨_, rfl, h_course⟩
    | ok payload =>
      obtain ⟨entries, answer, rfl, h_received, h_delivers⟩ :=
        Remote.bind_readAnswer_eq_ok_iff.1 h_read
      have h_unposted (told : Telling) : Course s r (.text key) verb consent site.link
          [r.asking url] told := .unposted h_asks h_received h_delivers
      -- From here on a run ends without a post unless a command goes on to save the list.
      dsimp only
      cases h_editor : editorOf s (.mapping entries) with
      | error error => exact ⟨_, rfl, h_unposted _⟩
      | ok e =>
        cases h_command : verb.command consent with
        | error fault => exact ⟨_, rfl, h_unposted _⟩
        | ok command =>
          cases command with
          | none => exact ⟨_, rfl, h_unposted _⟩
          | some c =>
            dsimp only
            split
            · exact ⟨_, rfl, h_unposted _⟩
            · rcases carryOut_cases r { site with link := site.link.after (r.asking url) }
                (onTerminal_editorOf h_description h_editor) c consent with
                h_site | ⟨t, text', url', body, saved, h_saving, h_posts, h_body, h_site, h_told,
                  h_saved⟩
              · exact ⟨_, h_site, h_unposted _⟩
              · obtain ⟨book, h_rewrites, h_payload⟩ :=
                  rewrites_of_begin h_key h_description h_editor h_command h_saving
                rw [h_payload] at h_body
                rw [h_rewrites.begun.2] at h_told
                refine ⟨_, ?_, .posted h_asks h_received h_delivers h_command h_rewrites h_posts
                  h_body h_told h_saved⟩
                rw [h_site]
                simp [Link.after]

section Course

variable {verb : Verb} {name : Name} {l : Link} {requests : List Request} {told : Telling}

theorem Course.exchange (h : Course s r name verb consent l requests told) :
    Exchange r requests := by
  cases h with
  | unasked h_asks => exact .silent h_asks
  | unloaded h_asks | unposted h_asks => exact .asked h_asks
  | posted h_asks _ _ _ _ h_posts => exact .posted h_asks h_posts

/-- A list that was not loaded is not posted, and the run ends without success. -/
theorem Course.of_not_loaded (h : Course s r name verb consent l requests told)
    (h_not : ∀ entries, ¬ Loaded l requests entries) :
    (∀ request ∈ requests, request.method = .get) ∧ told.ending.code = 1 := by
  cases h with
  | unasked => exact ⟨fun request h => absurd h List.not_mem_nil, rfl⟩
  | @unloaded text url error =>
    refine ⟨fun request h => by rw [List.mem_singleton.1 h]; rfl, ?_⟩
    cases error <;> rfl
  | unposted _ h_received h_delivers =>
    exact absurd ⟨_, rfl, _, h_received, h_delivers⟩ (h_not _)
  | posted _ h_received h_delivers =>
    exact absurd ⟨_, rfl, _, h_received, h_delivers⟩ (h_not _)

/-- If the answer does not hold the list then nothing is posted, and the run says why the list could
not be fetched and ends with code 1. -/
theorem Course.of_fails (h : Course s r name verb consent l requests told) {asked : Request}
    (h_asked : asked ∈ requests.head?) {answer : Answer}
    (h_received : received l asked.url = .ok answer) (h_fails : Fails answer) :
    requests = [asked] ∧ ∃ error, told = tellingOfLoad (.fetch error) := by
  cases h with
  | unasked => exact nomatch h_asked
  | @unloaded text url error _ h_load =>
    obtain rfl := Option.mem_some_iff.1 h_asked
    obtain ⟨fault, h_error⟩ := h_fails.readAnswer_eq text
    have h_received : received l url = .ok answer := h_received
    have h_read : Remote.readAnswer text answer = .error error := by
      rw [h_received] at h_load
      exact h_load
    obtain rfl := Except.error.inj (h_read.symm.trans h_error)
    exact ⟨rfl, fault, rfl⟩
  | unposted _ h_received' h_delivers | posted _ h_received' h_delivers =>
    obtain rfl := Option.mem_some_iff.1 h_asked
    obtain rfl := Except.ok.inj (h_received.symm.trans h_received')
    exact absurd h_delivers h_fails.not_delivers

/-- If there are two requests then the list was loaded, what is posted comes from it, and it is
saved exactly if status 200 comes back. -/
theorem Course.of_posted (h : Course s r name verb consent l requests told)
    {asked post : Request} (h_two : requests = [asked, post]) :
    ∃ entries c e book body saved, Loaded l requests entries ∧
      verb.command consent = .ok (some c) ∧ Rewrites s name entries c e book ∧
      Remote.bodyOf (book.toValue name) = .ok body ∧ post.body = some body ∧
      TellsPosted s book saved told ∧
      (saved = true ↔ ∃ body, received (l.after asked) post.url = .ok (.response 200 body)) := by
  cases h with
  | unasked | unloaded | unposted => exact nomatch h_two
  | posted _ h_received h_delivers h_command h_rewrites _ h_body h_told h_saved =>
    simp only [List.cons.injEq, and_true] at h_two
    obtain ⟨rfl, rfl⟩ := h_two
    exact ⟨_, _, _, _, _, _, ⟨_, rfl, _, h_received, h_delivers⟩, h_command, h_rewrites, h_body,
      rfl, h_told, h_saved⟩

end Course

/-- **A list that could not be loaded is never overwritten, and one that was loaded loses nothing.**
A run that keeps its list on the other side of a connection, as the call means it, asks for it once,
unless no request can be made to the address, and posts it once at most.  If the list was not loaded
then nothing is posted and the code is 1, and a run that was answered without the list ends of its
own accord and says why.  If a list is posted then a mapping was loaded, with a list of mappings
under the key if it has a list there, and the text that is posted is the one of what the command has
made of the rules that were read, put in order: the rules that the command does not name are in it,
in their order, and the one that it moves as well.  The code is 0 then exactly if status 200 comes
back and the terminal prints the new list and the line that says that it was saved; otherwise it is
1, and nothing says so. -/
theorem posts_loaded_list_only {a : Arguments} {call : Call}
    (h_read : Arguments.read call.arguments = .ok a)
    (h_settings : settingsOf site.tree call.environment a.config.value? = .ok s)
    (h_place : Place.choose? a s = some (.remote r)) (h_key : s.ruleKey = .text key)
    (h_description : s.finalDescription = .text description) :
    let ended := run site call
    call.Means s (.remote r) (a.verb.command call.consent) ∧ ∃ requests,
      ended.1 = { site with link := { site.link with sent := site.link.sent ++ requests } } ∧
      Exchange r requests ∧
      ((∀ entries, ¬ Loaded site.link requests entries) →
        (∀ request ∈ requests, request.method = .get) ∧ ended.2.ending.code = 1) ∧
      (∀ asked ∈ requests.head?, ∀ answer, received site.link asked.url = .ok answer →
        Fails answer → requests = [asked] ∧ ∃ error : FetchError,
          ended.2 = site.console.report
            { ending := .exit 1, drawings := [.ok (errorLine error.message)] }) ∧
      ∀ asked post, requests = [asked, post] →
        ∃ entries c e book body table, Loaded site.link requests entries ∧
          a.verb.command call.consent = .ok (some c) ∧
          Rewrites s (.text key) entries c e book ∧
          Remote.bodyOf (book.toValue (.text key)) = .ok body ∧ post.body = some body ∧
          render Headers.schema s.may book.rules = .ok table ∧
          (ended.2.ending.code = 0 ∨ ended.2.ending.code = 1) ∧
          (ended.2.ending.code = 0 ↔
            (∃ body, received (site.link.after asked) post.url = .ok (.response 200 body)) ∧
              site.console.prints table = true ∧ site.console.prints savedLine = true) ∧
          (Saved ended.2 ↔ ended.2.ending.code = 0) := by
  intro ended
  obtain ⟨requests, h_site, h_course⟩ :=
    course_workAt h_key h_description r a.verb site call.consent
  rw [← perform_eq_workAt h_read h_settings h_place rfl fun _ => rfl] at h_site h_course
  have h_report : ended.2 = site.console.report (perform site call).2 := rfl
  refine ⟨means_of_read h_read h_place, requests, h_site, h_course.exchange, fun h_not => ?_,
    fun asked h_asked answer h_received h_fails => ?_, fun asked post h_two => ?_⟩
  · obtain ⟨h_gets, h_code⟩ := h_course.of_not_loaded h_not
    exact ⟨h_gets, Console.code_report _ h_code⟩
  · obtain ⟨h_one, error, h_told⟩ := h_course.of_fails h_asked h_received h_fails
    rw [h_report, h_told]
    exact ⟨h_one, error, rfl⟩
  · obtain ⟨entries, c, e, book, body, saved, h_loaded, h_command, h_rewrites, h_body, h_post,
      h_told, h_saved⟩ := h_course.of_posted h_two
    obtain ⟨table, h_table, -⟩ := exists_render s.may book.rules
    obtain ⟨h_codes, h_code, h_said⟩ := h_told.report h_table site.console
    rw [h_saved] at h_code
    exact ⟨entries, c, e, book, body, table, h_loaded, h_command, h_rewrites, h_body, h_post,
      h_table, h_codes, h_code, h_said⟩

/-- A list of two rules without a sentinel is loaded, the first rule is deleted, and the list is
posted. -/
theorem posts_loaded_list_only_delete :
    let document := "\x7b\"rules\": [\x7b\x7d, \x7b\"note\": 1\x7d]\x7d"
    let answer (n : Nat) : Answer :=
      if n = 0 then .response 200 (Text.utf8 document) else .response 200 []
    let site : Site := { link := { answer } }
    let call : Call := { arguments := ["--url", "http://a", "delete", "1", "-y"] }
    call.Means {} (.remote (.new (.text "http://a"))) (.ok (some (.delete 0 none))) ∧
      (run site call).2.ending.code = 0 ∧ Saved (run site call).2 ∧
      ∃ asked post entries c e book, (run site call).1.link.sent = [asked, post] ∧
        Loaded site.link [asked, post] entries ∧ Rewrites {} "rules" entries c e book ∧
        post.body = (Remote.bodyOf (book.toValue "rules")).toOption := by
  intro document answer site call
  let a : Arguments :=
    { file := some (.ofText "rules.json"), url := .value "http://a", verb := .delete 1 true }
  have h_read : Arguments.read call.arguments = .ok a := by decide +kernel
  have h_settings : settingsOf site.tree call.environment a.config.value? = .ok {} := by
    decide +kernel
  have h_place : Place.choose? a {} = some (.remote (.new (.text "http://a"))) := by
    decide +kernel
  have h_ended : (run site call).2.ending.code = 0 ∧ (run site call).1.link.sent.length = 2 := by
    decide +kernel
  obtain ⟨h_code, h_two⟩ := h_ended
  obtain ⟨h_means, requests, h_site, -, -, -, h_posted⟩ :=
    posts_loaded_list_only h_read h_settings h_place rfl rfl
  have h_sent : (run site call).1.link.sent = requests := by rw [h_site]; rfl
  obtain ⟨asked, post, h_requests⟩ := List.length_eq_two.1 h_two
  obtain rfl : requests = [asked, post] := h_sent.symm.trans h_requests
  obtain ⟨entries, c, e, book, body, table, h_loaded, -, h_rewrites, h_body, h_post, -, -, -,
    h_saved⟩ := h_posted asked post rfl
  exact ⟨h_means, h_code, h_saved.2 h_code, asked, post, entries, c, e, book, h_sent, h_loaded,
    h_rewrites, by rw [h_post, h_body]; rfl⟩

/-- Status 200 is not all that the code of a run depends on.  A terminal that refuses a cell lets
the run fail after the list was posted; and an address that does not say where the other side is can
be posted to, but what comes back does not count. -/
theorem posted_without_success :
    let answer (cell : String) (n : Nat) : Answer :=
      if n = 0 then
        .response 200
          (Text.utf8 ("\x7b\"rules\": [\x7b\"match_value\": \"" ++ cell ++ "\"\x7d]\x7d"))
      else .response 200 []
    let toggle (addresses : List String) : Call :=
      { arguments := addresses ++ ["toggle", "1", "off"] }
    let marked : Site := { link := { answer := answer "[/x]" }, console := strict }
    let plain : Site := { link := { answer := answer "a" } }
    let near := toggle ["--url", "http://a"]
    let nowhere := toggle ["--url", "/save", "--load-url", "http://a"]
    ((run marked near).1.link.sent.map Request.method = [.get, .post] ∧
      (run marked near).2 = { ending := .failed (.reading .strayMarks) }) ∧
    (run plain nowhere).1.link.sent.map Request.method = [.get, .post] ∧
      (run plain nowhere).2.ending = .exit 1 := by
  intro answer toggle marked plain near nowhere
  refine ⟨?_, ?_⟩
  · decide +kernel
  · decide +kernel

end Rulebook.Terminal
