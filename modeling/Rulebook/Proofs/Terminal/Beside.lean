/-
  Rulebook.Proofs.Terminal.Beside

  Carrying a command out at a place, beside a kept editor that has the same list (`Beside`).

  What a command of the list comes to follows from the list (`Editor.agrees_begin`), so an editor
  that was made afresh begins what the kept one begins.  If there is nothing to save then both have
  the same to tell.  Otherwise the new list is given to the place, and it depends on the place what
  is told: what the kept editor tells if the save succeeds, and that it has failed if not.
-/
import Rulebook.Proofs.Editor.Undone
import Rulebook.Proofs.Terminal.Kept

namespace Rulebook.Terminal

open Storage

variable {s : Settings} {name : Name} {site : Site} {place : Place} {e e' fresh : Editor}
  {c : Editor.Command} {consent : Consent} {events : List Event}

/-! ## Carrying a command out -/

/-- A run is what is done with the list that was loaded, if its place has not to be made ready and
is left as it is. -/
theorem perform_eq_workAt {call : Call} {a : Arguments} {place : Place}
    (h_read : Arguments.read call.arguments = .ok a)
    (h_settings : settingsOf site.tree call.environment a.config.value? = .ok s)
    (h_place : Place.choose? a s = some place)
    (h_ready : place.prepare site.tree = (site.tree, .ok ()))
    (h_close : ∀ now, place.close site.tree now = now) :
    perform site call = workAt place s a.verb site call.consent := by
  simp only [perform, h_read, h_settings, h_place, h_ready, runAt, h_close]

/-- Whether the user breaks a command off. -/
def breaksOff (consent : Consent) (events : List Event) : Bool :=
  consent = .interrupt && events.contains .asked

/-- What is told of a command whose save has succeeded or failed. -/
def toldAfter (e : Editor) (events : List Event) (t : Editor.Ticket) (saved : Bool) : Telling :=
  tellingOf (e.finish t saved).1 (events ++ (e.finish t saved).2.1) (e.finish t saved).2.2

theorem carryOut_of_done {outcome : Editor.Outcome}
    (h : e.begin c = (e', events, .done outcome)) :
    carryOut place site e c consent =
      if breaksOff consent events then (site, brokenOff events)
      else (site, tellingOf e' events outcome) := by
  simp only [carryOut, h]
  rfl

theorem obey_of_done {outcome : Editor.Outcome} (h : e.begin c = (e', events, .done outcome)) :
    obey e c consent =
      if breaksOff consent events then (e, brokenOff events)
      else (e', tellingOf e' events outcome) := by
  simp only [obey, Editor.run, h]
  rfl

/-- A command whose list is being saved ends as the save at its place turns out. -/
theorem carryOut_of_begun {t : Editor.Ticket} (h : e.begin c = (e', events, .saving t)) :
    carryOut place site e c consent =
      if breaksOff consent events then (site, brokenOff events)
      else ((place.save site t.payload).1, toldAfter e' events t (place.save site t.payload).2) := by
  simp only [carryOut, h]
  rfl

/-- What is told of a save that has succeeded is no question. -/
theorem asked_finish_saved (e : Editor) (t : Editor.Ticket) (events : List Event) :
    ((events ++ (e.finish t true).2.1).contains .asked = events.contains .asked) ∧
      (events ++ (e.finish t true).2.1).flatMap askedOf = events.flatMap askedOf := by
  rw [Editor.finish_saved, Editor.render, Saver.render_eq_map]
  cases (e.landed e.book).saver.renderer with
  | none => simp [askedOf]
  | some name => simp [askedOf]

theorem obey_of_saving {t : Editor.Ticket} (h : e.begin c = (e', events, .saving t)) :
    obey e c consent =
      if breaksOff consent events then (e, brokenOff events)
      else ((e'.finish t true).1, toldAfter e' events t true) := by
  obtain ⟨h_contains, h_asked⟩ := asked_finish_saved e' t events
  simp only [obey, Editor.run, h, brokenOff, breaksOff, h_contains, h_asked]
  rfl

/-- Two editors with the same list say the same of a save that has succeeded. -/
theorem toldAfter_congr {t t' : Editor.Ticket} (h : Editor.SameWork e e')
    (h_store : Editor.SameStore e e') (h_ticket : t.Alike t') (events : List Event) :
    toldAfter e' events t' true = toldAfter e events t true := by
  have h_landed : Editor.SameWork (e.landed e.book) (e'.landed e'.book) :=
    ⟨h.settings, h.form, h.book, h.key⟩
  have h_drawn : (e'.landed e'.book).render = (e.landed e.book).render :=
    render_congr h_landed ⟨h_store.key, h_store.renderer⟩
  have h_finished : Editor.SameWork (e.finish t true).1 (e'.finish t' true).1 :=
    ((Editor.sameWork_finish_saved e t).symm.trans h).trans (Editor.sameWork_finish_saved e' t')
  rw [toldAfter, tellingOf_congr h_finished, Editor.finish_saved, Editor.finish_saved, h_drawn,
    h_ticket.onSaved]
  rfl

/-- The kept editor after a save has the new list, and is still one of the command line. -/
theorem onTerminal_finish (h_kept : OnTerminal s e) {book : Book} {kept : Editor}
    {t : Editor.Ticket} (h_edit : Edit e.book book t.undo)
    (h_same : Editor.SameBook (e.saving book) kept) (h_rules : ∀ r ∈ kept.rules, r.Storable) :
    OnTerminal s (kept.finish t true).1 ∧ (kept.finish t true).1.book = book := by
  have h_work := Editor.sameWork_finish_saved kept t
  have h_kept_store : Editor.SameStore e kept := ⟨h_same.sameStore.key, h_same.sameStore.renderer⟩
  have h_store := h_kept_store.trans (Editor.sameStore_finish kept t true)
  have h_book : (kept.finish t true).1.book = book := h_work.book.trans h_same.book
  have h_keeps : s.Keeps (kept.finish t true).1.book := by
    rw [h_book]
    exact h_kept.book.edit h_edit
  have h_list : (kept.finish t true).1.rules = kept.rules := congrArg Book.rules h_work.book
  rw [← h_list] at h_rules
  exact ⟨h_kept.of_sameStore (h_work.settings.trans h_same.settings)
    (h_work.form.trans h_same.form) h_store h_keeps h_rules, h_book⟩

/-- A command whose list is being saved ends with success, and says so, exactly if the save
succeeds. -/
theorem told_toldAfter (h_form : e.form = form) {t : Editor.Ticket}
    (h : e.begin c = (e', events, .saving t)) (saved : Bool) (shown : List Event) :
    (toldAfter e' shown t saved).ending = .exit (if saved then 0 else 1) ∧
      ((toldAfter e' shown t saved).Saves ↔ saved = true) ∧
      ∃ printed, (toldAfter e' shown t saved).Draws printed := by
  obtain ⟨reply, h_reply, h_status⟩ := Editor.exists_reply_of_saving h fun _ => saved
  have h_run : (e.run c fun _ => saved).2.2 = (e'.finish t saved).2.2 := by rw [Editor.run, h]
  have h_after : (e'.finish t saved).1.form = form := by
    have h_begin := (Editor.begins_begin e c).form
    rw [h] at h_begin
    rw [Editor.form_finish, h_begin, h_form]
  rw [toldAfter, ← h_run, h_reply]
  refine ⟨?_, ?_, draws_tellingOf h_after _ _⟩
  · cases saved with
    | true => simp [tellingOf, conclude, h_status]
    | false => simp [tellingOf, conclude, h_status]
  · rw [saves_tellingOf_iff h_after, h_status]
    cases saved <;> simp

/-! ## Beside the kept editor -/

/-- The kept editor after a call, and what it has to tell. -/
structure Kept (s : Settings) (kept : Editor × Telling) : Prop where
  onTerminal : OnTerminal s kept.1
  draws : ∃ printed, kept.2.Draws printed

/-- What a run comes to at a place, beside what the kept editor comes to: there was nothing to save,
or the new list was given to the place, and was saved there or not. -/
inductive Beside (place : Place) (name : Name) (site : Site) (e : Editor)
    (kept : Editor × Telling) : Site × Telling → Prop where
  | idle (h_told : ¬ kept.2.Saves) (h_rules : kept.1.rules = e.rules) :
      Beside place name site e kept (site, kept.2)
  | saved (h_told : kept.2.Saves)
      (h_saved : (place.save site (kept.1.book.toValue name)).2 = true) :
      Beside place name site e kept ((place.save site (kept.1.book.toValue name)).1, kept.2)
  | unsaved (h_told : kept.2.Saves)
      (h_saved : (place.save site (kept.1.book.toValue name)).2 = false) {told : Telling}
      (h_ending : told.ending = .exit 1) (h_not : ¬ told.Saves)
      (h_draws : ∃ printed, told.Draws printed) :
      Beside place name site e kept ((place.save site (kept.1.book.toValue name)).1, told)

/-- A list that is given to a place is saved there or not. -/
theorem beside_of_given {kept : Editor × Telling} {payload : Value} {told : Bool → Telling}
    (h_payload : payload = kept.1.book.toValue name) (h_told : kept.2.Saves)
    (h_saved : told true = kept.2) (h_ending : (told false).ending = .exit 1)
    (h_not : ¬ (told false).Saves) (h_draws : ∃ printed, (told false).Draws printed) :
    Beside place name site e kept
      ((place.save site payload).1, told (place.save site payload).2) := by
  subst h_payload
  cases h : (place.save site (kept.1.book.toValue name)).2 with
  | true => rw [h_saved]; exact .saved h_told h
  | false => exact .unsaved h_told h h_ending h_not h_draws

/-- **A command that is carried out at a place, beside the kept editor**, if both have the same
list. -/
theorem beside_carryOut (h_key : s.ruleKey.name? = some name) (h_kept : OnTerminal s e)
    (h_work : Editor.SameWork e fresh) (h_store : Editor.SameStore e fresh) (hc : Modest c)
    (place : Place) (site : Site) (consent : Consent) :
    Beside place name site e (obey e c consent) (carryOut place site fresh c consent) ∧
      Kept s (obey e c consent) := by
  have h_begins := Editor.begins_begin e c
  have h_stores : Editor.SameStore (e.begin c).1 (fresh.begin c).1 :=
    (h_begins.sameStore.symm.trans h_store).trans (Editor.begins_begin fresh c).sameStore
  have h_rules := storable_begin h_kept.form h_kept.rules hc
  have h_agrees := Editor.agrees_begin h_work hc.ofList
  rcases h_begin : e.begin c with ⟨kept, events, begun⟩
  rcases h_fresh : fresh.begin c with ⟨fresh', events', begun'⟩
  rw [h_begin] at h_begins h_rules
  rw [h_begin, h_fresh] at h_agrees h_stores
  obtain ⟨h_work', h_events, h_begun⟩ := h_agrees
  obtain rfl : events = events' := h_events.symm
  -- A command that the user breaks off leaves both as they were.
  have h_off : Beside place name site e (e, brokenOff events) (site, brokenOff events) ∧
      Kept s (e, brokenOff events) :=
    ⟨.idle (not_saves_brokenOff events) rfl, h_kept, _, draws_brokenOff events⟩
  cases h_begins with
  | unstorable _ h_none => exact nomatch (h_kept.key ▸ h_none).symm.trans h_key
  | ended h_same _ h_idle =>
    -- Both beginnings come to the same, so the fresh editor has begun no save either.
    cases h_begun
    rw [carryOut_of_done h_fresh, obey_of_done h_begin, tellingOf_congr h_work']
    split
    · exact h_off
    · have h_list : kept.rules = e.rules := congrArg Book.rules h_same.book
      have h_after : OnTerminal s kept :=
        h_kept.of_sameStore h_same.settings h_same.form h_same.sameStore
          (h_same.book ▸ h_kept.book) h_rules
      exact ⟨.idle (not_saves_of_idle h_after.form h_idle) h_list, h_after,
        draws_tellingOf h_after.form _ _⟩
  | @saving _ _ book key t h_edit h_name h_payload h_same =>
    cases h_begun with
    | @saving _ t' h_ticket =>
      rw [h_kept.key] at h_name
      obtain rfl : key = name := Option.some.inj (h_name.symm.trans h_key)
      rw [carryOut_of_begun h_fresh, obey_of_saving h_begin]
      split
      · exact h_off
      · obtain ⟨h_after, h_book⟩ := onTerminal_finish h_kept h_edit h_same h_rules
        have h_form : fresh.form = form := h_work.form.trans h_kept.form
        -- What is given to the place is the list that the kept editor then has.
        have h_given : t'.payload = (kept.finish t true).1.book.toValue key := by
          rw [h_ticket.payload, h_payload, h_book]
        obtain ⟨-, h_saves, h_draws⟩ := told_toldAfter h_kept.form h_begin true events
        obtain ⟨h_ending, h_unsaved, h_drawn⟩ := told_toldAfter h_form h_fresh false events
        have h_told := toldAfter_congr h_work' h_stores h_ticket events
        exact ⟨beside_of_given h_given (h_saves.2 rfl) h_told h_ending
          (mt h_unsaved.1 Bool.false_ne_true) h_drawn, h_after, h_draws⟩

end Rulebook.Terminal
