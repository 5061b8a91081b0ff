/-
  Rulebook.Proofs.Editor.Apart

  Commands in place with different targets do not interfere, however their saves overlap and
  whichever of them fail (`inPlace_apart`).

  At any time each command that was started stands in one of three ways (`Stands`): it is over; it
  is being saved, and its new rule is in its place; or its save has ended, and its place holds the
  new rule or the old one.  A command that starts finds the rule that was there in the beginning, so
  it comes to what it would have come to then.  A save that fails puts the old rule back, because
  nobody else has touched the new one.
-/
import Rulebook.Proofs.Editor.InPlace
import Rulebook.Proofs.Editor.Journal
import Rulebook.Schema.Headers
import Mathlib.Data.List.Nodup

namespace Rulebook

open Arrangement (at?)
open Workbench (Act IsAside)

namespace Editor

/-- An editor works as another one does, and their lists differ in one rule at most. -/
structure OnlyRow (i : Int) (e e' : Editor) : Prop where
  settings : e'.settings = e.settings
  form : e'.form = e.form
  key : e'.saver.key = e.saver.key
  length : e'.rules.length = e.rules.length
  others : ∀ k, k ≠ i → at? e'.rules k = at? e.rules k

variable {i k : Int} {e e' e'' : Editor}

theorem SameWork.onlyRow (h : SameWork e e') (i : Int) : OnlyRow i e e' := by
  have h_rules : e'.rules = e.rules := congrArg Book.rules h.book
  exact ⟨h.settings, h.form, h.key, by rw [h_rules], fun k _ => by rw [h_rules]⟩

theorem OnlyRow.of_put {previous r : Rule} (h_row : at? e.rules i = some previous)
    (h_settings : e'.settings = e.settings) (h_form : e'.form = e.form)
    (h_key : e'.saver.key = e.saver.key) (h_book : e'.book = e.book.put i r) :
    OnlyRow i e e' := by
  obtain ⟨h0, -⟩ := Arrangement.toNat_lt_of_at? h_row
  have h_rules : e'.rules = (e.book.put i r).rules := congrArg Book.rules h_book
  refine ⟨h_settings, h_form, h_key, ?_, fun k hk => ?_⟩
  · rw [h_rules, Book.length_put]
    rfl
  · rw [h_rules, Book.at?_put_of_ne h0 hk]
    rfl

theorem SameRow.of_onlyRow (h : SameRow k e e') (h_only : OnlyRow i e' e'') (hk : k ≠ i) :
    SameRow k e e'' :=
  ⟨h_only.settings.trans h.settings, h_only.form.trans h.form, h_only.key.trans h.key,
    (h_only.others k hk).trans h.row⟩

/-- The same rule is put in the same place of two lists. -/
theorem rows_of_put {x y : Editor} {previous r : Rule} (h_row : SameRow i e e')
    (h_at : at? e.rules i = some previous) (h_left : x.book = e.book.put i r)
    (h_right : y.book = e'.book.put i r) :
    at? x.rules i = some r ∧ at? y.rules i = some r := by
  have h_at' : at? e'.rules i = some previous := h_row.row.trans h_at
  have h_new := Book.at?_put_self (b := e.book) h_at r
  have h_new' := Book.at?_put_self (b := e'.book) h_at' r
  rw [← h_left] at h_new
  rw [← h_right] at h_new'
  exact ⟨h_new, h_new'⟩

/-- A command in place changes its target at most. -/
theorem Likewise.onlyRow {x y : Editor × List Event × Begun} (h : Likewise i e e' x y)
    (h_row : SameRow i e e') : OnlyRow i e' y.1 := by
  cases h with
  | settled _ h_right => exact h_right.sameWork.onlyRow i
  | unstorable h_at _ h_right =>
    refine .of_put (h_row.row.trans h_at) h_right.settings h_right.form ?_ h_right.book
    rw [h_right.saver]
    rfl
  | saving h_at _ h_right =>
    refine .of_put (h_row.row.trans h_at) h_right.settings h_right.form ?_ h_right.book
    rw [h_right.saver]
    rfl

/-- The end of a save, if the rule of the command is still in its place: it stays there if the save
has succeeded, and the old one is put back if not. -/
theorem finish_of_restores {t : Ticket} {previous r : Rule} (h_undo : t.undo.Restores i r previous)
    (h_row : at? e.rules i = some r) (saved : Bool) :
    OnlyRow i e (e.finish t saved).1 ∧
      if saved then (e.finish t saved).2.2 = .ok t.onSaved ∧ at? (e.finish t saved).1.rules i = some r
      else (e.finish t saved).2.2 = .ok t.onRolledBack ∧
        at? (e.finish t saved).1.rules i = some previous := by
  cases saved with
  | true =>
    have h_work := sameWork_finish_saved e t
    have h_rules : (e.finish t true).1.rules = e.rules := congrArg Book.rules h_work.book
    refine ⟨h_work.onlyRow i, ?_⟩
    rw [if_pos rfl, h_rules]
    exact ⟨rfl, h_row⟩
  | false =>
    have h_run := h_undo e.book h_row
    rw [finish_of_undone h_run, if_neg Bool.false_ne_true]
    have h_release := sameBook_releaseDialog (e.landed (e.book.put i previous)) t.origin
    have h_rules := congrArg Book.rules h_release.book
    refine ⟨.of_put h_row h_release.settings h_release.form ?_ h_release.book, rfl, ?_⟩
    · rw [h_release.saver]
      rfl
    · refine (congrArg (at? · i) h_rules).trans ?_
      exact Book.at?_put_self (b := e.book) h_row previous

end Editor

/-! ## How a command stands -/

/-- The save of a command has ended and the answer is the one that was due; the place holds the new
rule if the save has succeeded, and the old one if not. -/
def Ending.Settles (x : Ending) (i : Int) (before changed now : Editor) (t : Editor.Ticket) : Prop :=
  if x.saved then x.outcome = .ok t.onSaved ∧ at? now.rules i = at? changed.rules i
  else x.outcome = .ok t.onRolledBack ∧ at? now.rules i = at? before.rules i

namespace Journal

/-- How a command in place stands.  It is described by what would have come of it in the
beginning. -/
inductive Stands (i : Int) (e : Editor) (j : Journal) (n : Nat) :
    Editor × List Event × Editor.Begun → Prop where
  /-- it is over -/
  | settled {changed : Editor} {events : List Event} {outcome : Editor.Outcome}
      (h_answer : (n, outcome) ∈ j.answers)
      (h_row : at? j.editor.rules i = at? changed.rules i) :
      Stands i e j n (changed, events, .done outcome)
  /-- it is being saved -/
  | waiting {changed : Editor} {events : List Event} {t t' : Editor.Ticket} {previous r : Rule}
      (h_pending : (n, t') ∈ j.pending) (h_ticket : t.Likewise t')
      (h_undo : t.undo.Restores i r previous) (h_before : at? e.rules i = some previous)
      (h_changed : at? changed.rules i = some r) (h_row : at? j.editor.rules i = some r) :
      Stands i e j n (changed, events, .saving t)
  /-- its save has ended -/
  | ended {changed : Editor} {events : List Event} {t : Editor.Ticket} {x : Ending}
      (h_ending : x ∈ j.endings) (h_number : x.number = n) (h_answer : (n, x.outcome) ∈ j.answers)
      (h_settled : x.Settles i e changed j.editor t) :
      Stands i e j n (changed, events, .saving t)

variable {e : Editor} {j j' : Journal} {i : Int} {n : Nat}

/-- A command stands as it did while nothing is done to its row and to what is written down of
it. -/
theorem Stands.keep {begun : Editor × List Event × Editor.Begun} (h : Stands i e j n begun)
    (h_row : at? j'.editor.rules i = at? j.editor.rules i)
    (h_answers : ∀ a ∈ j.answers, a ∈ j'.answers) (h_endings : ∀ x ∈ j.endings, x ∈ j'.endings)
    (h_pending : ∀ t, (n, t) ∈ j.pending → (n, t) ∈ j'.pending) : Stands i e j' n begun := by
  cases h with
  | settled h_answer h_same => exact .settled (h_answers _ h_answer) (h_row.trans h_same)
  | waiting h_wait h_ticket h_undo h_before h_changed h_same =>
    exact .waiting (h_pending _ h_wait) h_ticket h_undo h_before h_changed (h_row.trans h_same)
  | ended h_ending h_number h_answer h_settled =>
    refine .ended (h_endings _ h_ending) h_number (h_answers _ h_answer) ?_
    unfold Ending.Settles at h_settled ⊢
    rwa [h_row]

/-- What is known of a run of commands in place with different targets. -/
structure Apart (e : Editor) (commands : List Editor.Command) (j : Journal) : Prop where
  length : j.editor.rules.length = e.rules.length
  /-- a row is as it was in the beginning if no command has it as its target -/
  untouched : ∀ i, (∀ c ∈ commands, c.target? ≠ some i) → Editor.SameRow i e j.editor
  stands : ∀ n c i, commands[n]? = some c → c.target? = some i → Stands i e j n (e.begin c)

/-- Two commands have the same target only if they are one. -/
theorem eq_of_target {commands : List Editor.Command}
    (h_distinct : (commands.map Editor.Command.target?).Nodup) {m n : Nat} {c c' : Editor.Command}
    (hm : commands[m]? = some c) (hn : commands[n]? = some c') (h : c.target? = c'.target?) :
    m = n := by
  obtain ⟨hlt, -⟩ := List.getElem?_eq_some_iff.1 hm
  refine (List.getElem?_inj (by rwa [List.length_map]) h_distinct).1 ?_
  rw [List.getElem?_map, List.getElem?_map, hm, hn, Option.map_some, Option.map_some, h]

/-- What happens between two commands does not matter. -/
theorem Apart.aside {commands : List Editor.Command} {e' : Editor} (h : Apart e commands j)
    (h_work : Editor.SameWork j.editor e') : Apart e commands { j with editor := e' } := by
  have h_rules : e'.rules = j.editor.rules := congrArg Book.rules h_work.book
  refine ⟨?_, fun i hi => ?_, fun n c i hc h_target => ?_⟩
  · rw [← h.length, ← h_rules]
  · exact (h.untouched i hi).of_onlyRow (h_work.onlyRow (i + 1)) (by omega)
  · refine (h.stands n c i hc h_target).keep ?_ (fun _ ha => ha) (fun _ hx => hx) fun _ ht => ht
    dsimp only
    rw [h_rules]

/-- One more command, which has changed its target at most. -/
theorem Apart.concat {commands : List Editor.Command} {c : Editor.Command}
    (h : Apart e commands j) (hc : c.target? = some i)
    (h_fresh : ∀ c' ∈ commands, c'.target? ≠ some i)
    (h_only : Editor.OnlyRow i j.editor j'.editor) (h_answers : ∀ a ∈ j.answers, a ∈ j'.answers)
    (h_endings : j'.endings = j.endings) (h_pending : ∀ p ∈ j.pending, p ∈ j'.pending)
    (h_new : Stands i e j' commands.length (e.begin c)) : Apart e (commands ++ [c]) j' := by
  refine ⟨h_only.length.trans h.length, fun k hk => ?_, fun n c' k hn h_target => ?_⟩
  · have h_ne : k ≠ i := by
      rintro rfl
      exact hk c (List.mem_append_right _ List.mem_cons_self) hc
    exact (h.untouched k fun c' hc' => hk c' (List.mem_append_left _ hc')).of_onlyRow h_only h_ne
  · rcases Nat.lt_trichotomy n commands.length with hlt | rfl | hgt
    · rw [List.getElem?_append_left hlt] at hn
      have h_ne : k ≠ i := by
        rintro rfl
        exact h_fresh c' (List.mem_of_getElem? hn) h_target
      refine (h.stands n c' k hn h_target).keep (h_only.others k h_ne) h_answers ?_
        fun t ht => h_pending _ ht
      rw [h_endings]
      exact fun _ hx => hx
    · rw [List.getElem?_concat_length, Option.some.injEq] at hn
      subst hn
      obtain rfl : i = k := Option.some.inj (hc.symm.trans h_target)
      exact h_new
    · rw [List.getElem?_eq_none (by rw [List.length_append, List.length_singleton]; omega)] at hn
      exact nomatch hn

/-- A command that starts on a row which no other one has touched comes to what it would have come
to in the beginning. -/
theorem Apart.start {commands : List Editor.Command} {c : Editor.Command}
    (h : Apart e commands j) (h_started : j.started = commands.length) (hc : c.target? = some i)
    (h_fresh : ∀ c' ∈ commands, c'.target? ≠ some i) (h_turn : Turn j (.start c) j') :
    Apart e (commands ++ [c]) j' := by
  -- Its row is as it was in the beginning, so it can be compared with what it does there.
  have h_row : Editor.SameRow i e j.editor := h.untouched i h_fresh
  have h_like := Editor.likewise_begin h_row hc
  have h_only := h_like.onlyRow h_row
  cases h_turn with
  | aside h_aside => exact h_aside.elim
  | @ended _ e' events outcome h_begin =>
    rw [h_begin] at h_like h_only
    refine h.concat hc h_fresh h_only (fun _ ha => List.mem_append_left _ ha) rfl
      (fun _ hp => hp) ?_
    have h_answer : (commands.length, outcome) ∈ j.answers ++ [(j.started, outcome)] := by
      rw [h_started]
      exact List.mem_append_right _ List.mem_cons_self
    generalize e.begin c = begun at h_like ⊢
    cases h_like with
    | @settled x _ _ _ h_left h_right =>
      have h_rules : x.rules = e.rules := congrArg Book.rules h_left.book
      have h_rules' : e'.rules = j.editor.rules := congrArg Book.rules h_right.book
      refine .settled h_answer ?_
      dsimp only
      rw [h_rules, h_rules']
      exact h_row.row
    | unstorable h_at h_left h_right =>
      obtain ⟨h_changed, h_now⟩ := Editor.rows_of_put h_row h_at h_left.book h_right.book
      exact .settled h_answer (h_now.trans h_changed.symm)
  | @begun _ e' events t h_begin =>
    rw [h_begin] at h_like h_only
    refine h.concat hc h_fresh h_only (fun _ ha => ha) rfl
      (fun _ hp => List.mem_cons_of_mem _ hp) ?_
    generalize e.begin c = begun at h_like ⊢
    cases h_like with
    | saving h_at h_left h_right h_undo h_ticket =>
      obtain ⟨h_changed, h_now⟩ := Editor.rows_of_put h_row h_at h_left.book h_right.book
      refine .waiting ?_ h_ticket h_undo h_at h_changed h_now
      rw [h_started]
      exact List.mem_cons_self

/-- Whoever has taken out one member of a list has left the others. -/
theorem mem_eraseIdx_of_ne {α : Type} {xs : List α} {k : Nat} {x y : α} (hx : xs[k]? = some x)
    (hy : y ∈ xs) (hne : y ≠ x) : y ∈ xs.eraseIdx k := by
  obtain ⟨hlt, rfl⟩ := List.getElem?_eq_some_iff.1 hx
  have h_perm := List.getElem_cons_eraseIdx_perm hlt
  exact (List.mem_cons.1 (h_perm.mem_iff.2 hy)).resolve_left hne

/-- The end of a save concerns one command, whose rule is still in its place. -/
theorem Apart.finish {commands : List Editor.Command} {k : Nat} {saved : Bool}
    (h : Apart e commands j) (h_numbers : j.numbers.Nodup)
    (h_started : ∀ p ∈ j.pending, p.1 < commands.length)
    (h_target : ∀ c ∈ commands, ∃ i, c.target? = some i)
    (h_distinct : (commands.map Editor.Command.target?).Nodup)
    (h_turn : Turn j (.finish k saved) j') : Apart e commands j' := by
  obtain ⟨-, h_pending, h_once⟩ := List.nodup_append.1 h_numbers
  cases h_turn with
  | aside h_aside => exact h_aside.elim
  | missing => exact h
  | @finished _ n _ t e' events outcome h_ticket h_finish =>
    have h_mem : (n, t) ∈ j.pending := List.mem_of_getElem? h_ticket
    have h_unanswered {outcome : Editor.Outcome} (h_answer : (n, outcome) ∈ j.answers) : False :=
      h_once n (List.mem_map_of_mem h_answer) n (List.mem_map_of_mem h_mem) rfl
    obtain ⟨c, hc⟩ : ∃ c, commands[n]? = some c :=
      ⟨_, List.getElem?_eq_getElem (h_started _ h_mem)⟩
    obtain ⟨i, hi⟩ := h_target c (List.mem_of_getElem? hc)
    -- The command is the one that is waiting for this save.
    have h_ended : Editor.OnlyRow i j.editor e' ∧
        Stands i e { j with
          editor := e', pending := j.pending.eraseIdx k, answers := j.answers ++ [(n, outcome)]
          endings := j.endings ++ [⟨n, t.payload, saved, outcome⟩] } n (e.begin c) := by
      have h_stands := h.stands n c i hc hi
      generalize e.begin c = begun at h_stands ⊢
      cases h_stands with
      | settled h_answer => exact (h_unanswered h_answer).elim
      | ended _ _ h_answer => exact (h_unanswered h_answer).elim
      | @waiting changed _ t₀ t' previous r h_wait h_like h_undo h_before h_changed h_row =>
        obtain rfl : t = t' := congrArg Prod.snd
          (List.inj_on_of_nodup_map h_pending h_mem h_wait rfl)
        rw [← h_like.undo] at h_undo
        obtain ⟨h_only, h_settled⟩ := Editor.finish_of_restores h_undo h_row saved
        rw [h_finish, h_like.onSaved, h_like.onRolledBack] at h_settled
        rw [h_finish] at h_only
        refine ⟨h_only, .ended (List.mem_append_right _ List.mem_cons_self) rfl
          (List.mem_append_right _ List.mem_cons_self) ?_⟩
        unfold Ending.Settles
        rw [h_before, h_changed]
        exact h_settled
    obtain ⟨h_only, h_stands⟩ := h_ended
    refine ⟨h_only.length.trans h.length, fun i' hi' => ?_, fun m c' i' hm h_target' => ?_⟩
    · have h_ne : i' ≠ i := by
        rintro rfl
        exact hi' c (List.mem_of_getElem? hc) hi
      exact (h.untouched i' hi').of_onlyRow h_only h_ne
    · by_cases h_same : m = n
      · subst h_same
        obtain rfl : c = c' := Option.some.inj (hc.symm.trans hm)
        obtain rfl : i = i' := Option.some.inj (hi.symm.trans h_target')
        exact h_stands
      · have h_ne : i' ≠ i := by
          rintro rfl
          exact h_same (eq_of_target h_distinct hm hc (h_target'.trans hi.symm))
        refine (h.stands m c' i' hm h_target').keep (h_only.others i' h_ne)
          (fun _ ha => List.mem_append_left _ ha) (fun _ hx => List.mem_append_left _ hx) ?_
        intro t' h_wait
        refine mem_eraseIdx_of_ne h_ticket h_wait fun h_eq => h_same ?_
        exact congrArg Prod.fst h_eq

/-! ## Runs -/

/-- Throughout a run of commands in place with different targets, each command stands in one of the
three ways. -/
theorem apart_after (e : Editor) (acts : List Act)
    (h_target : ∀ c ∈ acts.filterMap Ledger.started?, ∃ i, c.target? = some i)
    (h_distinct : ((acts.filterMap Ledger.started?).map Editor.Command.target?).Nodup) :
    Apart e (acts.filterMap Ledger.started?) (after e acts) := by
  induction acts using List.reverseRecOn with
  | nil => exact ⟨rfl, fun _ _ => ⟨rfl, rfl, rfl, rfl⟩, fun _ _ _ h => nomatch h⟩
  | append_singleton acts a ih =>
    rw [List.filterMap_append] at h_target h_distinct ⊢
    have h_turn := turn_step (after e acts) a
    have h_before : Apart e (acts.filterMap Ledger.started?) (after e acts) := by
      refine ih (fun c hc => h_target c (List.mem_append_left _ hc)) ?_
      rw [List.map_append] at h_distinct
      exact (List.nodup_append.1 h_distinct).1
    have h_numbers := numbers_after e acts
    rw [started_after] at h_numbers
    rw [after_concat]
    cases a with
    | start c =>
      obtain ⟨i, hi⟩ := h_target c (List.mem_append_right _ List.mem_cons_self)
      refine h_before.start (started_after e acts) hi ?_ h_turn
      -- No earlier command has the target of this one.
      intro c' hc' h_same
      rw [List.map_append] at h_distinct
      exact (List.nodup_append.1 h_distinct).2.2 _ (List.mem_map_of_mem hc') _
        (List.mem_map_of_mem List.mem_cons_self) (h_same.trans hi.symm)
    | finish k saved =>
      have h_none : [Act.finish k saved].filterMap Ledger.started? = [] := rfl
      rw [h_none, List.append_nil] at h_target h_distinct ⊢
      refine h_before.finish (h_numbers.nodup_iff.2 List.nodup_range) ?_ h_target h_distinct h_turn
      intro p hp
      have h_mem : p.1 ∈ (after e acts).numbers :=
        List.mem_append_right _ (List.mem_map_of_mem hp)
      exact List.mem_range.1 (h_numbers.mem_iff.1 h_mem)
    | openAdd | openEdit | setField | closeDialog | startDrag | endDrag | attach | redraw =>
      generalize (after e acts).step _ = j' at h_turn ⊢
      cases h_turn with
      | aside _ h_work =>
        rw [List.filterMap_cons_none rfl, List.filterMap_nil, List.append_nil]
        exact h_before.aside h_work

/-- **Commands in place do not interfere.**  Commands in place with different targets are started at
any time; their saves overlap, succeed or fail, and end in any order; and in between dialogs may be
opened and closed and rules picked up.  Once all saves have ended, a command that had nothing to
save has left its row alone, provided that the list has a name to be stored under: without one it
breaks off when its rule has changed already.  Any other one was answered as saved if its save has
succeeded, and its row holds the new rule; if its save has failed it was answered as undone, and its
row holds the rule of the beginning.  All other rows are as they were in the beginning. -/
theorem inPlace_apart (e : Editor) (acts : List Act)
    (h_target : ∀ c ∈ acts.filterMap Ledger.started?, ∃ i, c.target? = some i)
    (h_distinct : ((acts.filterMap Ledger.started?).map Editor.Command.target?).Nodup)
    (h_ended : (after e acts).pending = []) :
    let commands := acts.filterMap Ledger.started?
    let j := after e acts
    (∀ n c i, commands[n]? = some c → c.target? = some i →
      match e.begin c with
      | (_, _, .done outcome) =>
        (n, outcome) ∈ j.answers ∧ Editor.Idle outcome ∧
          (e.saver.key.name? ≠ none → at? j.editor.rules i = at? e.rules i)
      | (changed, _, .saving t) =>
        t.Fair ∧ ∃ x ∈ j.endings, x.number = n ∧ (n, x.outcome) ∈ j.answers ∧
          x.Settles i e changed j.editor t) ∧
      (∀ i, (∀ c ∈ commands, c.target? ≠ some i) → at? j.editor.rules i = at? e.rules i) ∧
      j.editor.rules.length = e.rules.length ∧
      (j.answers.map Prod.fst).Perm (List.range commands.length) := by
  intro commands j
  have h : Apart e commands j := apart_after e acts h_target h_distinct
  refine ⟨fun n c i hn hi => ?_, fun i hi => (h.untouched i hi).row, h.length,
    answers_of_pending h_ended⟩
  have h_stands := h.stands n c i hn hi
  have h_begins := Editor.begins_begin e c
  generalize e.begin c = begun at h_stands h_begins ⊢
  cases h_stands with
  | settled h_answer h_row =>
    cases h_begins with
    | ended h_same _ h_idle =>
      have h_rules := congrArg Book.rules h_same.book
      exact ⟨h_answer, h_idle, fun _ => h_row.trans (congrArg (at? · i) h_rules)⟩
    | unstorable _ h_none =>
      exact ⟨h_answer, Editor.idle_error _, fun h_key => absurd h_none h_key⟩
  | waiting h_wait =>
    rw [h_ended] at h_wait
    exact absurd h_wait List.not_mem_nil
  | ended h_ending h_number h_answer h_settled =>
    exact ⟨h_begins.fair, _, h_ending, h_number, h_answer, h_settled⟩

/-- A rule is disabled, another one and the sentinel are given other values, and a rule that is not
there is disabled; the save of the second command fails, and the last one ends first. -/
theorem inPlace_apart_of_four :
    let form : Form := ⟨Headers.schema, none, none⟩
    let e := (Editor.new {} form none [.onValue "a", .onValue "b"]).1
    let acts : List Act := [
      .start (.toggle 0 (.bool false)),
      .start (.update 1 (.mapping [("match_value", .text "c")])), .openAdd,
      .start (.update 2 (.mapping [("action", .text "DROP")])),
      .start (.toggle 7 (.bool true)), .finish 0 true, .finish 0 false, .finish 0 true]
    let commands := acts.filterMap Ledger.started?
    let j := after e acts
    (∀ c ∈ commands, ∃ i, c.target? = some i) ∧
      (commands.map Editor.Command.target?).Nodup ∧ j.pending = [] ∧
      (∀ n c i, commands[n]? = some c → c.target? = some i →
        match e.begin c with
        | (_, _, .done outcome) =>
          (n, outcome) ∈ j.answers ∧ Editor.Idle outcome ∧
            (e.saver.key.name? ≠ none → at? j.editor.rules i = at? e.rules i)
        | (changed, _, .saving t) =>
          t.Fair ∧ ∃ x ∈ j.endings, x.number = n ∧ (n, x.outcome) ∈ j.answers ∧
            x.Settles i e changed j.editor t) ∧
      (∀ i, (∀ c ∈ commands, c.target? ≠ some i) → at? j.editor.rules i = at? e.rules i) ∧
      j.editor.rules.length = e.rules.length ∧
      (j.answers.map Prod.fst).Perm (List.range commands.length) := by
  intro form e acts commands j
  have h_target : ∀ c ∈ commands, ∃ i, c.target? = some i := by
    simp only [commands, acts, List.filterMap_cons, List.filterMap_nil, Ledger.started?,
      List.forall_mem_cons]
    exact ⟨⟨0, rfl⟩, ⟨1, rfl⟩, ⟨2, rfl⟩, ⟨7, rfl⟩, nofun⟩
  have h_distinct : (commands.map Editor.Command.target?).Nodup := by decide
  have h_ended : j.pending = [] := by decide
  exact ⟨h_target, h_distinct, h_ended, inPlace_apart e acts h_target h_distinct h_ended⟩

end Journal

end Rulebook
