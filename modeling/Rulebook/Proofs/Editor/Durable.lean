/-
  Rulebook.Proofs.Editor.Durable

  What a place holds in the end that keeps each payload at the moment at which its save ends.

  A payload is the list as it was when its command started, and saves are not queued: one that was
  begun early may end late.  The place then holds the list of the command whose save has ended last,
  which need not be the list of the command that was started last.  If no save has failed, the list
  of the editor is the one of the newest save, whatever the order of the ends (`Current`), so the two
  can be compared (`load_eq_iff`).

  Two deletions whose saves end in the other order leave a list in the place that the editor does
  not have any more (`load_ne_of_deletions`).
-/
import Rulebook.Proofs.Editor.Journal
import Mathlib.Data.List.MinMax

namespace Rulebook

open Storage (Memory)
open Workbench (Act)

namespace Journal

/-! ## The place -/

/-- A place keeps the payload of a save that has succeeded. -/
def keep (m : Memory) (x : Ending) : Memory :=
  ({ m with fails := !x.saved }.save x.payload).1

/-- The place, after each save that has ended. -/
def memory (j : Journal) : Memory :=
  j.endings.foldl keep {}

variable {j : Journal}

/-- The place holds the payload of the save that has ended last, if it has succeeded. -/
theorem load_memory {last : Ending} (h_last : j.endings.getLast? = some last)
    (h_saved : last.saved = true) : j.memory.load = some last.payload := by
  obtain ⟨before, h_endings⟩ := List.getLast?_eq_some_iff.1 h_last
  rw [memory, h_endings, List.foldl_concat, keep]
  refine Memory.load_save _ _ ?_
  rw [h_saved]
  rfl

/-- A command that was answered as saved is one whose save has succeeded. -/
theorem saved_of_says {e : Editor} {acts : List Act} :
    ∀ x ∈ (after e acts).endings, x.Says .ok → x.saved = true := by
  induction acts using List.reverseRecOn with
  | nil =>
    intro x hx
    exact absurd hx List.not_mem_nil
  | append_singleton acts a ih =>
    have h_fair := fair_after e acts
    rw [after_concat]
    have h_turn := turn_step (after e acts) a
    generalize (after e acts).step a = j' at h_turn ⊢
    cases h_turn with
    | aside | missing | ended | begun => exact ih
    | @finished k n saved t _ _ outcome h_ticket h_finish =>
      -- The answer of the save that ends now is the one that its ticket holds for this end.
      intro x hx
      rcases List.mem_append.1 hx with hx | hx
      · exact ih x hx
      · obtain rfl := List.mem_singleton.1 hx
        rintro ⟨reply, h_reply, h_ok⟩
        have h_outcome : ((after e acts).editor.finish t saved).2.2 = .ok reply := by
          rw [h_finish]
          exact h_reply
        exact (h_fair _ (List.mem_of_getElem? h_ticket)).saved_of_ok h_outcome h_ok

/-! ## The newest save -/

/-- The number and the payload of every save that was begun. -/
def begun (j : Journal) : List (Nat × Value) :=
  (j.endings.map fun x => (x.number, x.payload)) ++ j.pending.map fun p => (p.1, p.2.payload)

/-- A save that ends is one of those that were begun. -/
theorem begun_of_finished {k n : Nat} {t : Editor.Ticket} (h_ticket : j.pending[k]? = some (n, t))
    (e' : Editor) (saved : Bool) (outcome : Editor.Outcome)
    (answers : List (Nat × Editor.Outcome)) :
    begun { j with
        editor := e', pending := j.pending.eraseIdx k, answers
        endings := j.endings ++ [⟨n, t.payload, saved, outcome⟩] } |>.Perm j.begun := by
  obtain ⟨hlt, h_get⟩ := List.getElem?_eq_some_iff.1 h_ticket
  have h_erase := (List.getElem_cons_eraseIdx_perm hlt).map
    fun p : Nat × Editor.Ticket => (p.1, p.2.payload)
  rw [h_get, List.map_cons] at h_erase
  unfold begun
  rw [List.map_append, List.append_assoc]
  exact h_erase.append_left _

/-- The newest of the saves that were begun has the list of the editor as its payload. -/
structure Current (key : Value) (j : Journal) : Prop where
  key_eq : j.editor.saver.key = key
  numbered : ∀ p ∈ j.begun, p.1 < j.started
  newest : ∀ p ∈ j.begun, (∀ q ∈ j.begun, q.1 ≤ p.1) →
    ∃ name, key.name? = some name ∧ p.2 = j.editor.book.toValue name

namespace Current

variable {key : Value} {c : Editor.Command} {e' : Editor} {events : List Event}

/-- A command that is over has not changed the list, or nothing can be saved. -/
theorem ended (h : j.Current key) {outcome : Editor.Outcome}
    (h_begin : j.editor.begin c = (e', events, .done outcome))
    (answers : List (Nat × Editor.Outcome)) :
    Current key { j with editor := e', started := j.started + 1, answers } := by
  have h_begins := Editor.begins_begin j.editor c
  have h_key := h_begins.sameStore.key
  rw [h_begin] at h_begins h_key
  refine ⟨h_key.trans h.key_eq, fun p hp => Nat.lt_succ_of_lt (h.numbered p hp), ?_⟩
  dsimp only
  cases h_begins with
  | ended h_same =>
    rw [h_same.book]
    exact h.newest
  | unstorable _ h_none =>
    intro p hp h_newest
    obtain ⟨name, h_name, -⟩ := h.newest p hp h_newest
    rw [h.key_eq] at h_none
    exact nomatch h_none.symm.trans h_name

/-- A save that is begun is the newest one, and its payload is the list. -/
theorem begun (h : j.Current key) {t : Editor.Ticket}
    (h_begin : j.editor.begin c = (e', events, .saving t)) (payloads : List Value) :
    Current key { j with
      editor := e', started := j.started + 1, pending := (j.started, t) :: j.pending
      payloads } := by
  have h_begins := Editor.begins_begin j.editor c
  have h_key := h_begins.sameStore.key
  rw [h_begin] at h_begins h_key
  have h_mem {p : Nat × Value} : p ∈ Journal.begun { j with
      editor := e', started := j.started + 1, pending := (j.started, t) :: j.pending
      payloads } ↔ p = (j.started, t.payload) ∨ p ∈ j.begun :=
    List.perm_middle.mem_iff.trans List.mem_cons
  refine ⟨h_key.trans h.key_eq, fun p hp => ?_, fun p hp h_newest => ?_⟩
  · rcases h_mem.1 hp with rfl | hp
    · exact Nat.lt_succ_self _
    · exact Nat.lt_succ_of_lt (h.numbered p hp)
  · have h_le := h_newest (j.started, t.payload) (h_mem.2 (.inl rfl))
    rcases h_mem.1 hp with rfl | hp
    · cases h_begins with
      | @saving _ _ book name _ _ h_name h_payload h_same =>
        have h_book : e'.book = book := h_same.book
        exact ⟨name, h.key_eq ▸ h_name, by rw [h_payload, ← h_book]⟩
    · -- Every earlier save has a smaller number.
      exact absurd (h.numbered p hp) (Nat.not_lt.2 h_le)

/-- A save that has succeeded leaves the list alone. -/
theorem finished (h : j.Current key) {k n : Nat} {t : Editor.Ticket} {outcome : Editor.Outcome}
    (h_ticket : j.pending[k]? = some (n, t))
    (h_finish : j.editor.finish t true = (e', events, outcome))
    (answers : List (Nat × Editor.Outcome)) :
    Current key { j with
      editor := e', pending := j.pending.eraseIdx k, answers
      endings := j.endings ++ [⟨n, t.payload, true, outcome⟩] } := by
  have h_perm := begun_of_finished h_ticket e' true outcome answers
  have h_work := Editor.sameWork_finish_saved j.editor t
  rw [h_finish] at h_work
  refine ⟨h_work.key.trans h.key_eq, fun p hp => h.numbered p (h_perm.mem_iff.1 hp), ?_⟩
  intro p hp h_newest
  obtain ⟨name, h_name, h_payload⟩ :=
    h.newest p (h_perm.mem_iff.1 hp) fun q hq => h_newest q (h_perm.mem_iff.2 hq)
  exact ⟨name, h_name, by rw [h_payload, ← h_work.book]⟩

/-- Whatever happens leaves the newest save with the list, unless it is a save that fails. -/
theorem turn {a : Act} {j' : Journal} (h : j.Current key) (h_turn : Turn j a j')
    (h_saved : ∀ x ∈ j'.endings, x.saved = true) : j'.Current key := by
  cases h_turn with
  | missing => exact h
  | aside _ h_work =>
    refine ⟨h_work.key.trans h.key_eq, h.numbered, ?_⟩
    dsimp only
    rw [h_work.book]
    exact h.newest
  | ended h_begin => exact h.ended h_begin _
  | begun h_begin => exact h.begun h_begin _
  | @finished _ _ saved _ _ _ _ h_ticket h_finish =>
    obtain rfl : saved = true := h_saved _ (List.mem_append_right _ List.mem_cons_self)
    exact h.finished h_ticket h_finish _

/-- Once all saves have ended, the payload of the newest one is the list. -/
theorem payload_of_newest (h : j.Current key) (h_ended : j.pending = []) {x : Ending}
    (hx : x ∈ j.endings) (h_max : ∀ y ∈ j.endings, y.number ≤ x.number) :
    ∃ name, key.name? = some name ∧ x.payload = j.editor.book.toValue name := by
  have h_begun : j.begun = j.endings.map fun x => (x.number, x.payload) := by
    rw [Journal.begun, h_ended, List.map_nil, List.append_nil]
  refine h.newest (x.number, x.payload) ?_ ?_
  · rw [h_begun]
    exact List.mem_map_of_mem hx
  · rw [h_begun]
    intro q hq
    obtain ⟨y, hy, rfl⟩ := List.mem_map.1 hq
    exact h_max y hy

end Current

/-- If no save has failed so far, the newest save has the list of the editor as its payload. -/
theorem current_after {e : Editor} {acts : List Act}
    (h_saved : ∀ x ∈ (after e acts).endings, x.saved = true) :
    (after e acts).Current e.saver.key := by
  induction acts using List.reverseRecOn with
  | nil =>
    exact ⟨rfl, fun p hp => absurd hp List.not_mem_nil, fun p hp => absurd hp List.not_mem_nil⟩
  | append_singleton acts a ih =>
    rw [after_concat] at h_saved ⊢
    have h_before := ih fun x hx => h_saved x (List.mem_append_left _ hx)
    exact h_before.turn (turn_step _ a) h_saved

/-- Among some saves there is a newest one. -/
theorem exists_newest {endings : List Ending} (h : endings ≠ []) :
    ∃ newest ∈ endings, ∀ x ∈ endings, x.number ≤ newest.number := by
  cases h_max : endings.argmax Ending.number with
  | none => exact absurd (List.argmax_eq_none.1 h_max) h
  | some newest =>
    exact ⟨newest, List.argmax_mem h_max, fun x hx => List.le_of_mem_argmax hx h_max⟩

/-- **What is stored in the end.**  Commands are started at any time, their saves overlap and end in
any order, and each command that was saved was answered so.  Once no save is under way, the place
holds the payload of the save that has ended last.  That is the list of the editor if no save was
begun later; in general it is the list of the editor exactly if the save that was begun last has the
same payload. -/
theorem load_eq_iff (e : Editor) (acts : List Act) (last : Ending)
    (h_ended : (after e acts).pending = [])
    (h_ok : ∀ x ∈ (after e acts).endings, x.Says .ok)
    (h_last : (after e acts).endings.getLast? = some last) :
    let j := after e acts
    ∃ name, e.saver.key.name? = some name ∧ j.memory.load = some last.payload ∧
      ((∀ x ∈ j.endings, x.number ≤ last.number) →
        j.memory.load = some (j.editor.book.toValue name)) ∧
      (j.memory.load = some (j.editor.book.toValue name) ↔
        ∃ newest ∈ j.endings, (∀ x ∈ j.endings, x.number ≤ newest.number) ∧
          newest.payload = last.payload) := by
  intro j
  have h_saved : ∀ x ∈ j.endings, x.saved = true := fun x hx => saved_of_says x hx (h_ok x hx)
  have h_current : j.Current e.saver.key := current_after h_saved
  have h_mem : last ∈ j.endings := List.mem_of_getLast? h_last
  have h_load : j.memory.load = some last.payload := load_memory h_last (h_saved last h_mem)
  obtain ⟨newest, h_in, h_max⟩ := exists_newest (List.ne_nil_of_mem h_mem)
  obtain ⟨name, h_name, h_payload⟩ := h_current.payload_of_newest h_ended h_in h_max
  have h_list {x : Ending} (hx : x ∈ j.endings) (h : ∀ y ∈ j.endings, y.number ≤ x.number) :
      x.payload = j.editor.book.toValue name := by
    obtain ⟨name', h_name', h_payload'⟩ := h_current.payload_of_newest h_ended hx h
    obtain rfl : name = name' := Option.some.inj (h_name.symm.trans h_name')
    exact h_payload'
  refine ⟨name, h_name, h_load, ?_, ?_⟩
  · intro h
    rw [h_load, h_list h_mem h]
  · rw [h_load, Option.some.injEq]
    constructor
    · intro h
      exact ⟨newest, h_in, h_max, h_payload.trans h.symm⟩
    · rintro ⟨x, hx, h, h_same⟩
      rw [← h_same]
      exact h_list hx h

/-- A rule is deleted, another one is moved, and a dialog is opened; the saves end in the order in
which they were begun. -/
theorem load_eq_of_in_order :
    let e := (Editor.new {} ⟨{}, none, none⟩ none [.onValue "a", .onValue "b", .onValue "c"]).1
    let acts : List Act := [.start (.delete 0 none), .openEdit 0, .start (.moveUp 1),
      .finish 1 true, .finish 0 true]
    let j := after e acts
    ∃ last, j.pending = [] ∧ (∀ x ∈ j.endings, x.Says .ok) ∧ j.endings.getLast? = some last ∧
      ∃ name, e.saver.key.name? = some name ∧ j.memory.load = some last.payload ∧
        ((∀ x ∈ j.endings, x.number ≤ last.number) →
          j.memory.load = some (j.editor.book.toValue name)) ∧
        (j.memory.load = some (j.editor.book.toValue name) ↔
          ∃ newest ∈ j.endings, (∀ x ∈ j.endings, x.number ≤ newest.number) ∧
            newest.payload = last.payload) := by
  intro e acts
  have h_ended : (after e acts).pending = [] := by decide
  have h_ok : ∀ x ∈ (after e acts).endings, x.Says .ok := by decide
  obtain ⟨last, h_last⟩ : ∃ last, (after e acts).endings.getLast? = some last := ⟨_, rfl⟩
  exact ⟨last, h_ended, h_ok, h_last, load_eq_iff e acts last h_ended h_ok h_last⟩

/-- Both of two rules are deleted; the save of the second deletion ends first, and both succeed.
The place is left with a rule that the list does not have any more. -/
theorem load_ne_of_deletions :
    let e := (Editor.new {} ⟨{}, none, none⟩ none [.onValue "a", .onValue "b"]).1
    let acts : List Act :=
      [.start (.delete 0 none), .start (.delete 0 none), .finish 0 true, .finish 0 true]
    let j := after e acts
    let sentinel := Rule.fallback Rule.defaultFinalDescription
    j.pending = [] ∧ (∀ x ∈ j.endings, x.Says .ok) ∧ j.editor.rules = [sentinel] ∧
      j.memory.load = some ((e.book.withRules [.onValue "b", sentinel]).toValue "rules") ∧
      j.memory.load ≠ some (j.editor.book.toValue "rules") := by
  intro e acts j sentinel
  have h_ok : ∀ x ∈ j.endings, x.Says .ok := by decide
  exact ⟨rfl, h_ok, rfl, rfl, by decide⟩

end Journal

end Rulebook
