/-
  Rulebook.Proofs.Editor.Trail

  Where a dialog stores its rule, if the list has been arranged since it was opened.

  A dialog knows the position that it was opened with and nothing else of its rule (`Bound`).  To
  tell which rule stands there later on, each rule is given a label when the dialog is opened, namely
  its position at that time, and the labels are arranged along with the rules (`Trail`).  They stay
  with their rules (`Follows`), so the label at a position says where its rule comes from.

  The rule of a dialog takes the place of whatever stands at the position of the dialog; no other
  rule has changed exactly if that is still the rule that the dialog was opened on
  (`saveDialog_apart_iff`).  A deletion in front of it is enough for it to be another one
  (`saveDialog_onto_other`).
-/
import Rulebook.Proofs.Editor.Arranging
import Rulebook.Proofs.Editor.InPlace
import Rulebook.Schema.Headers

namespace Rulebook

open Arrangement (at?)

/-! ## A dialog and its position -/

namespace Editor

/-- There is a dialog with a number, and it aims at a position. -/
structure Bound (n : Nat) (i : Int) (e : Editor) : Prop where
  opened : n < e.dialogs.length
  aims : ∀ d, e.dialog? n = some d → d.Aims i

variable {n : Nat} {i : Int} {e e' : Editor}

theorem Bound.of_dialogs (h : Bound n i e) (h_dialogs : e'.dialogs = e.dialogs) : Bound n i e' := by
  refine ⟨by rw [h_dialogs]; exact h.opened, fun d hd => h.aims d ?_⟩
  rwa [dialog?, h_dialogs] at hd

/-- A dialog that is put in the place of another one aims where that one did. -/
theorem Bound.withDialog (h : Bound n i e) {m : Nat} {d : Dialog} (hd : m = n → d.Aims i) :
    Bound n i (e.withDialog m d) := by
  refine ⟨?_, fun d' hd' => ?_⟩
  · rw [Editor.withDialog, List.length_set]
    exact h.opened
  · by_cases hm : m = n
    · subst hm
      rw [dialog?, Editor.withDialog, List.getElem?_set_self h.opened, Option.some.injEq] at hd'
      rw [← hd']
      exact hd rfl
    · rw [dialog?, Editor.withDialog, List.getElem?_set_ne hm] at hd'
      exact h.aims d' hd'

/-- A dialog that is closed has no draft, which could aim elsewhere. -/
theorem aims_closed (i : Int) : Dialog.Aims i {} :=
  fun _ h => nomatch h

theorem Bound.closeDialog (h : Bound n i e) : Bound n i e.closeDialog := by
  unfold Editor.closeDialog
  split
  · exact h
  · split
    · split
      · exact (h.withDialog fun _ => aims_closed i).of_dialogs rfl
      · exact h.of_dialogs rfl
    · exact h.of_dialogs rfl

/-- A dialog that is opened gets a number of its own. -/
theorem Bound.openDialog (h : Bound n i e) (existing : Option Rule) (index : Int) :
    Bound n i (e.openDialog existing index).1 := by
  have h_closed := h.closeDialog
  unfold Editor.openDialog
  dsimp only
  split
  · split
    · refine ⟨?_, fun d hd => h_closed.aims d ?_⟩
      · rw [List.length_append]
        exact Nat.lt_add_right 1 h_closed.opened
      · rwa [dialog?, List.getElem?_append_left h_closed.opened] at hd
    · exact h_closed
  · exact h_closed

/-- Opening a dialog on a rule binds it to the position of the rule. -/
theorem bound_openEdit (h : (e.openEdit i).2 = .ok n) :
    Bound n i (e.openEdit i).1 ∧ ∃ r, at? e.rules i = some r := by
  unfold openEdit at h ⊢
  cases h_get : e.book.get i with
  | error error =>
    rw [h_get] at h
    exact nomatch h
  | ok r =>
    rw [h_get] at h
    dsimp only at h ⊢
    refine ⟨?_, r, Book.get_eq_ok_iff.1 h_get⟩
    obtain ⟨d, hd, h_dialog⟩ := dialog?_openDialog h
    obtain ⟨hlt, -⟩ := List.getElem?_eq_some_iff.1 hd
    refine ⟨hlt, fun d' hd' => ?_⟩
    obtain rfl : d = d' := Option.some.inj (hd.symm.trans hd')
    exact Dialog.aims_open h_dialog nofun

theorem Bound.setField (h : Bound n i e) {m : Nat} {name : Name} {value : Value}
    (h_set : e.setField m name value = .ok e') : Bound n i e' := by
  unfold Editor.setField at h_set
  split at h_set
  · exact nomatch h_set
  · rename_i d hd
    obtain ⟨⟨d', told⟩, h_set, h_set'⟩ := bind_eq_ok_iff.1 h_set
    rw [← Except.ok.inj h_set']
    refine h.withDialog fun hm => ?_
    subst hm
    exact Dialog.aims_set (h.aims d hd) h_set

/-- Whatever is done between two commands leaves a dialog with its position. -/
theorem Bound.aside {w : Workbench} (h : Bound n i w.editor) {a : Workbench.Act}
    (ha : Workbench.IsAside a) : Bound n i (w.step a).1.editor := by
  cases a with
  | openAdd => exact h.openDialog none (-1)
  | openEdit k =>
    simp only [Workbench.step, openEdit]
    cases w.editor.book.get k with
    | error error => exact h
    | ok r => exact h.openDialog (some r) k
  | setField m name value =>
    simp only [Workbench.step]
    split
    · rename_i h_set
      exact h.setField h_set
    · exact h
  | closeDialog => exact h.closeDialog
  | startDrag k =>
    refine h.of_dialogs ?_
    simp only [Workbench.step, Workbench.editor_withEditor, startDrag]
    split <;> rfl
  | endDrag | attach | redraw => exact h.of_dialogs rfl
  | start | finish => exact ha.elim

/-- What is stored of a dialog that is bound to a position takes the place of the rule there. -/
theorem rules_beginSaveDialog (h : Bound n i e) (h0 : 0 ≤ i) {number : Option Nat}
    (h_number : number.or e.current = some n) {t : Ticket}
    (h_saving : (e.beginSaveDialog number).2.2 = .saving t) :
    ∃ previous r, at? e.rules i = some previous ∧
      (e.beginSaveDialog number).1.rules = e.rules.set i.toNat r := by
  have h_same : e.beginSaveDialog number = e.beginSaveDialog (some n) := by
    rw [beginSaveDialog, beginSaveDialog, h_number, Option.some_or]
  rw [h_same] at h_saving ⊢
  have h_row : SameRow i e e := ⟨rfl, rfl, rfl, rfl⟩
  obtain ⟨d, hd⟩ : ∃ d, e.dialog? n = some d := ⟨_, List.getElem?_eq_getElem h.opened⟩
  have h_like := likewise_beginSaveDialog h_row h0 (h.aims _ hd) hd hd
  generalize e.beginSaveDialog (some n) = begun at h_like h_saving ⊢
  cases h_like with
  | settled => exact nomatch h_saving
  | unstorable => exact nomatch h_saving
  | saving h_at h_left => exact ⟨_, _, h_at, congrArg Book.rules h_left.book⟩

end Editor

/-! ## Labels -/

/-- What is done at a desk between opening a dialog and storing its rule. -/
def Desk.Act.Arranges : Desk.Act → Prop
  | .aside .. => True
  | .command c _ => c.Arranges

/-- A desk, and a label for each rule of the list. -/
structure Trail where
  desk : Desk
  origins : List Nat

namespace Trail

/-- The trail that begins when a dialog is opened on the rule at a position: each rule is labelled
with its own position. -/
def opened (d : Desk) (i : Int) : Trail :=
  { desk := { d with editor := (d.editor.openEdit i).1 }
    origins := List.range d.editor.rules.length }

/-- The labels are arranged along with the rules. -/
def arranged (t : Trail) (a : Desk.Act) (seen : Seen) : List Nat :=
  match a with
  | .aside .. => t.origins
  | .command c _ =>
    if Desk.Says seen .ok then c.arrange t.desk.editor.book t.origins else t.origins

/-- Does one thing. -/
def step (t : Trail) (a : Desk.Act) : Trail × Seen :=
  let (desk, seen) := t.desk.step a
  ({ desk, origins := t.arranged a seen }, seen)

/-- The members of a list, one position after another. -/
theorem map_getElem?_range {α : Type} (xs : List α) :
    ((List.range xs.length).map fun p => xs[p]?) = xs.map some := by
  refine List.ext_getElem? fun k => ?_
  rw [List.getElem?_map, List.getElem?_map]
  by_cases hk : k < xs.length
  · rw [List.getElem?_range hk, List.getElem?_eq_getElem hk]
    exact congrArg some (List.getElem?_eq_getElem hk)
  · have h_range : (List.range xs.length)[k]? = none := by
      rw [List.getElem?_eq_none_iff, List.length_range]
      omega
    rw [h_range, List.getElem?_eq_none (by omega), Option.map_none, Option.map_none]

/-- The labels have stayed with the rules that were there in the beginning, and a dialog with its
position. -/
structure Follows (rules : List Rule) (key : Value) (n : Nat) (i : Int) (t : Trail) : Prop where
  keeps : t.desk.Keeps key
  bound : t.desk.editor.Bound n i
  /-- the rules are those that the labels say they are -/
  labels : (t.origins.map fun p => rules[p]?) = t.desk.editor.rules.map some
  nodup : t.origins.Nodup

variable {rules : List Rule} {key : Value} {n : Nat} {i : Int} {t : Trail}

theorem follows_opened {d : Desk} (h_order : d.editor.book.InOrder)
    (h_open : (d.editor.openEdit i).2 = .ok n) :
    Follows d.editor.rules d.editor.saver.key n i (opened d i) := by
  have h_same := Editor.sameBook_openEdit d.editor i
  have h_rules : (d.editor.openEdit i).1.rules = d.editor.rules := congrArg Book.rules h_same.book
  refine ⟨⟨?_, ?_⟩, (Editor.bound_openEdit h_open).1, ?_, List.nodup_range⟩
  · exact h_same.book ▸ h_order
  · exact congrArg Saver.key h_same.saver
  · simp only [opened, h_rules]
    exact map_getElem?_range d.editor.rules

/-- A label stays with its rule, whatever is done between two commands and however the list is
arranged. -/
theorem follows_step {name : Name} (h_name : key.name? = some name) (t : Trail) (a : Desk.Act)
    (h : t.Follows rules key n i) (ha : a.Arranges) : (t.step a).1.Follows rules key n i := by
  have h_keeps := Desk.keeps_step t.desk a h.keeps
  cases a with
  | aside a h_aside =>
    have h_rules := congrArg Book.rules (Desk.step_aside t.desk h_aside).1.book
    refine ⟨h_keeps, Editor.Bound.aside (w := { editor := t.desk.editor }) h.bound h_aside, ?_,
      h.nodup⟩
    exact h.labels.trans (congrArg (List.map some) h_rules.symm)
  | command c fails =>
    have h_bound : (t.desk.command c fails).1.editor.Bound n i :=
      h.bound.of_dialogs (Desk.dialogs_command t.desk ha fails)
    by_cases h_ok : Desk.Says (t.desk.command c fails).2 .ok
    · have h_origins : (t.step (.command c fails)).1.origins =
          c.arrange t.desk.editor.book t.origins := if_pos h_ok
      refine ⟨h_keeps, h_bound, ?_, ?_⟩
      · -- Arranging the labels and arranging the rules is the same.
        have h_rules := Desk.rules_command ha h_ok
        rw [h_origins, Editor.Command.map_arrange, h.labels, ← Editor.Command.map_arrange, ← h_rules]
        rfl
      · rw [h_origins]
        exact Editor.Command.nodup_arrange h.nodup c _
    · have h_origins : (t.step (.command c fails)).1.origins = t.origins := if_neg h_ok
      have h_key : t.desk.editor.saver.key.name? = some name := by rw [h.keeps.key, h_name]
      have h_rules := Desk.rules_of_not_says h.keeps.book h_key h_ok
      refine ⟨h_keeps, h_bound, ?_, ?_⟩
      · rw [h_origins, h.labels, ← h_rules]
        rfl
      · rw [h_origins]
        exact h.nodup

/-- The list of a trail stays in order and has the same key. -/
theorem keeps_after {d : Desk} (h_order : d.editor.book.InOrder) (i : Int)
    (acts : List Desk.Act) :
    (Run.after step (opened d i) acts).desk.Keeps d.editor.saver.key := by
  have h_same := Editor.sameBook_openEdit d.editor i
  have h_start : (opened d i).desk.Keeps d.editor.saver.key :=
    ⟨h_same.book ▸ h_order, congrArg Saver.key h_same.saver⟩
  have h_step (t : Trail) (a : Desk.Act) (h : t.desk.Keeps d.editor.saver.key) (_ : True) :
      (t.step a).1.desk.Keeps d.editor.saver.key := Desk.keeps_step t.desk a h
  exact Run.inv_after h_step h_start (Run.allowed_of_forall fun _ _ _ => trivial)

/-- **What a dialog stores its rule onto.**  A dialog is opened on the rule at a position of a list
with a sentinel; then the list is arranged by commands that are carried out one after another, and
whose saves may fail, and whatever else is done in between; and then the rule of the dialog is saved.
It takes the place of the rule that stands at the position by then.  All rules but the one that the
dialog was opened on are left as they were exactly if it is that rule, or one that is the same as
the new one.  In particular, if the rule of the dialog was deleted, another one is overwritten. -/
theorem saveDialog_apart_iff (d : Desk) (i : Int) (n : Nat) (acts : List Desk.Act)
    (number : Option Nat) (fails : Bool) (h_order : d.editor.book.InOrder)
    (h_open : (d.editor.openEdit i).2 = .ok n) (h_acts : ∀ a ∈ acts, a.Arranges)
    (h_number : number.or (Run.after step (opened d i) acts).desk.editor.current = some n)
    (h_ok : Desk.Says
      ((Run.after step (opened d i) acts).desk.command (.saveDialog number) fails).2 .ok) :
    let t := Run.after step (opened d i) acts
    let ended := t.desk.command (.saveDialog number) fails
    t.origins.Nodup ∧ (t.origins.map fun p => d.editor.rules[p]?) = t.desk.editor.rules.map some ∧
      ∃ p r, t.origins[i.toNat]? = some p ∧
        ended.1.editor.rules = t.desk.editor.rules.set i.toNat r ∧
        ((∀ (k q : Nat), t.origins[k]? = some q → q ≠ i.toNat →
            ended.1.editor.rules[k]? = t.desk.editor.rules[k]?) ↔
          p = i.toNat ∨ t.desk.editor.rules[i.toNat]? = some r) := by
  intro t ended
  obtain ⟨⟨ticket, h_saving⟩, h_begun⟩ := Desk.begin_of_says h_ok
  -- That the rule was stored shows that there is a name to store the list under, so a command that
  -- was not answered as saved has left the list as it was.
  have h : t.Follows d.editor.rules d.editor.saver.key n i := by
    obtain ⟨name, h_name⟩ := Desk.key_of_says h_ok
    rw [(keeps_after h_order i acts).key] at h_name
    exact Run.inv_after (fun t a h ha => follows_step h_name t a h ha)
      (follows_opened h_order h_open) (Run.allowed_of_forall fun _ a ha => h_acts a ha)
  obtain ⟨-, _, h_opened⟩ := Editor.bound_openEdit h_open
  obtain ⟨h0, -⟩ := Arrangement.toNat_lt_of_at? h_opened
  obtain ⟨previous, r, h_at, h_rules⟩ :=
    Editor.rules_beginSaveDialog h.bound h0 h_number h_saving
  have h_ended : ended.1.editor.rules = t.desk.editor.rules.set i.toNat r := h_begun.trans h_rules
  obtain ⟨-, hlt⟩ := Arrangement.toNat_lt_of_at? h_at
  obtain ⟨p, hp⟩ : ∃ p, t.origins[i.toNat]? = some p := by
    have h_length := congrArg List.length h.labels
    rw [List.length_map, List.length_map] at h_length
    exact ⟨_, List.getElem?_eq_getElem (h_length ▸ hlt)⟩
  refine ⟨h.nodup, h.labels, p, r, hp, h_ended, ?_⟩
  rw [h_ended]
  constructor
  · -- The rule at the position has changed to the new one.
    intro h_others
    by_cases h_same : p = i.toNat
    · exact .inl h_same
    · have h_row := h_others i.toNat p hp h_same
      rw [List.getElem?_set_self hlt] at h_row
      exact .inr h_row.symm
  · rintro (h_same | h_same) k q hk hq
    · have h_ne : i.toNat ≠ k := by
        rintro rfl
        exact hq (Option.some.inj (hk.symm.trans hp) ▸ h_same)
      exact List.getElem?_set_ne h_ne
    · rw [Arrangement.set_of_getElem? h_same]

/-- A rule behind the one of a dialog is deleted, and a move of that one fails. -/
theorem saveDialog_apart_after_deletion :
    let form : Form := ⟨Headers.schema, none, none⟩
    let d := Desk.new {} form none [.onValue "a", .onValue "b", .onValue "c"] {}
    let acts : List Desk.Act := [.command (.delete 2 none) false, .command (.moveUp 1) true,
      .aside (.setField 0 "match_value" (.text "d")) trivial]
    let t := Run.after step (opened d 1) acts
    let ended := t.desk.command (.saveDialog (some 0)) false
    d.editor.book.InOrder ∧ (d.editor.openEdit 1).2 = .ok 0 ∧ (∀ a ∈ acts, a.Arranges) ∧
      (some 0).or t.desk.editor.current = some 0 ∧ Desk.Says ended.2 .ok ∧ t.origins.Nodup ∧
      (t.origins.map fun p => d.editor.rules[p]?) = t.desk.editor.rules.map some ∧
      ∃ p r, t.origins[1]? = some p ∧ ended.1.editor.rules = t.desk.editor.rules.set 1 r ∧
        ((∀ (k q : Nat), t.origins[k]? = some q → q ≠ 1 →
            ended.1.editor.rules[k]? = t.desk.editor.rules[k]?) ↔
          p = 1 ∨ t.desk.editor.rules[1]? = some r) := by
  intro form d acts
  have h_order : d.editor.book.InOrder := Workbench.inOrder_new form none _ rfl
  have h_open : (d.editor.openEdit 1).2 = .ok 0 := by decide
  have h_acts : ∀ a ∈ acts, a.Arranges := by
    simp only [acts, List.forall_mem_cons]
    exact ⟨trivial, trivial, trivial, List.forall_mem_nil _⟩
  have h_ok : Desk.Says
      ((Run.after step (opened d 1) acts).desk.command (.saveDialog (some 0)) false).2 .ok := by
    decide
  exact ⟨h_order, h_open, h_acts, rfl, h_ok,
    saveDialog_apart_iff d 1 0 acts (some 0) false h_order h_open h_acts rfl h_ok⟩

/-- A dialog is opened on the second of three rules, the first one is deleted, and the rule of the
dialog is saved.  It takes the place of the third rule, and the second one is as it was. -/
theorem saveDialog_onto_other :
    let form : Form := ⟨Headers.schema, none, none⟩
    let d := Desk.new {} form none [.onValue "a", .onValue "b", .onValue "c"] {}
    let acts : List Desk.Act :=
      [.aside (.setField 0 "match_value" (.text "B")) trivial, .command (.delete 0 none) false]
    let t := Run.after step (opened d 1) acts
    let ended := t.desk.command (.saveDialog none) false
    let sentinel := Rule.fallback Rule.defaultFinalDescription
    Settings.hasFinal {} = true ∧ Desk.Says ended.2 .ok ∧ t.origins = [1, 2, 3] ∧
      t.desk.editor.rules = [.onValue "b", .onValue "c", sentinel] ∧
      ended.1.editor.rules = [.onValue "b", .onValue "B", sentinel] := by
  intro form d acts t ended sentinel
  have h_ok : Desk.Says ended.2 .ok := by decide
  have h_origins : t.origins = [1, 2, 3] := by decide
  exact ⟨rfl, h_ok, h_origins, by decide, by decide⟩

end Trail

end Rulebook
