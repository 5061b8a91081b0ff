/-
  Rulebook.Proofs.Run

  Runs of whatever goes from state to state by acts and shows something at each of them.  What
  every act keeps a whole run keeps, and what every act shows to be right is right throughout;
  what is brought about once and kept from then on holds at the end.  These inductions are made
  once, here.

  The acts of a run may be restricted by the state in which each of them is made (`Allowed`), so
  that "an act is only made while nothing is being saved" is a statement about a run.
-/
import Mathlib.Data.List.Basic

namespace Rulebook.Run

variable {σ α ω : Type _} (step : σ → α → σ × ω)

/-- The state after acts that are made one after another. -/
def after (s : σ) : List α → σ
  | [] => s
  | a :: rest => after (step s a).1 rest

/-- What is shown while acts are made one after another. -/
def shown (s : σ) : List α → List ω
  | [] => []
  | a :: rest => (step s a).2 :: shown (step s a).1 rest

/-- Each act is allowed in the state that it is made in. -/
def Allowed (ok : σ → α → Prop) (s : σ) : List α → Prop
  | [] => True
  | a :: rest => ok s a ∧ Allowed ok (step s a).1 rest

instance decidableAllowed (ok : σ → α → Prop) [∀ s a, Decidable (ok s a)] (s : σ) :
    (acts : List α) → Decidable (Allowed step ok s acts)
  | [] => .isTrue trivial
  | a :: rest =>
    have := decidableAllowed ok (step s a).1 rest
    inferInstanceAs (Decidable (ok s a ∧ Allowed step ok (step s a).1 rest))

variable {step} {s : σ} {ok : σ → α → Prop} {Inv : σ → Prop} {Right : ω → Prop}

@[simp] theorem after_append (first last : List α) :
    after step s (first ++ last) = after step (after step s first) last := by
  induction first generalizing s with
  | nil => rfl
  | cons a rest ih => exact ih

theorem allowed_append {first last : List α} :
    Allowed step ok s (first ++ last) ↔
      Allowed step ok s first ∧ Allowed step ok (after step s first) last := by
  induction first generalizing s with
  | nil => exact ⟨fun h => ⟨trivial, h⟩, fun h => h.2⟩
  | cons a rest ih =>
    simp only [List.cons_append, Allowed, after, ih, and_assoc]

/-- What is allowed in every state is allowed throughout. -/
theorem allowed_of_forall {acts : List α} (h : ∀ s, ∀ a ∈ acts, ok s a) :
    Allowed step ok s acts := by
  induction acts generalizing s with
  | nil => trivial
  | cons a rest ih =>
    exact ⟨h s a List.mem_cons_self, ih fun s b hb => h s b (List.mem_cons_of_mem a hb)⟩

/-- Being allowed throughout is being allowed after each beginning of the run. -/
theorem allowed_iff_prefix {acts : List α} :
    Allowed step ok s acts ↔
      ∀ before act, before ++ [act] <+: acts → ok (after step s before) act := by
  induction acts generalizing s with
  | nil =>
    refine ⟨fun _ before act h => ?_, fun _ => trivial⟩
    have hnil := List.prefix_nil.1 h
    exact absurd hnil (by simp)
  | cons a rest ih =>
    constructor
    · intro ⟨ha, hrest⟩ before act h
      cases before with
      | nil =>
        obtain ⟨rfl, -⟩ := List.cons_prefix_cons.1 h
        exact ha
      | cons b before =>
        obtain ⟨rfl, htail⟩ := List.cons_prefix_cons.1 h
        exact ih.1 hrest before act htail
    · intro h
      refine ⟨h [] a ?_, ih.2 fun before act hpre => ?_⟩
      · exact List.cons_prefix_cons.2 ⟨rfl, List.nil_prefix⟩
      · exact h (a :: before) act (List.cons_prefix_cons.2 ⟨rfl, hpre⟩)

/-- What every allowed act keeps holds at the end of an allowed run. -/
theorem inv_after (hstep : ∀ s a, Inv s → ok s a → Inv (step s a).1) {acts : List α}
    (hs : Inv s) (hacts : Allowed step ok s acts) : Inv (after step s acts) := by
  induction acts generalizing s with
  | nil => exact hs
  | cons a rest ih => exact ih (hstep s a hs hacts.1) hacts.2

/-- What every allowed act keeps holds after each beginning of an allowed run. -/
theorem inv_prefix (hstep : ∀ s a, Inv s → ok s a → Inv (step s a).1) {acts before : List α}
    (hs : Inv s) (hacts : Allowed step ok s acts) (hpre : before <+: acts) :
    Inv (after step s before) := by
  obtain ⟨rest, rfl⟩ := hpre
  exact inv_after hstep hs (allowed_append.1 hacts).1

/-- **What holds throughout a run can be told from its acts**, if it can be told of each act whether
it still holds afterwards.  `may` restricts the acts that are made at all. -/
theorem throughout_iff_allowed {may : σ → α → Prop} {Good : σ → Prop}
    (hstep : ∀ s a, Inv s → may s a → Inv (step s a).1)
    (hgood : ∀ s a, Inv s → may s a → Good s → (Good (step s a).1 ↔ ok s a)) {acts : List α}
    (hs : Inv s) (hacts : Allowed step may s acts) (h_good : Good s) :
    (∀ before, before <+: acts → Good (after step s before)) ↔ Allowed step ok s acts := by
  induction acts generalizing s with
  | nil =>
    refine ⟨fun _ => trivial, fun _ before h_prefix => ?_⟩
    rw [List.prefix_nil.1 h_prefix]
    exact h_good
  | cons a rest ih =>
    have h_inv := hstep s a hs hacts.1
    have h_ok := hgood s a hs hacts.1 h_good
    constructor
    · intro h
      have h_next : Good (step s a).1 := h [a] (List.cons_prefix_cons.2 ⟨rfl, List.nil_prefix⟩)
      refine ⟨h_ok.1 h_next, (ih h_inv hacts.2 h_next).1 fun before h_prefix => ?_⟩
      exact h (a :: before) (List.cons_prefix_cons.2 ⟨rfl, h_prefix⟩)
    · rintro ⟨ha, h_rest⟩ before h_prefix
      cases before with
      | nil => exact h_good
      | cons b before =>
        obtain ⟨rfl, h_tail⟩ := List.cons_prefix_cons.1 h_prefix
        exact (ih h_inv hacts.2 (h_ok.2 ha)).2 h_rest before h_tail

/-- What every allowed act shows in a state that the run can be in, is shown by the run. -/
theorem right_shown (hstep : ∀ s a, Inv s → ok s a → Inv (step s a).1)
    (hshow : ∀ s a, Inv s → ok s a → Right (step s a).2) {acts : List α}
    (hs : Inv s) (hacts : Allowed step ok s acts) : ∀ o ∈ shown step s acts, Right o := by
  induction acts generalizing s with
  | nil =>
    intro o ho
    exact absurd ho List.not_mem_nil
  | cons a rest ih =>
    intro o ho
    rcases List.mem_cons.1 ho with rfl | ho
    · exact hshow s a hs hacts.1
    · exact ih (hstep s a hs hacts.1) hacts.2 o ho

/-- Whatever an act brings about when it shows something, and every act keeps, holds from the first
act on that shows it. -/
theorem once_shown {Since : σ → Prop} (hstep : ∀ s a, Inv s → ok s a → Inv (step s a).1)
    (hshow : ∀ s a, Inv s → ok s a → Right (step s a).2 → Since (step s a).1)
    (hkeep : ∀ s a, Inv s → ok s a → Since s → Since (step s a).1) {acts : List α}
    (hs : Inv s) (hacts : Allowed step ok s acts)
    (h : Since s ∨ ∃ o ∈ shown step s acts, Right o) : Since (after step s acts) := by
  induction acts generalizing s with
  | nil => exact h.resolve_right fun ⟨_, ho, _⟩ => absurd ho List.not_mem_nil
  | cons a rest ih =>
    refine ih (hstep s a hs hacts.1) hacts.2 ?_
    rcases h with h | ⟨o, ho, hright⟩
    · exact .inl (hkeep s a hs hacts.1 h)
    · rcases List.mem_cons.1 ho with rfl | ho
      · exact .inl (hshow s a hs hacts.1 hright)
      · exact .inr ⟨o, ho, hright⟩

/-- **A register holds what was put into it last**, or what it held before.  `read` looks into it,
and `put` is what an act puts there, if it does. -/
theorem read_after {β : Type _} (read : σ → β) (put : α → Option β)
    (hstep : ∀ s a, Inv s → ok s a → Inv (step s a).1)
    (hread : ∀ s a, Inv s → ok s a → read (step s a).1 = (put a).getD (read s)) {acts : List α}
    (hs : Inv s) (hacts : Allowed step ok s acts) :
    read (after step s acts) = (acts.filterMap put).getLast?.getD (read s) := by
  induction acts generalizing s with
  | nil => rfl
  | cons a rest ih =>
    have h_rest := ih (hstep s a hs hacts.1) hacts.2
    rw [hread s a hs hacts.1] at h_rest
    rw [after, h_rest]
    cases h_put : put a with
    | none => rw [List.filterMap_cons_none h_put, Option.getD_none]
    | some b => rw [List.filterMap_cons_some h_put, List.getLast?_cons, Option.getD_some]; rfl

/-! ## Two runs side by side -/

section Both

variable {τ ψ : Type _} {other : τ → α → τ × ψ} {t : τ}

/-- The step of two things that are done the same to. -/
def both (step : σ → α → σ × ω) (other : τ → α → τ × ψ) (p : σ × τ) (a : α) :
    (σ × τ) × (ω × ψ) :=
  (((step p.1 a).1, (other p.2 a).1), ((step p.1 a).2, (other p.2 a).2))

theorem after_both (acts : List α) :
    after (both step other) (s, t) acts = (after step s acts, after other t acts) := by
  induction acts generalizing s t with
  | nil => rfl
  | cons a rest ih => exact ih

theorem map_fst_shown_both (acts : List α) :
    (shown (both step other) (s, t) acts).map Prod.fst = shown step s acts := by
  induction acts generalizing s t with
  | nil => rfl
  | cons a rest ih =>
    rw [shown, List.map_cons, ih]
    rfl

theorem map_snd_shown_both (acts : List α) :
    (shown (both step other) (s, t) acts).map Prod.snd = shown other t acts := by
  induction acts generalizing s t with
  | nil => rfl
  | cons a rest ih =>
    rw [shown, List.map_cons, ih]
    rfl

/-- What the second one shows is shown when both are run. -/
theorem exists_shown_both {Right : ψ → Prop} {acts : List α}
    (h : ∃ o ∈ shown other t acts, Right o) :
    ∃ o ∈ shown (both step other) (s, t) acts, Right o.2 := by
  obtain ⟨o, ho, h_right⟩ := h
  have h_map : (shown (both step other) (s, t) acts).map Prod.snd = shown other t acts :=
    map_snd_shown_both acts
  rw [← h_map] at ho
  obtain ⟨p, hp, rfl⟩ := List.mem_map.1 ho
  exact ⟨p, hp, h_right⟩

/-- If what the first one shows always comes of what the second one shows, so it is throughout. -/
theorem shown_eq_map_of_both {f : ψ → ω} {acts : List α}
    (h : ∀ o ∈ shown (both step other) (s, t) acts, o.1 = f o.2) :
    shown step s acts = (shown other t acts).map f := by
  have h_map := List.map_congr_left h
  rwa [map_fst_shown_both, ← Function.comp_def, ← List.map_map, map_snd_shown_both] at h_map

end Both

end Rulebook.Run
