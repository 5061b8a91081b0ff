/-
  Rulebook.Proofs.Record

  Which keys a record has after values were put into it.  Keys are told apart by `==`, so the
  question is whether a key is there, and not in which spelling.  Entries whose keys are all
  different from each other are a record as they are.

  Main statements: `Record.has_ofList` and `Record.get?_ofList`, a record that is made of entries
  has their keys and the last value of each, `Record.ofList_of_distinct`, and `Record.putAll_perm`,
  entries may be put in any order in the place of those that are there.
-/
import Mathlib.Data.List.Basic
import Mathlib.Data.List.Induction
import Rulebook.Record

namespace Rulebook.Record

variable {κ : Type _} {β : Type _} [BEq κ] [EquivBEq κ]

/-- Two spellings of one key lead to one value. -/
theorem get?_congr {key other : κ} (h : (key == other) = true) (es : Record κ β) :
    get? es key = get? es other := by
  induction es with
  | nil => rfl
  | cons e es ih =>
    obtain ⟨k, v⟩ := e
    rw [get?_cons, get?_cons, BEq.congr_right h, ih]

omit [EquivBEq κ] in
/-- A value that is found is in the record, under a spelling of the key. -/
theorem mem_of_get? {es : Record κ β} {key : κ} {value : β} (h : get? es key = some value) :
    ∃ k, (k, value) ∈ es ∧ (k == key) = true := by
  induction es with
  | nil => exact nomatch h
  | cons e es ih =>
    obtain ⟨k, v⟩ := e
    rw [get?_cons] at h
    split at h
    · rename_i h_key
      exact ⟨k, Option.some.inj h ▸ List.mem_cons_self, h_key⟩
    · obtain ⟨k', h_mem, h_key⟩ := ih h
      exact ⟨k', List.mem_cons_of_mem _ h_mem, h_key⟩

omit [EquivBEq κ] in
/-- Of the keys of a class that does not tell spellings apart the values remain when a record is cut
down to it, and no others are found any more. -/
theorem get?_filter {p : κ → Bool} (hp : ∀ {k key}, (k == key) = true → p k = p key)
    (es : Record κ β) (key : κ) :
    get? (es.filter fun e => p e.1) key = if p key then get? es key else none := by
  induction es with
  | nil => rw [List.filter_nil, get?_nil, ite_self]
  | cons e es ih =>
    obtain ⟨k, v⟩ := e
    rw [List.filter_cons, get?_cons]
    cases h_key : k == key with
    | false =>
      -- An entry under another key is not found, whether it is left out or not.
      have h_skip : get? ((k, v) :: es.filter fun e => p e.1) key =
          get? (es.filter fun e => p e.1) key := by
        rw [get?_cons, h_key, if_neg Bool.false_ne_true]
      rw [if_neg Bool.false_ne_true, ← ih]
      split
      · exact h_skip
      · rfl
    | true =>
      rw [hp h_key, if_pos rfl]
      split
      · rw [get?_cons, h_key, if_pos rfl]
      · rename_i h_out
        rw [ih, if_neg h_out]

/-- What is in a record after a value was put was there before, or it is the value. -/
theorem mem_put {es : Record κ β} {key : κ} {value : β} {e : κ × β} (h : e ∈ put es key value) :
    e ∈ es ∨ (e.1 == key) = true ∧ e.2 = value := by
  induction es with
  | nil =>
    obtain rfl := List.mem_singleton.1 h
    exact .inr ⟨BEq.rfl, rfl⟩
  | cons f es ih =>
    obtain ⟨k, v⟩ := f
    rw [put] at h
    split at h
    · rename_i h_key
      rcases List.mem_cons.1 h with rfl | h
      · exact .inr ⟨h_key, rfl⟩
      · exact .inl (List.mem_cons_of_mem _ h)
    · rcases List.mem_cons.1 h with rfl | h
      · exact .inl List.mem_cons_self
      · exact (ih h).imp_left (List.mem_cons_of_mem _)

/-- What is in a record after entries were put into it was there before, or it is the value of one
of them. -/
theorem mem_foldl_put {es : List (κ × β)} {acc : Record κ β} {e : κ × β}
    (h : e ∈ es.foldl (fun acc e => put acc e.1 e.2) acc) :
    e ∈ acc ∨ ∃ f ∈ es, (e.1 == f.1) = true ∧ e.2 = f.2 := by
  induction es generalizing acc with
  | nil => exact .inl h
  | cons f es ih =>
    rcases ih h with h | ⟨g, hg, h_same⟩
    · exact (mem_put h).imp_right fun h_same => ⟨f, List.mem_cons_self, h_same⟩
    · exact .inr ⟨g, List.mem_cons_of_mem f hg, h_same⟩

/-- A record that is made of entries has their values. -/
theorem mem_ofList {es : List (κ × β)} {e : κ × β} (h : e ∈ ofList es) :
    ∃ f ∈ es, (e.1 == f.1) = true ∧ e.2 = f.2 :=
  (mem_foldl_put h).resolve_left List.not_mem_nil

/-- A key is present after a value was put if it was before, or if it is the one of the value. -/
theorem has_put (es : Record κ β) (key other : κ) (value : β) :
    has (put es key value) other = (key == other || has es other) := by
  cases h : key == other with
  | true => rw [has, ← get?_congr h, get?_put_self, Option.isSome_some, Bool.true_or]
  | false => rw [has, get?_put_of_ne h, Bool.false_or, has]

omit [BEq κ] [EquivBEq κ] in
/-- What holds of something that is built step by step from elements holds because of one of them, or
from the start, if each step only brings about what its element does. -/
theorem foldl_eq_any {σ α : Type _} {step : σ → α → σ} {q : σ → Bool} {p : α → Bool}
    (h : ∀ s a, q (step s a) = (q s || p a)) (s : σ) (as : List α) :
    q (as.foldl step s) = (q s || as.any p) := by
  induction as generalizing s with
  | nil => rw [List.foldl_nil, List.any_nil, Bool.or_false]
  | cons a rest ih => rw [List.foldl_cons, ih, h, List.any_cons, Bool.or_assoc]

/-- A record that is made of entries has their keys and no others. -/
theorem has_ofList (es : List (κ × β)) (key : κ) :
    has (ofList es) key = es.any fun e => e.1 == key := by
  have h_put (acc : Record κ β) (e : κ × β) :
      has (put acc e.1 e.2) key = (has acc key || e.1 == key) := by
    rw [has_put, Bool.or_comm]
  exact foldl_eq_any (q := fun acc => has acc key) h_put [] es

/-- Of the entries of one key that a record is made of, the last one counts. -/
theorem get?_ofList (es : List (κ × β)) (key : κ) :
    get? (ofList es) key = (es.filter fun e => e.1 == key).getLast?.map Prod.snd := by
  induction es using List.reverseRecOn with
  | nil => rfl
  | append_singleton es e ih =>
    have h_put : ofList (es ++ [e]) = put (ofList es) e.1 e.2 := List.foldl_append
    rw [h_put, List.filter_append, List.filter_singleton]
    cases h : e.1 == key with
    | true => rw [← get?_congr h, get?_put_self, cond_true, List.getLast?_concat, Option.map_some]
    | false => rw [get?_put_of_ne h, ih, cond_false, List.append_nil]

/-! ## Different keys -/

omit [EquivBEq κ] in
/-- A value is put behind the others if its key is new. -/
theorem put_of_not_has {es : Record κ β} {key : κ} (h : has es key = false) (value : β) :
    put es key value = es ++ [(key, value)] := by
  induction es with
  | nil => rfl
  | cons e es ih =>
    obtain ⟨k, v⟩ := e
    rw [has, get?_cons] at h
    split at h
    · exact absurd h.symm Bool.false_ne_true
    · rename_i h_key
      rw [put, if_neg h_key, ih h, List.cons_append]

/-- Whether any two keys are different. -/
def Distinct (keys : List κ) : Prop :=
  keys.Pairwise fun a b => (a == b) = false

instance (keys : List κ) : Decidable (Distinct keys) :=
  inferInstanceAs (Decidable (keys.Pairwise _))

omit [EquivBEq κ] in
/-- Entries with new and different keys are put behind those that are there. -/
theorem foldl_put_of_distinct {es : List (κ × β)} {acc : Record κ β}
    (h : Distinct (keys (acc ++ es))) : es.foldl (fun acc e => put acc e.1 e.2) acc = acc ++ es := by
  induction es generalizing acc with
  | nil => exact (List.append_nil acc).symm
  | cons e es ih =>
    have h_new : has acc e.1 = false := by
      rw [keys, List.map_append, Distinct, List.pairwise_append] at h
      rw [has_eq_any_keys, List.any_eq_false]
      intro k hk
      rw [h.2.2 k hk e.1 List.mem_cons_self]
      exact Bool.false_ne_true
    have h_split : acc ++ e :: es = acc ++ [e] ++ es := by
      rw [List.append_assoc, List.singleton_append]
    rw [h_split] at h ⊢
    rw [List.foldl_cons, put_of_not_has h_new]
    exact ih h

omit [EquivBEq κ] in
/-- Entries with different keys are a record. -/
theorem ofList_of_distinct {es : List (κ × β)} (h : Distinct (keys es)) : ofList es = es :=
  foldl_put_of_distinct h

/-- If the keys are different, every value is found under its own. -/
theorem get?_of_mem {es : Record κ β} {key : κ} {value : β} (h : Distinct (keys es))
    (h_mem : (key, value) ∈ es) : get? es key = some value := by
  induction es with
  | nil => exact absurd h_mem List.not_mem_nil
  | cons e es ih =>
    obtain ⟨k, v⟩ := e
    obtain ⟨h_first, h_rest⟩ := List.pairwise_cons.1 h
    rw [get?_cons]
    rcases List.mem_cons.1 h_mem with h_here | h_there
    · obtain ⟨rfl, rfl⟩ := Prod.mk.inj h_here
      rw [BEq.rfl, if_pos rfl]
    · have h_other := h_first key (List.mem_map_of_mem h_there)
      rw [h_other, if_neg Bool.false_ne_true, ih h_rest h_there]

omit [EquivBEq κ] in
/-- What a record is cut down to does not change when a value is put under a key that is left
out. -/
theorem filter_put {p : κ → Bool} (hp : ∀ {k key}, (k == key) = true → p k = p key) {key : κ}
    (h : p key = false) (es : Record κ β) (value : β) :
    (put es key value).filter (fun e => p e.1) = es.filter fun e => p e.1 := by
  induction es with
  | nil => rw [put, List.filter_cons_of_neg (by rw [h]; exact Bool.false_ne_true)]
  | cons e es ih =>
    obtain ⟨k, v⟩ := e
    rw [put]
    split
    · rename_i h_key
      have h_out : p k = false := (hp h_key).trans h
      rw [List.filter_cons_of_neg (by rw [h_out]; exact Bool.false_ne_true),
        List.filter_cons_of_neg (by rw [h_out]; exact Bool.false_ne_true)]
    · rw [List.filter_cons, List.filter_cons, ih]

omit [BEq κ] [EquivBEq κ] in
/-- The keys of what a record is cut down to. -/
theorem keys_filter (p : κ → Bool) (es : Record κ β) :
    keys (es.filter fun e => p e.1) = (keys es).filter p :=
  List.filter_map.symm

/-! ## Putting several values -/

/-- The record with entries put into it one after another. -/
def putAll (es : Record κ β) (entries : List (κ × β)) : Record κ β :=
  entries.foldl (fun es e => put es e.1 e.2) es

omit [EquivBEq κ] in
@[simp] theorem putAll_cons (es : Record κ β) (e : κ × β) (entries : List (κ × β)) :
    putAll es (e :: entries) = putAll (put es e.1 e.2) entries := rfl

/-- A key that is present stays so when a value is put. -/
theorem has_put_of_has {es : Record κ β} {other : κ} (h : has es other = true) (key : κ)
    (value : β) : has (put es key value) other = true := by
  rw [has_put, h, Bool.or_true]

/-- A value under a key that none of the entries has is still the one that is found. -/
theorem get?_putAll_of_ne {entries : List (κ × β)} {key : κ}
    (h : ∀ e ∈ entries, (e.1 == key) = false) (es : Record κ β) :
    get? (putAll es entries) key = get? es key := by
  induction entries generalizing es with
  | nil => rfl
  | cons e rest ih =>
    rw [putAll_cons, ih (fun f hf => h f (List.mem_cons_of_mem e hf)),
      get?_put_of_ne (h e List.mem_cons_self)]

/-- If the entries have different keys, each of their values is found under its own. -/
theorem get?_putAll_of_mem {entries : List (κ × β)} (h : Distinct (keys entries)) {key : κ}
    {value : β} (h_mem : (key, value) ∈ entries) (es : Record κ β) :
    get? (putAll es entries) key = some value := by
  induction entries generalizing es with
  | nil => exact absurd h_mem List.not_mem_nil
  | cons e rest ih =>
    obtain ⟨h_first, h_rest⟩ := List.pairwise_cons.1 h
    rw [putAll_cons]
    rcases List.mem_cons.1 h_mem with rfl | h_there
    · -- None of the entries behind it is put over it.
      have h_others : ∀ f ∈ rest, (f.1 == key) = false := fun f hf => by
        rw [BEq.comm]
        exact h_first f.1 (List.mem_map_of_mem hf)
      rw [get?_putAll_of_ne h_others, get?_put_self]
    · exact ih h_rest h_there _

/-- If the entries have different keys, what is found is the value of an entry, or what was there. -/
theorem get?_putAll {entries : List (κ × β)} (h : Distinct (keys entries)) (es : Record κ β)
    (key : κ) : get? (putAll es entries) key = (get? entries key).or (get? es key) := by
  cases h_get : get? entries key with
  | none =>
    refine get?_putAll_of_ne (fun e he => Bool.eq_false_iff.2 fun h_same => ?_) es
    have h_has : has entries key = true := by
      rw [has_eq_any_keys]
      exact List.any_eq_true.2 ⟨e.1, List.mem_map_of_mem he, h_same⟩
    rw [has, h_get] at h_has
    cases h_has
  | some value =>
    obtain ⟨k, h_mem, h_same⟩ := mem_of_get? h_get
    rw [← get?_congr h_same, get?_putAll_of_mem h h_mem, Option.some_or]

/-- Values that are put under keys that are present keep the keys. -/
theorem keys_putAll_of_has {entries : List (κ × β)} {es : Record κ β}
    (h : ∀ e ∈ entries, has es e.1 = true) : keys (putAll es entries) = keys es := by
  induction entries generalizing es with
  | nil => rfl
  | cons e rest ih =>
    have h_rest : ∀ f ∈ rest, has (put es e.1 e.2) f.1 = true :=
      fun f hf => has_put_of_has (h f (List.mem_cons_of_mem e hf)) e.1 e.2
    rw [putAll_cons, ih h_rest, keys_put_of_has (h e List.mem_cons_self)]

/-- Two values may be put in either order, unless both are new. -/
theorem put_put_comm {es : Record κ β} {key other : κ} (h_has : has es key = true)
    (h_ne : (key == other) = false) (value value' : β) :
    put (put es key value) other value' = put (put es other value') key value := by
  induction es with
  | nil => exact absurd h_has Bool.false_ne_true
  | cons e es ih =>
    obtain ⟨k, v⟩ := e
    cases h_key : k == key with
    | true =>
      have h_other : (k == other) = false := by rw [BEq.congr_left h_key, h_ne]
      simp only [put, h_key, h_other, if_true, Bool.false_eq_true, if_false]
    | false =>
      have h_rest : has es key = true := by rwa [has, get?_cons, h_key] at h_has
      cases h_other : k == other with
      | true => simp only [put, h_key, h_other, if_true, Bool.false_eq_true, if_false]
      | false =>
        simp only [put, h_key, h_other, Bool.false_eq_true, if_false]
        rw [ih h_rest]

/-- **Entries with different keys may be put in any order** in the place of what is there. -/
theorem putAll_perm {entries entries' : List (κ × β)} (h : entries.Perm entries')
    (h_distinct : Distinct (keys entries)) {es : Record κ β}
    (h_has : ∀ e ∈ entries, has es e.1 = true) : putAll es entries' = putAll es entries := by
  induction h generalizing es with
  | nil => rfl
  | cons e _ ih =>
    refine ih (List.pairwise_cons.1 h_distinct).2 fun f hf => ?_
    exact has_put_of_has (h_has f (List.mem_cons_of_mem e hf)) e.1 e.2
  | swap e f rest =>
    -- The two entries in front are exchanged; the first of them is there already.
    have h_ne : (f.1 == e.1) = false := (List.pairwise_cons.1 h_distinct).1 e.1 List.mem_cons_self
    rw [putAll_cons, putAll_cons, putAll_cons, putAll_cons,
      put_put_comm (h_has f List.mem_cons_self) h_ne]
  | trans h_first _ ih ih' =>
    have h_keys : Distinct (keys _) :=
      (h_first.map Prod.fst).pairwise h_distinct fun h => by rwa [BEq.comm]
    rw [ih' h_keys fun e he => h_has e (h_first.mem_iff.2 he), ih h_distinct h_has]

end Rulebook.Record
