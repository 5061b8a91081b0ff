/-
  Rulebook.Record

  Records: values under keys, in the order in which the keys were first given.  Keys are told
  apart by `==`, which may be coarser than equality: putting a value under a key that is present
  keeps the spelling that the key was first given in.

  Main statements: `Record.get?_put_self` and `Record.get?_put_of_ne` say what putting a value
  does to looking one up; `Record.keys_put_of_has` says that it does not disturb the keys.
-/

namespace Rulebook

/-- Values under keys, in order. -/
abbrev Record (κ : Type _) (β : Type _) := List (κ × β)

namespace Record

variable {κ : Type _} {β : Type _} [BEq κ]

/-- The value under a key. -/
def get? : Record κ β → κ → Option β
  | [], _ => none
  | (k, v) :: rest, key => if k == key then some v else get? rest key

/-- Whether a key is present. -/
def has (es : Record κ β) (key : κ) : Bool :=
  (get? es key).isSome

/-- The keys, in order. -/
def keys (es : Record κ β) : List κ :=
  es.map Prod.fst

/-- The record with a value put under a key: in its place if the key is present, at the end if
it is new. -/
def put : Record κ β → κ → β → Record κ β
  | [], key, value => [(key, value)]
  | (k, v) :: rest, key, value =>
    if k == key then (k, value) :: rest else (k, v) :: put rest key value

/-- The record of entries put one after another, so that the last value of a key counts and its
first place remains. -/
def ofList (es : List (κ × β)) : Record κ β :=
  es.foldl (fun acc e => put acc e.1 e.2) []

/-! ## Putting and looking up -/

@[simp] theorem get?_nil (key : κ) : get? ([] : Record κ β) key = none := rfl

theorem get?_cons (key k : κ) (v : β) (es : Record κ β) :
    get? ((k, v) :: es) key = if k == key then some v else get? es key := rfl

/-- A value that was put is found. -/
@[simp] theorem get?_put_self [ReflBEq κ] (key : κ) (value : β) (es : Record κ β) :
    get? (put es key value) key = some value := by
  induction es with
  | nil => simp [put, get?]
  | cons e es ih =>
    obtain ⟨k, v⟩ := e
    by_cases h : (k == key) = true
    · simp [put, get?, h]
    · simp [put, get?, h, ih]

/-- Putting a value leaves the other keys alone. -/
theorem get?_put_of_ne [PartialEquivBEq κ] {key other : κ} (h : (key == other) = false)
    (value : β) (es : Record κ β) : get? (put es key value) other = get? es other := by
  induction es with
  | nil => simp [put, get?, h]
  | cons e es ih =>
    obtain ⟨k, v⟩ := e
    by_cases hk : (k == key) = true
    · have : (k == other) = false := by rw [BEq.congr_left hk, h]
      simp [put, get?, hk, this]
    · simp [put, get?, hk, ih]

/-- A key is present exactly when it is among the keys. -/
theorem has_eq_any_keys (key : κ) (es : Record κ β) :
    has es key = (keys es).any (· == key) := by
  induction es with
  | nil => simp [has, keys]
  | cons e es ih =>
    obtain ⟨k, v⟩ := e
    by_cases hk : (k == key) = true
    · simp [has, get?, keys, hk]
    · simpa [has, get?, keys, hk] using ih

/-- Putting a value under a key that is present keeps the keys. -/
theorem keys_put_of_has {key : κ} {es : Record κ β} (h : has es key = true) (value : β) :
    keys (put es key value) = keys es := by
  induction es with
  | nil => simp [has] at h
  | cons e es ih =>
    obtain ⟨k, v⟩ := e
    by_cases hk : (k == key) = true
    · simp [put, keys, hk]
    · have : has es key = true := by simpa [has, get?, hk] using h
      simpa [put, keys, hk] using ih this

end Record

end Rulebook
