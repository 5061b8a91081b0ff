/-
  Rulebook.Value.Basic

  The values of a document: what a field of a rule, a setting or a stored list may hold.  A
  mapping keeps the order in which its entries were written.

  Two notions of equality live here.  `Value.same` decides equality of values as they are.
  `Value.alike` is the equality that conditions on fields use: numbers and flags compare by their
  numeric value, and the order of a mapping does not count.
-/
import Rulebook.Name
import Rulebook.Record

namespace Rulebook

open Decimal (Binary64)

/-- A value of a document. -/
inductive Value where
  | null
  | bool (b : Bool)
  | int (n : Int)
  | float (x : Binary64)
  | text (s : String)
  | list (items : List Value)
  | mapping (entries : List (Name × Value))
  /-- an object that no document can hold -/
  | foreign
deriving Repr, Inhabited

/-- The entries of a mapping, in the order in which they were written. -/
abbrev Entries := Record Name Value

namespace Value

instance : Coe String Value := ⟨.text⟩

/-! ## Names as values -/

/-- The name that a value is, unless it is a list or a mapping. -/
def name? : Value → Option Name
  | .null => some .null
  | .bool b => some (.bool b)
  | .int n => some (.int n)
  | .float x => some (.float x)
  | .text s => some (.text s)
  | .foreign => some .foreign
  | .list _ | .mapping _ => none

/-- A name as a value. -/
def ofName : Name → Value
  | .null => .null
  | .bool b => .bool b
  | .int n => .int n
  | .float x => .float x
  | .text s => .text s
  | .foreign => .foreign

/-! ## Equality of values as they are -/

mutual

/-- Whether two values are the same. -/
def same : Value → Value → Bool
  | .null, .null => true
  | .bool a, .bool b => a == b
  | .int a, .int b => a == b
  | .float a, .float b => decide (a = b)
  | .text a, .text b => a == b
  | .list a, .list b => sameItems a b
  | .mapping a, .mapping b => sameEntries a b
  | .foreign, .foreign => true
  | _, _ => false

/-- Whether two lists of values are the same. -/
def sameItems : List Value → List Value → Bool
  | [], [] => true
  | a :: as, b :: bs => same a b && sameItems as bs
  | _, _ => false

/-- Whether two lists of entries are the same. -/
def sameEntries : List (Name × Value) → List (Name × Value) → Bool
  | [], [] => true
  | (k, a) :: as, (l, b) :: bs => decide (k = l) && same a b && sameEntries as bs
  | _, _ => false

end

mutual

theorem same_iff : ∀ {a b : Value}, same a b = true ↔ a = b
  | .null, b => by cases b <;> simp [same]
  | .bool _, b => by cases b <;> simp [same]
  | .int _, b => by cases b <;> simp [same]
  | .float _, b => by cases b <;> simp [same]
  | .text _, b => by cases b <;> simp [same]
  | .list as, b => by cases b <;> simp [same, sameItems_iff]
  | .mapping as, b => by cases b <;> simp [same, sameEntries_iff]
  | .foreign, b => by cases b <;> simp [same]

theorem sameItems_iff : ∀ {as bs : List Value}, sameItems as bs = true ↔ as = bs
  | [], bs => by cases bs <;> simp [sameItems]
  | a :: as, bs => by cases bs <;> simp [sameItems, same_iff, sameItems_iff]

theorem sameEntries_iff :
    ∀ {as bs : List (Name × Value)}, sameEntries as bs = true ↔ as = bs
  | [], bs => by cases bs <;> simp [sameEntries]
  | (k, a) :: as, bs => by
    cases bs <;> simp [sameEntries, same_iff, sameEntries_iff, Prod.ext_iff]

end

instance : DecidableEq Value := fun _ _ => decidable_of_iff _ same_iff

/-! ## Truth -/

/-- Whether a value counts as given: absent values, false, zero and empty ones do not. -/
def truth : Value → Bool
  | .null => false
  | .bool b => b
  | .int n => n ≠ 0
  | .float x => !x.isZero
  | .text s => !s.isEmpty
  | .list items => !items.isEmpty
  | .mapping entries => !entries.isEmpty
  | .foreign => true

/-- The first value if it counts as given, the second one otherwise. -/
def orElse (a b : Value) : Value :=
  if a.truth then a else b

/-! ## Numbers and order -/

/-- A value seen as a number: flags count as zero and one. -/
inductive Number where
  | whole (n : Int)
  | floating (x : Binary64)
deriving DecidableEq, Repr

/-- The number that a value is. -/
def number? : Value → Option Number
  | .bool b => some (.whole b.toInt)
  | .int n => some (.whole n)
  | .float x => some (.floating x)
  | _ => none

/-- The order of two numbers, exactly, unless one of them is no number. -/
def Number.compare? : Number → Number → Option Ordering
  | .whole a, .whole b => some (compare a b)
  | .whole a, .floating y => Binary64.compareInt? a y
  | .floating x, .whole b => (Binary64.compareInt? b x).map Ordering.swap
  | .floating x, .floating y => Binary64.compare? x y

/-! ## Equality as conditions see it -/

/-- Whether two values that are neither lists nor mappings are alike. -/
def alikeScalar (a b : Value) : Bool :=
  match a.number?, b.number? with
  | some m, some n => Number.compare? m n == some .eq
  | none, none =>
    match a, b with
    | .null, .null => true
    | .text s, .text t => s == t
    | _, _ => false
  | _, _ => false

mutual

/-- Whether two values are alike: as numbers if both are numbers or flags, item by item if both
are lists, name by name in any order if both are mappings. -/
def alike : Value → Value → Bool
  | .list a, .list b => alikeItems a b
  | .mapping a, .mapping b => a.length == b.length && alikeEntries a b
  | a, b => alikeScalar a b

/-- Whether two lists have the same length and alike items. -/
def alikeItems : List Value → List Value → Bool
  | [], [] => true
  | a :: as, b :: bs => alike a b && alikeItems as bs
  | _, _ => false

/-- Whether each entry of the first mapping has an alike entry in the second. -/
def alikeEntries : List (Name × Value) → Entries → Bool
  | [], _ => true
  | (k, a) :: as, bs =>
    (match bs.get? k with
      | some b => alike a b
      | none => false) && alikeEntries as bs

end

/-- Whether one of the values is alike. -/
def isAmong (a : Value) (values : List Value) : Bool :=
  values.any (alike a)

end Value

end Rulebook
