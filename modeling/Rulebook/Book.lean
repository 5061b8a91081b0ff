/-
  Rulebook.Book

  The ordered list of rules that is being edited.  In a book with a sentinel, exactly one rule is
  the sentinel and it is the last one.  Every operation either answers with the new book or
  refuses and says why; the book is a value, so a refused operation has changed nothing.
-/
import Rulebook.Arrangement
import Rulebook.Rule.Wire

namespace Rulebook

/-- Where a new rule goes: in front of the sentinel, or to the top. -/
inductive Placement where
  | beforeFinal
  | atHead
deriving DecidableEq, Repr, Inhabited

namespace Placement

/-- The name of a placement. -/
def name : Placement → String
  | .beforeFinal => "beforeFinal"
  | .atHead => "atHead"

/-- The placement with the name that a value is. -/
def ofValue? : Value → Except ReadingError Placement
  | .text "beforeFinal" => .ok .beforeFinal
  | .text "atHead" => .ok .atHead
  | v => .error (.unknownChoice v "InsertionPolicy")

end Placement

/-- A list of rules, and how it is kept. -/
structure Book where
  rules : List Rule
  hasFinal : Bool := true
  placement : Placement := .beforeFinal
  finalDescription : Value := Rule.defaultFinalDescription
deriving DecidableEq, Repr

namespace Book

/-! ## Refusals -/

/-- The operations that the sentinel is protected from. -/
inductive Operation where
  | insert
  | delete
  | toggle
deriving DecidableEq, Repr

/-- The name of an operation. -/
def Operation.name : Operation → String
  | .insert => "insert"
  | .delete => "delete"
  | .toggle => "toggle"

/-- Why an operation is refused. -/
inductive Error where
  /-- there is no rule at the position -/
  | outOfRange (index : Int)
  /-- the rule at the position is of the other kind -/
  | otherKind (index : Int) (stored given : Kind)
  /-- the sentinel is protected from the operation -/
  | sentinel (index : Int) (operation : Operation)
deriving DecidableEq, Repr

namespace Error

/-- The position that an error is about. -/
def index : Error → Int
  | .outOfRange i => i
  | .otherKind i _ _ => i
  | .sentinel i _ => i

/-- Whether an error is about a position and not about the sentinel's protection. -/
def isIndex : Error → Bool
  | .sentinel .. => false
  | _ => true

/-- What an error says. -/
def message : Error → String
  | .outOfRange i => "Invalid rule index " ++ toString i ++ ": index out of range"
  | .otherKind i stored given =>
    "Invalid rule index " ++ toString i ++ ": cannot replace a " ++ stored.name ++
      " rule with a " ++ given.name ++ " rule"
  | .sentinel i operation =>
    "FINAL rule cannot be subject to '" ++ operation.name ++ "' (index " ++ toString i ++ ")"

end Error

/-! ## Putting a raw list in order -/

/-- A list with its sentinel at the end: the first sentinel of the list if there is one, a new one
otherwise. -/
def withSentinel (description : Value) (rules : List Rule) : List Rule :=
  rules.filter (fun r => !r.isFinal) ++
    [(rules.find? Rule.isFinal).getD (Rule.fallback description)]

/-- A raw list as a book keeps it. -/
def normalise (hasFinal : Bool) (description : Value) (rules : List Rule) : List Rule :=
  if hasFinal then withSentinel description rules else rules

/-- The book with its list replaced by a raw one. -/
def initialise (b : Book) (rules : List Rule) : Book :=
  { b with rules := normalise b.hasFinal b.finalDescription rules }

/-- A book over a raw list. -/
def new (rules : List Rule) (hasFinal : Bool := true) (placement : Placement := .beforeFinal)
    (finalDescription : Value := Rule.defaultFinalDescription) : Book :=
  { rules := normalise hasFinal finalDescription rules, hasFinal, placement, finalDescription }

/-! ## Looking -/

/-- How many rules there are. -/
def size (b : Book) : Nat :=
  b.rules.length

/-- Whether the rule at a position is the sentinel. -/
def isFinalAt (b : Book) (i : Int) : Bool :=
  Arrangement.isFixedAt Rule.isFinal b.rules i

/-- The rule at a position. -/
def get (b : Book) (i : Int) : Except Error Rule :=
  match Arrangement.at? b.rules i with
  | some r => .ok r
  | none => .error (.outOfRange i)

/-- The value that stores the list under a key. -/
def toValue (b : Book) (key : Name) : Value :=
  .mapping [(key, .list (b.rules.map Rule.toValue))]

/-! ## Changing -/

/-- The book with another list. -/
def withRules (b : Book) (rules : List Rule) : Book :=
  { b with rules }

/-- Where a new rule goes under a placement. -/
def insertionIndex (b : Book) (placement : Placement) : Nat :=
  match placement with
  | .atHead => 0
  | .beforeFinal =>
    if b.hasFinal && Arrangement.endsFixed Rule.isFinal b.rules then b.rules.length - 1
    else b.rules.length

/-- Adds a normal rule where the placement says, by default the book's own. -/
def insert (b : Book) (r : Rule) (placement : Option Placement := none) :
    Except Error (Book × Nat) :=
  if r.isFinal then .error (.sentinel (-1) .insert)
  else
    let i := b.insertionIndex (placement.getD b.placement)
    .ok (b.withRules (b.rules.insertIdx i r), i)

/-- Puts a normal rule at a position, which may be the one after the last. -/
def insertAt (b : Book) (i : Int) (r : Rule) : Except Error Book :=
  if r.isFinal then .error (.sentinel i .insert)
  else if 0 ≤ i && i ≤ b.rules.length then .ok (b.withRules (b.rules.insertIdx i.toNat r))
  else .error (.outOfRange i)

/-- Puts a rule in the place of one of its kind, which is the answer. -/
def replace (b : Book) (i : Int) (r : Rule) : Except Error (Book × Rule) := do
  let previous ← b.get i
  if previous.kind = r.kind then return (b.withRules (b.rules.set i.toNat r), previous)
  else throw (.otherKind i previous.kind r.kind)

/-- Takes a normal rule out; it is the answer. -/
def delete (b : Book) (i : Int) : Except Error (Book × Rule) := do
  let r ← b.get i
  if r.isFinal then throw (.sentinel i .delete)
  else return (b.withRules (b.rules.eraseIdx i.toNat), r)

/-- Moves a rule one place up, if it can be. -/
def moveUp? (b : Book) (i : Int) : Option Book :=
  if Arrangement.canMoveUp Rule.isFinal b.rules i then
    some (b.withRules (Arrangement.moveUp Rule.isFinal b.rules i))
  else none

/-- Moves a rule one place down, if it can be. -/
def moveDown? (b : Book) (i : Int) : Option Book :=
  if Arrangement.canMoveDown Rule.isFinal b.rules i then
    some (b.withRules (Arrangement.moveDown Rule.isFinal b.rules i))
  else none

/-- Drops a rule on another one.  The answer is where it landed, unless that is where it was. -/
def relocate? (b : Book) (source target : Int) (after : Bool) : Option (Book × Nat) :=
  match Arrangement.landing? Rule.isFinal b.rules source target after with
  | none => none
  | some k =>
    if (k : Int) = source then none
    else
      some (b.withRules (Arrangement.relocate Rule.isFinal b.rules source target after), k)

/-- Sets the flag of a normal rule; its previous flag is the answer. -/
def toggle (b : Book) (i : Int) (value : Value) : Except Error (Book × Value) := do
  let r ← b.get i
  if r.isFinal then throw (.sentinel i .toggle)
  else return (b.withRules (b.rules.set i.toNat (r.withFlag value)), r.enabled)

end Book

end Rulebook
