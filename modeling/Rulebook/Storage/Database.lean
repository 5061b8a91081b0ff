/-
  Rulebook.Storage.Database

  A database whose one table holds lists by name, each as the JSON text of its payload.  Several
  connections share a database; each remembers whether it has made the table.

  The table knows lists by the texts of their names: numbers are shown to fifteen digits, and what
  is absent or no number names no list at all.
-/
import Rulebook.Decimal.Extended
import Rulebook.Json.Printer
import Rulebook.Storage.LoadError

namespace Rulebook.Storage

/-- A database: the texts by the name of their list, if the table has been made. -/
structure Database where
  table : Option (Record String String) := none
deriving DecidableEq, Repr

namespace Database

/-- The database with its table, which is made if it is missing. -/
def withTable (d : Database) : Database :=
  match d.table with
  | some _ => d
  | none => { table := some [] }

/-- Puts the text of a list into the table, if there is one. -/
def write? (d : Database) (name text : String) : Option Database :=
  d.table.map fun rows => { table := some (rows.put name text) }

/-- The text of a list, if it has one. -/
def read (d : Database) (name : String) : Except LoadError (Option String) :=
  match d.table with
  | none => .error .noTable
  | some rows => .ok (rows.get? name)

/-- How the table shows numbers. -/
def numberStyle : Decimal.Style := { wholeDigits := 15, placeBeforeExponent := true }

/-- The name under which the table knows a list, if it knows it at all. -/
def listName : Value → Except ListNameError (Option String)
  | .text s => if Text.hasBytes s then .ok (some s) else .error .noBytes
  | .null => .ok none
  | .bool b => .ok (some (toString b.toInt))
  | .int n =>
    if -(Decimal.twoTo 63 : Int) ≤ n ∧ n < Decimal.twoTo 63 then .ok (some (toString n))
    else .error .tooLarge
  | .float x =>
    .ok (if x.reading = .nan then none
      else some (x.roundedText numberStyle ⟨"", "Inf"⟩ 15))
  | .list _ | .mapping _ | .foreign => .error .notScalar

end Database

/-- A connection to a database, for one list. -/
structure Connection where
  name : Value
  /-- whether this connection has made the table -/
  prepared : Bool := false
deriving DecidableEq, Repr

namespace Connection

/-- Makes the table, the first time. -/
def prepare (c : Connection) (d : Database) : Connection × Database :=
  if c.prepared then (c, d) else ({ c with prepared := true }, d.withTable)

/-- The database with a text under the name of the list, if it can be put there. -/
def store? (c : Connection) (d : Database) (text : String) : Option Database :=
  if Text.hasBytes text then
    match Database.listName c.name with
    | .error _ => none
    | .ok none => d.table.map fun _ => d
    | .ok (some name) => d.write? name text
  else none

/-- How a payload is written for a database: its text is put into bytes when it is complete. -/
def writer : Json.Writer := { layout := .line }

/-- What comes of a save. -/
inductive Outcome where
  | saved
  /-- the payload was not saved, and the save says so -/
  | failed
  /-- the payload is too deep, and the save breaks off -/
  | tooDeep
deriving DecidableEq, Repr

/-- Whether a payload was saved. -/
def Outcome.isSaved (outcome : Outcome) : Bool :=
  outcome == .saved

instance : Coe Outcome Bool := ⟨Outcome.isSaved⟩

/-- Saves a payload. -/
def save (c : Connection) (d : Database) (payload : Value) : Connection × Database × Outcome :=
  let (c, d) := c.prepare d
  match Json.print writer payload with
  | .error .tooDeep => (c, d, .tooDeep)
  | .error _ => (c, d, .failed)
  | .ok text =>
    match c.store? d text with
    | none => (c, d, .failed)
    | some d => (c, d, .saved)

/-- The text of the list, if it has one. -/
def text (c : Connection) (d : Database) : Except LoadError (Option String) := do
  match ← (Database.listName c.name).mapError .name with
  | none => return none
  | some name => d.read name

/-- The payload that was saved, if there is one. -/
def load (c : Connection) (d : Database) :
    Connection × Database × Except LoadError (Option Value) :=
  let (c, d) := c.prepare d
  (c, d, do
    match ← c.text d with
    | none => return none
    | some text => return some (← (Json.parse text).mapError .document))

end Connection

end Rulebook.Storage
