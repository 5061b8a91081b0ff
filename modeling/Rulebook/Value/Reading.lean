/-
  Rulebook.Value.Reading

  Reading configuration out of values: the ways in which a value can be of the wrong shape, and
  the rule for flags.
-/
import Rulebook.Text.Blank
import Rulebook.Value.Text

namespace Rulebook

/-- Why a value could not be read, or shown. -/
inductive ReadingError where
  /-- a mapping was needed -/
  | notMapping
  /-- something with items was needed -/
  | notItems
  /-- a mapping lacks an entry -/
  | missing (name : Name)
  /-- a name that is not known was given a value -/
  | unknownMember (name : Name)
  /-- a value is none of the choices of a kind -/
  | unknownChoice (value : Value) (kind : String)
  /-- a normal rule was given the type of the sentinel -/
  | reservedType
  /-- a list or a mapping stands where a name is needed -/
  | notName
  /-- what a rule came with is too deep to be held -/
  | tooDeep
  /-- something stands where a text is needed -/
  | notText
  /-- a list or a mapping is to be printed -/
  | notPrintable
  /-- a text has marks that a terminal does not understand -/
  | strayMarks
deriving Repr, DecidableEq

namespace ReadingError

/-- What the error says. -/
def message : ReadingError → String
  | .notMapping => "a mapping is needed"
  | .notItems => "a list is needed"
  | .missing name => name.shown
  | .unknownMember name => "unknown member " ++ name.shown
  | .unknownChoice value kind => value.literal ++ " is not a valid " ++ kind
  | .notName => "a list or a mapping is no name"
  | .tooDeep => "maximum depth of a rule exceeded"
  | .reservedType => "Normal rules cannot use the FINAL rule type"
  | .notText => "a text is needed"
  | .notPrintable => "a list or a mapping cannot be printed"
  | .strayMarks => "a text has marks that cannot be printed"

end ReadingError

namespace Value

/-- The texts that switch a flag on. -/
def onWords : List String := ["true", "1", "yes", "on"]

/-- A flag from a document or the environment: a text counts as on if it is one of four words,
in letters of any case and between any blanks; any other value by its truth.  No letter beyond
ASCII has a small form among the letters of these words. -/
def flag : Value → Bool
  | .text s => onWords.contains (Text.lowerAscii (Text.trim s))
  | v => v.truth

/-- The entries of a mapping. -/
def entries? : Value → Except ReadingError Entries
  | .mapping entries => .ok entries
  | _ => .error .notMapping

/-- The items of a value one by one: of a list its items, of a text its characters, of a mapping
its names. -/
def items? : Value → Except ReadingError (List Value)
  | .list items => .ok items
  | .text s => .ok ((Text.points s.toList).map fun n => .text (String.ofList (Text.charsOfPoint n)))
  | .mapping entries => .ok (entries.map fun e => .ofName e.1)
  | _ => .error .notItems

/-- A value as a name. -/
def asName (v : Value) : Except ReadingError Name :=
  match v.name? with
  | some name => .ok name
  | none => .error .notName

end Value

namespace Record

/-- The value under the first of two names if that is present, else under the second, else
`default`. -/
def getEither (es : Entries) (first second : Name) (default : Value) : Value :=
  match es.get? first with
  | some v => v
  | none => (es.get? second).getD default

/-- The value under a name, which has to be there. -/
def need (es : Entries) (name : Name) : Except ReadingError Value :=
  match es.get? name with
  | some v => .ok v
  | none => .error (.missing name)

end Record

end Rulebook
