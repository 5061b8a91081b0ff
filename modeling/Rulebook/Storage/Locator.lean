/-
  Rulebook.Storage.Locator

  How a text names a database.  In front of the first question mark stands its name; behind it
  stand options, of which most do not matter here.  If the option `uri` is on, the name and the
  options that are left over are read once more.
-/
import Rulebook.Decimal.Parser
import Rulebook.Record
import Rulebook.Storage.Target
import Rulebook.Text.Small

namespace Rulebook.Storage

/-! ## Options -/

/-- Why the options of a database are wrong. -/
inductive OptionError where
  /-- an option that is on or off has another value -/
  | notFlag (value : String)
  /-- an option that is a number has another value -/
  | notNumber (value : String)
  /-- an option that is a whole number has another value -/
  | notWhole (value : String)
  /-- an option that is a whole number has a value of too many digits -/
  | tooLong (digits : Nat)
  /-- an option that is a number has several values -/
  | repeated
  /-- an extension is asked for, and there are none -/
  | extension
deriving DecidableEq, Repr

/-- What the error says. -/
def OptionError.message : OptionError → String
  | .notFlag value => "String is not true/false: " ++ Text.quoted value
  | .notNumber value => "could not convert string to float: " ++ Text.quoted value
  | .notWhole value =>
    "invalid literal for int() with base 10: " ++
      String.ofList ((Text.quoted value).toList.take 200)
  | .tooLong digits => Text.tooManyDigits digits
  | .repeated => "a number is needed once"
  | .extension => "there are no extensions"

/-- The values of options, in the order in which the options are first named. -/
abbrev Options := Record String (List String)

namespace Options

/-- An option and its value, as they are written, if there is a value. -/
def readPair? (cs : List Char) : Option (String × String) :=
  let decoded (cs : List Char) : String :=
    String.ofList (Url.unescaped (cs.map fun c => if c = '+' then ' ' else c))
  match Text.splitAtFirst (· = '=') cs with
  | (_, none) | (_, some []) => none
  | (name, some value) => some (decoded name, decoded value)

/-- The options that characters write, with ampersands between them. -/
def ofChars (cs : List Char) : Options :=
  ((Url.splitAt '&' cs).filterMap readPair?).foldl
    (fun options (name, value) => options.put name ((options.get? name).getD [] ++ [value])) []

/-- The words that switch an option on. -/
def onWords : List String := ["true", "yes", "on", "y", "t", "1"]

/-- The words that switch an option off. -/
def offWords : List String := ["false", "no", "off", "n", "f", "0"]

/-- Whether an option is on.  Several values count as on. -/
def flag (options : Options) (name : String) : Except OptionError Bool :=
  match options.get? name with
  | none => .ok false
  | some [value] =>
    let word := Text.small (Text.trim value)
    if onWords.contains word then .ok true
    else if offWords.contains word then .ok false
    else .error (.notFlag word)
  | some _ => .ok true

/-- The value of an option that is a number, if it has one. -/
def number? (options : Options) (name : String) {α : Type} (read : String → Except OptionError α) :
    Except OptionError (Option α) :=
  match options.get? name with
  | none => .ok none
  | some [value] => (read value).map some
  | some _ => .error .repeated

/-- Reads a floating-point number. -/
def readNumber (s : String) : Except OptionError Decimal.Binary64 :=
  match Decimal.read? s with
  | some x => .ok x
  | none => .error (.notNumber s)

/-- Reads a whole number. -/
def readWhole (s : String) : Except OptionError Int :=
  match Text.readInt? s, Text.overlong? s with
  | some n, _ => .ok n
  | none, some digits => .error (.tooLong digits)
  | none, none => .error (.notWhole s)

/-- Whether a whole number has more than 32 bits. -/
def isWide (n : Int) : Bool :=
  n < -(Decimal.twoTo 31 : Int) || (Decimal.twoTo 31 : Int) ≤ n

/-- What the options say that are settled once they have been read. -/
structure Settled where
  /-- whether the name is to be read once more -/
  again : Bool
  /-- why no database can be opened, if that is so -/
  obstacle : Option LoadError := none
deriving DecidableEq, Repr

/-- The options that are settled once they have been read. -/
def settledNames : List String :=
  ["plugin", "plugins", "uri", "timeout", "isolation_level", "detect_types", "check_same_thread",
    "cached_statements"]

/-- Reads the options that are settled then.  An isolation that is said once does not count. -/
def settle (options : Options) : Except OptionError Settled := do
  if (options.get? "plugin").isSome then throw .extension
  let again ← options.flag "uri"
  let _ ← options.number? "timeout" readNumber
  let kinds ← options.number? "detect_types" readWhole
  let _ ← options.flag "check_same_thread"
  let statements ← options.number? "cached_statements" readWhole
  let obstacle :=
    if kinds.any isWide then some .wideOption
    else if (options.get? "isolation_level").any (1 < ·.length) then some .isolation
    else if statements.any isWide then some .wideOption
    else none
  return { again, obstacle }

/-- The values of an option as one text. -/
def shown : List String → String
  | [value] => value
  | values => "(" ++ ", ".intercalate (values.map Text.quoted) ++ ")"

/-- The options that are left over, as they are written behind a name: in the order of their
names. -/
def leftText (options : Options) : String :=
  let left := options.filter fun o => !settledNames.contains o.1
  let sorted := left.mergeSort fun a b => a.1 ≤ b.1
  if sorted = [] then ""
  else "?" ++ "&".intercalate (sorted.map fun (name, values) => name ++ "=" ++ shown values)

end Options

/-! ## Locators -/

/-- A name and options. -/
structure Locator where
  name : List Char
  options : Options := []
deriving DecidableEq, Repr

namespace Locator

/-- The name and the options that a text gives.  Options end with the line. -/
def ofText (text : String) : Locator :=
  match Text.splitAtFirst (· = '?') text.toList with
  | (name, none) => { name }
  | (name, some back) => { name, options := .ofChars (back.takeWhile (· ≠ '\n')) }

/-- What a locator names. -/
def target (l : Locator) : Except OptionError Target := do
  let settled ← l.options.settle
  match settled.obstacle with
  | some error => return .refused error
  | none =>
    if settled.again then return .ofText (l.name ++ l.options.leftText.toList)
    else return .ofName l.name {}

end Locator

end Rulebook.Storage
