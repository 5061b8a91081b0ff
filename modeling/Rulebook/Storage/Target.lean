/-
  Rulebook.Storage.Target

  What the name of a database stands for.  A name is the path of a file, unless it is that of a
  database that nobody keeps.  Behind `file:` a name may be written by number, and options behind a
  question mark say how the file is opened.
-/
import Rulebook.Storage.LoadError
import Rulebook.Text.Digits
import Rulebook.Url.Unescape

namespace Rulebook.Storage

/-! ## How a database is opened -/

/-- What a database is opened for. -/
inductive Access where
  /-- for reading -/
  | reading
  /-- for reading and writing -/
  | writing
  /-- for reading and writing, and it is made if there is none -/
  | making
deriving DecidableEq, Repr

/-- How much an access allows. -/
def Access.rank : Access → Nat
  | .reading => 0
  | .writing => 1
  | .making => 2

/-- How others are kept from a database. -/
inductive Keeper where
  /-- parts of its file are locked while they are in use -/
  | parts
  /-- its file is locked until it is closed -/
  | whole
  /-- a lock stands beside its file -/
  | beside
  /-- not at all -/
  | nobody
deriving DecidableEq, Repr

/-- How a database is opened. -/
structure Opening where
  access : Access := .making
  keeper : Keeper := .parts
  /-- whether no locks are set, whoever is the keeper -/
  unlocked : Bool := false
  /-- whether nobody changes the file, so that it can be read without a look at anything beside
  it -/
  immutable : Bool := false
  /-- the file whose rights a new one gets, if one is named -/
  model : Option (List Char) := none
  /-- the spots that are looked at on the way to the file -/
  way : List Spot := []
deriving DecidableEq, Repr

namespace Opening

/-- Whether a database can be changed. -/
def writes (o : Opening) : Bool :=
  o.access ≠ .reading && !o.immutable

/-- Whether a lock is set beside the file. -/
def locksBeside (o : Opening) : Bool :=
  o.keeper = .beside && !o.unlocked

/-- Whether a log can be used. -/
def mayLog (o : Opening) : Bool :=
  (o.keeper = .parts || o.keeper = .whole) && !o.unlocked

/-- How a database is opened once more: its rights are as they are, and the way to it is known. -/
def again (o : Opening) : Opening :=
  { o with model := none, way := [] }

end Opening

/-! ## Targets -/

/-- What a text names. -/
inductive Target where
  /-- a database that nobody keeps -/
  | transient
  /-- the database at a spot -/
  | stored (spot : Spot) (opening : Opening)
  /-- nothing that can be opened -/
  | refused (error : LoadError)
deriving DecidableEq, Repr

namespace Target

/-- The name that stands for a database that nobody keeps. -/
def transientName : String := ":memory:"

/-- What a name stands for.  Two dots take back the part in front of them, whatever it is. -/
def ofName (name : List Char) (o : Opening) : Target :=
  if name = [] || name = transientName.toList then
    if o.access = .reading then .refused .notOpened else .transient
  else .stored (.ofPath (.ofChars name)) o

/-- What a name stands for if its parts are followed one after the other. -/
def followed (name : List Char) (o : Opening) : Target :=
  ofName name { o with way := Spot.way (.ofChars name) }

end Target

/-! ## Options behind `file:` -/

/-- Names and values, in the order in which they are written.  Of several values of a name the
first one counts where nothing else is said. -/
abbrev Modes := List (String × String)

namespace Modes

/-- A part of a text; a null character that is written by number ends it. -/
def part (cs : List Char) : String :=
  .ofList (Text.keepBroken ((Url.bytesOf cs).takeWhile (· ≠ 0)))

/-- The options that characters write, with ampersands between them.  An option without a value has
an empty one, and one without a name is none. -/
def ofChars (cs : List Char) : Modes :=
  (Url.splitAt '&' cs).filterMap fun cs =>
    let (name, value) := Text.splitAtFirst (· = '=') cs
    if part name = "" then none else some (part name, part (value.getD []))

/-- The whole number that characters start with: a decimal one, or behind `0x` a hexadecimal one.
It is zero if it has more than 31 bits. -/
def leadingNumber (cs : List Char) : Nat :=
  let value (base : Nat) (digits : List Char) :=
    digits.foldl (fun n c => base * n + (Json.hexValue? c).getD 0) 0
  let isHex (c : Char) := (Json.hexValue? c).isSome
  let n := match cs with
    | '0' :: 'x' :: c :: rest | '0' :: 'X' :: c :: rest =>
      if isHex c then value 16 ((c :: rest).takeWhile isHex) else 0
    | cs => value 10 (cs.takeWhile Char.isDigit)
  if n < Decimal.twoTo 31 then n else 0

/-- The words that switch an option on. -/
def onWords : List String := ["on", "yes", "true"]

/-- Whether an option is on: it has a word for that or a number whose last byte is not zero. -/
def isOn (m : Modes) (name : String) : Bool :=
  match m.lookup name with
  | none => false
  | some value =>
    if value.toList.head?.any Char.isDigit then leadingNumber value.toList % 0x100 ≠ 0
    else onWords.contains value.toLower

/-- What a database is to be opened for; one that is kept in memory is opened for nothing else. -/
abbrev Aim := Option Access

/-- The aims that have a name. -/
def aims : List (String × Aim) :=
  [("ro", some .reading), ("rw", some .writing), ("rwc", some .making), ("memory", none)]

/-- Whether an aim may take the place of another one: it must not allow more. -/
def mayFollow : Aim → Aim → Bool
  | some old, some new => new.rank ≤ old.rank
  | _, _ => true

/-- The aim that an option leads to from the one before, if the option is right. -/
def nextAim? (aim : Aim) : String × String → Option Aim
  | ("mode", value) => do
    let new ← aims.lookup value
    if mayFollow aim new then some new else none
  | ("cache", value) => if ["shared", "private"].contains value then some aim else none
  | _ => some aim

/-- The aim that all options together lead to, unless one of them is wrong. -/
def aim? (m : Modes) : Option Aim :=
  m.foldlM nextAim? (some .making)

/-- The keepers that have a name, and the one that keeps all in memory. -/
def keepers : List (String × Option Keeper) :=
  [("unix", some .parts), ("unix-excl", some .whole), ("unix-dotfile", some .beside),
    ("unix-none", some .nobody), ("memdb", none)]

/-- The keeper that is asked for last, if its name is known. -/
def keeper? (m : Modes) : Option (Option Keeper) :=
  match m.reverse.lookup "vfs" with
  | none => some (some .parts)
  | some name => keepers.lookup name

end Modes

/-! ## Texts -/

namespace Target

/-- What a text starts with behind which a name may be written by number. -/
def scheme : String := "file:"

/-- How many bytes the name of a database may have that is kept in memory. -/
def maxTransientSize : Nat := 1016

/-- What a text names. -/
def ofText (text : List Char) : Target :=
  if text.contains '\x00' then .refused (.path .null)
  else if !scheme.toList.isPrefixOf text then followed text {}
  else
    let body := (text.drop scheme.length).takeWhile (· ≠ '#')
    let (front, back) := Text.splitAtFirst (· = '?') body
    let name := Modes.part front
    let modes := Modes.ofChars (back.getD [])
    match modes.aim?, modes.keeper? with
    | some none, some _ => .transient
    | some (some access), some keeper =>
      let target := followed name.toList {
        access, keeper := keeper.getD .nobody
        unlocked := modes.isOn "nolock"
        immutable := modes.isOn "immutable"
        model := (modes.lookup "modeof").map String.toList }
      match target, keeper with
      | .stored _ o, none =>
        if o.writes && (Text.utf8 name).length ≤ maxTransientSize then .transient
        else .refused .notOpened
      | target, _ => target
    | _, _ => .refused .notOpened

end Target

end Rulebook.Storage
