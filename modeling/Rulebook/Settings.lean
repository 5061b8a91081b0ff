/-
  Rulebook.Settings

  The settings of an editor and the three ways to give them: by the names that documents use, by
  the names that the settings have here, and by variables of the environment.
-/
import Rulebook.Book
import Rulebook.Row

namespace Rulebook

/-- The settings of an editor. -/
structure Settings where
  /-- whether the list ends with a sentinel -/
  hasFinal : Bool := true
  may : Permissions := {}
  /-- where new rules go -/
  placement : Placement := .beforeFinal
  /-- the key under which the list is stored -/
  ruleKey : Value := .text "rules"
  saveUrl : Value := .null
  loadUrl : Value := .null
  /-- the description of a sentinel that nobody wrote -/
  finalDescription : Value := Rule.defaultFinalDescription
  /-- whether a wrong position is an error -/
  debug : Bool := false
deriving DecidableEq, Repr

namespace Settings

/-- The settings by name. -/
inductive Key where
  | hasFinalRule
  | allowMove
  | allowDelete
  | allowToggle
  | debug
  | insertionPolicy
  | ruleKey
  | saveUrl
  | loadUrl
  | finalDescription
deriving DecidableEq, Repr

namespace Key

/-- All settings, in the order in which the environment is read. -/
def all : List Key :=
  [hasFinalRule, allowMove, allowDelete, allowToggle, debug, insertionPolicy, ruleKey, saveUrl,
    loadUrl, finalDescription]

/-- The name of a setting in a document. -/
def documentName : Key → String
  | hasFinalRule => "hasFinalRule"
  | allowMove => "allowMove"
  | allowDelete => "allowDelete"
  | allowToggle => "allowToggle"
  | debug => "debug"
  | insertionPolicy => "insertionPolicy"
  | ruleKey => "ruleKey"
  | saveUrl => "saveUrl"
  | loadUrl => "loadUrl"
  | finalDescription => "finalDescription"

/-- The other name that a document may use. -/
def plainName : Key → String
  | hasFinalRule => "has_final_rule"
  | allowMove => "allow_move"
  | allowDelete => "allow_delete"
  | allowToggle => "allow_toggle"
  | debug => "debug"
  | insertionPolicy => "insertion_policy"
  | ruleKey => "rule_key"
  | saveUrl => "save_url"
  | loadUrl => "load_url"
  | finalDescription => "final_description"

/-- The variable of the environment that gives a setting. -/
def variableName : Key → String
  | hasFinalRule => "RULELIST_HAS_FINAL_RULE"
  | allowMove => "RULELIST_ALLOW_MOVE"
  | allowDelete => "RULELIST_ALLOW_DELETE"
  | allowToggle => "RULELIST_ALLOW_TOGGLE"
  | debug => "RULELIST_DEBUG"
  | insertionPolicy => "RULELIST_INSERTION_POLICY"
  | ruleKey => "RULELIST_RULE_KEY"
  | saveUrl => "RULELIST_SAVE_URL"
  | loadUrl => "RULELIST_LOAD_URL"
  | finalDescription => "RULELIST_FINAL_DESCRIPTION"

/-- The setting that a document names. -/
def ofName? (name : Name) : Option Key :=
  all.find? fun k => name = .text k.documentName || name = .text k.plainName

/-- Whether a setting is a flag. -/
def isFlag : Key → Bool
  | hasFinalRule | allowMove | allowDelete | allowToggle | debug => true
  | _ => false

end Key

/-- The settings with one of them given. -/
def set (s : Settings) (k : Key) (v : Value) : Except ReadingError Settings :=
  match k with
  | .hasFinalRule => .ok { s with hasFinal := v.flag }
  | .allowMove => .ok { s with may := { s.may with move := v.flag } }
  | .allowDelete => .ok { s with may := { s.may with delete := v.flag } }
  | .allowToggle => .ok { s with may := { s.may with toggle := v.flag } }
  | .debug => .ok { s with debug := v.flag }
  | .insertionPolicy => do return { s with placement := ← Placement.ofValue? v }
  | .ruleKey => .ok { s with ruleKey := v }
  | .saveUrl => .ok { s with saveUrl := v }
  | .loadUrl => .ok { s with loadUrl := v }
  | .finalDescription => .ok { s with finalDescription := v }

/-- The settings with one entry of a document read into them; an unknown name is ignored. -/
def readEntry (s : Settings) (e : Name × Value) : Except ReadingError Settings :=
  match Key.ofName? e.1 with
  | some k => s.set k e.2
  | none => .ok s

/-- The settings that the entries of a document give, one after another. -/
def ofEntries (es : Entries) : Except ReadingError Settings :=
  es.foldlM readEntry {}

/-- The settings that a document gives. -/
def ofValue (v : Value) : Except ReadingError Settings := do
  ofEntries (← v.entries?)

/-- The settings with one variable of the environment read into them.  A flag counts if it is
there; any other setting if it is not empty. -/
def readVariable (environment : Record String String) (s : Settings) (k : Key) :
    Except ReadingError Settings :=
  match environment.get? k.variableName with
  | none => .ok s
  | some text => if k.isFlag || !text.isEmpty then s.set k (.text text) else .ok s

/-- The settings that the environment gives. -/
def ofEnvironment (environment : Record String String) : Except ReadingError Settings :=
  Key.all.foldlM (readVariable environment) {}

/-- The entries that write settings. -/
def toEntries (s : Settings) : Entries := [
  ("hasFinalRule", .bool s.hasFinal),
  ("allowMove", .bool s.may.move),
  ("allowDelete", .bool s.may.delete),
  ("allowToggle", .bool s.may.toggle),
  ("insertionPolicy", .text s.placement.name),
  ("ruleKey", s.ruleKey),
  ("saveUrl", s.saveUrl),
  ("loadUrl", s.loadUrl),
  ("finalDescription", s.finalDescription),
  ("debug", .bool s.debug)]

/-- A book over a raw list, kept as the settings say. -/
def book (s : Settings) (rules : List Rule) : Book :=
  Book.new rules s.hasFinal s.placement s.finalDescription

end Settings

end Rulebook
