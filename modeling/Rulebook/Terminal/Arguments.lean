/-
  Rulebook.Terminal.Arguments

  The command line of the editor: where the list is kept, and what is to be done with it.
-/
import Rulebook.Storage.Path
import Rulebook.Terminal.Grammar
import Rulebook.Value.Basic

namespace Rulebook.Terminal

open Storage

/-! ## What a command line says -/

/-- What a command line says of something that need not be said. -/
inductive Said (α : Type) where
  | nothing
  /-- it is named without a value -/
  | blank
  | value (a : α)
deriving DecidableEq, Repr

namespace Said

variable {α : Type}

/-- The value that is said. -/
def value? : Said α → Option α
  | .value a => some a
  | _ => none

/-- Something said, with another value. -/
def map {β : Type} (f : α → β) : Said α → Said β
  | .nothing => .nothing
  | .blank => .blank
  | .value a => .value (f a)

/-- What is said, as a value of a field: an empty list if it is blank. -/
def field? : Said String → Option Value
  | .nothing => none
  | .blank => some (.list [])
  | .value s => some (.text s)

end Said

/-- The fields of a rule that a command line gives. -/
structure RuleOptions where
  ruleType : Said String := .nothing
  matchValue : Said String := .nothing
  action : Said String := .nothing
  header : Said String := .nothing
  rewrite : Said String := .nothing
  description : Said String := .nothing
deriving DecidableEq, Repr

/-- The names of the options that give fields, with the names of the fields. -/
def RuleOptions.fields (o : RuleOptions) : List (String × String × Said String) := [
  ("type", "type", o.ruleType),
  ("match", "match_value", o.matchValue),
  ("action", "action", o.action),
  ("header", "rewrite_header", o.header),
  ("rewrite", "rewrite_value", o.rewrite),
  ("description", "description", o.description)]

/-- The fields that are given, by name. -/
def RuleOptions.values (o : RuleOptions) : Entries :=
  o.fields.filterMap fun (_, name, said) => said.field?.map fun v => (.text name, v)

/-- What is to be done.  Positions count from one; the last operand may be left blank. -/
inductive Verb where
  | list
  | add (fields : RuleOptions)
  | edit (position : Int) (fields : RuleOptions)
  | delete (position : Int) (unasked : Bool)
  | up (position : Int)
  | down (position : Int)
  | move (source : Int) (target : Option Int) (after : Bool)
  | toggle (position : Int) (enabled : Option Bool)
deriving DecidableEq, Repr

/-- The name of what is to be done. -/
def Verb.name : Verb → String
  | .list => "list"
  | .add _ => "add"
  | .edit .. => "edit"
  | .delete .. => "delete"
  | .up _ => "up"
  | .down _ => "down"
  | .move .. => "move"
  | .toggle .. => "toggle"

/-- The fields that are given for a rule. -/
def Verb.values : Verb → Entries
  | .add o | .edit _ o => o.values
  | _ => []

/-- A command line. -/
structure Arguments where
  /-- the file that holds the list, unless it is left blank -/
  file : Option Path
  database : Said Path := .nothing
  url : Said String := .nothing
  loadUrl : Said String := .nothing
  config : Said Path := .nothing
  verbose : Bool := false
  verb : Verb
deriving DecidableEq, Repr

/-! ## The grammar -/

/-- The flag that asks for help. -/
def helpFlag : Flag := { key := "help", names := ["-h", "--help"], use := .help }

/-- A flag with a value. -/
def valueFlag (key name : String) : Flag := { key, names := [name], use := .value }

/-- A position in the list. -/
def positionOperand (key : String) : Operand :=
  .one key fun text => (Text.readInt? text).isSome

/-- The words that switch a rule on and off. -/
def stateWords : List String := ["on", "off"]

/-- The flags that give the fields of a rule. -/
def ruleFlags : List Flag := [
  valueFlag "type" "--type", valueFlag "match" "--match", valueFlag "action" "--action",
  valueFlag "header" "--header", valueFlag "rewrite" "--rewrite",
  valueFlag "description" "--description"]

/-- The grammar of what follows a word that says what is to be done. -/
def verbGrammar? : String → Option Grammar
  | "list" => some ⟨[helpFlag], []⟩
  | "add" => some ⟨helpFlag :: ruleFlags, []⟩
  | "edit" => some ⟨helpFlag :: ruleFlags, [positionOperand "position"]⟩
  | "delete" =>
    some ⟨[helpFlag, { key := "yes", names := ["-y", "--yes"], use := .switch }],
      [positionOperand "position"]⟩
  | "up" | "down" => some ⟨[helpFlag], [positionOperand "position"]⟩
  | "move" =>
    some ⟨[helpFlag, { key := "after", names := ["--after"], use := .switch }],
      [positionOperand "source", positionOperand "target"]⟩
  | "toggle" =>
    some ⟨[helpFlag], [positionOperand "position", .one "state" stateWords.contains]⟩
  | _ => none

/-- The word that says what is to be done, with all that follows it. -/
def verbOperand : Operand where
  takesRest := true
  read g args :=
    match args with
    | [] => .error .misuse
    | name :: rest =>
      match verbGrammar? name with
      | none => .error .misuse
      | some grammar => do
        let inner ← grammar.read rest
        return {
          values := ("command", some name) :: (inner.values ++ g.values)
          unexpected := g.unexpected || inner.unexpected }

/-- The flags in front of the word. -/
def mainFlags : List Flag := [
  helpFlag, valueFlag "file" "--file", valueFlag "db" "--db", valueFlag "url" "--url",
  valueFlag "load_url" "--load-url", valueFlag "config" "--config",
  { key := "verbose", names := ["-v", "--verbose"], use := .switch }]

/-- The grammar of a command line. -/
def mainGrammar : Grammar := ⟨mainFlags, [verbOperand]⟩

/-! ## Reading -/

/-- The file that holds the list unless another one is named. -/
def defaultFile : String := "rules.json"

namespace Given

/-- What was said of a key. -/
def said (g : Given) (key : String) : Said String :=
  match g.values.get? key with
  | none => .nothing
  | some none => .blank
  | some (some text) => .value text

/-- The text that was given for a key. -/
def text? (g : Given) (key : String) : Option String :=
  (g.said key).value?

/-- The position that was given for a key. -/
def position? (g : Given) (key : String) : Option Int :=
  (g.text? key).bind Text.readInt?

/-- Whether a switch was given. -/
def has (g : Given) (key : String) : Bool :=
  (g.text? key).isSome

/-- The fields of a rule that were given. -/
def ruleOptions (g : Given) : RuleOptions where
  ruleType := g.said "type"
  matchValue := g.said "match"
  action := g.said "action"
  header := g.said "header"
  rewrite := g.said "rewrite"
  description := g.said "description"

/-- What is to be done. -/
def verb? (g : Given) : Option Verb := do
  match ← g.text? "command" with
  | "list" => return .list
  | "add" => return .add g.ruleOptions
  | "edit" => return .edit (← g.position? "position") g.ruleOptions
  | "delete" => return .delete (← g.position? "position") (g.has "yes")
  | "up" => return .up (← g.position? "position")
  | "down" => return .down (← g.position? "position")
  | "move" => return .move (← g.position? "source") (g.position? "target") (g.has "after")
  | "toggle" =>
    return .toggle (← g.position? "position") ((g.text? "state").map fun word => word = "on")
  | _ => none

end Given

/-- What a command line says. -/
def Arguments.read (args : List String) : Except Stop Arguments := do
  let g ← mainGrammar.read args
  if g.unexpected then throw .misuse
  match g.verb? with
  | none => throw .misuse
  | some verb =>
    return {
      file := match g.said "file" with
        | .nothing => some (.ofText defaultFile)
        | .blank => none
        | .value text => some (.ofText text)
      database := (g.said "db").map .ofText
      url := g.said "url"
      loadUrl := g.said "load_url"
      config := (g.said "config").map .ofText
      verbose := g.has "verbose"
      verb }

end Rulebook.Terminal
