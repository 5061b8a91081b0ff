/-
  Rulebook.Terminal.Run

  One run of the command line: it reads the settings, loads the list, carries one command out,
  saves the list if it has changed, and says what has happened.

  What is to be said is printed after the list was saved.  If the terminal then refuses something,
  nothing is undone: the run fails, and what would have been printed after it is missing.
-/
import Rulebook.Editor.Command
import Rulebook.Schema.Headers
import Rulebook.Terminal.Place

namespace Rulebook.Terminal

open Storage

/-! ## What goes in and what comes out -/

/-- What the user answers to a question. -/
inductive Consent where
  | yes
  | no
  /-- the user breaks off -/
  | interrupt
deriving DecidableEq, Repr

/-- A call of the command line. -/
structure Call where
  arguments : List String
  environment : Record String String := []
  consent : Consent := .no
deriving DecidableEq, Repr

/-- Why a run failed. -/
inductive Fault where
  /-- the settings or the list could not be read, or something could not be printed -/
  | reading (error : ReadingError)
  /-- the settings or the list could not be loaded -/
  | load (error : LoadError)
  /-- the file that holds the list is left blank -/
  | noFile
  /-- the place where the list is kept cannot be made ready -/
  | place (error : Place.Error)
  /-- the position to move to is left blank -/
  | noTarget
  /-- a position that is not in the list has more digits than can be shown -/
  | longPosition
  /-- the editor cannot carry the command out -/
  | editor (error : Editor.Error)
deriving DecidableEq, Repr

/-- How a run ends. -/
inductive Ending where
  /-- with an exit code -/
  | exit (code : Nat)
  /-- before it began -/
  | stopped (stop : Stop)
  | failed (fault : Fault)
deriving DecidableEq, Repr

/-- What the user sees of a run. -/
structure Report where
  ending : Ending
  printed : List Printed := []
  /-- the questions that were asked -/
  asked : List String := []
deriving DecidableEq, Repr

/-- What a run has to tell: what it draws, one thing after another, and how it ends when all of that
is printed. -/
structure Telling where
  ending : Ending
  drawings : List Drawing := []
  /-- the questions that were asked -/
  asked : List String := []
deriving Repr

/-- The report of a run on a terminal.  It ends with the first drawing that is not printed. -/
def Console.report (c : Console) (t : Telling) : Report :=
  match c.draw t.drawings with
  | (printed, none) => { ending := t.ending, printed, asked := t.asked }
  | (printed, some error) => { ending := .failed (.reading error), printed, asked := t.asked }

/-! ## Lines -/

/-- The line of an error. -/
def errorLine (message : String) : Printed :=
  .text ("[bold red]Error:[/bold red] " ++ message) none

/-- The line of a command that was saved. -/
def savedLine : Printed := .text "✓ Saved" (some .primary)

/-- The line of a command that the user broke off. -/
def cancelledLine : Printed := .text "\nCancelled" (some .dim)

/-- The line of a command that had nothing to do. -/
def noopLine (message : String) : Printed :=
  .text (if message.isEmpty then "Nothing to do" else message) (some .dim)

/-- The question before a rule is deleted. -/
def deleteQuestion : String := "Are you sure you want to delete this rule?"

/-- The exit code of a command that the user broke off. -/
def interruptedCode : Nat := 130

/-- The line of the reply to a command, and the exit code. -/
def conclude (r : Editor.Reply) : Printed × Nat :=
  match r.status with
  | .ok => (savedLine, 0)
  | .noop => (noopLine r.message, 0)
  | _ => (errorLine r.message, 1)

/-- What is drawn in an event. -/
def drawingsOf (e : Editor) : Event → List Drawing
  | .rendered _ rules => [render e.form.schema e.settings.may rules]
  | .notice text => [.ok (.text text (some .error))]
  | .asked | .afterSave _ => []

/-- What was asked in an event. -/
def askedOf : Event → List String
  | .asked => [deleteQuestion]
  | _ => []

/-- What some events and what they led to come to. -/
def tellingOf (e : Editor) (events : List Event) (outcome : Editor.Outcome) : Telling :=
  let drawings := events.flatMap (drawingsOf e)
  let asked := events.flatMap askedOf
  match outcome with
  | .ok reply =>
    let (line, code) := conclude reply
    { ending := .exit code, drawings := drawings ++ [.ok line], asked }
  | .error error => { ending := .failed (.editor error), drawings, asked }

/-! ## Commands -/

/-- The command of the editor that is to be carried out, if the list is to be changed.  A state
that is left blank is off. -/
def Verb.command (consent : Consent) : Verb → Except Fault (Option Editor.Command)
  | .list => .ok none
  | .add o => .ok (some (.add (.mapping o.values)))
  | .edit position o => .ok (some (.update (position - 1) (.mapping o.values)))
  | .delete position unasked =>
    .ok (some (.delete (position - 1) (if unasked then none else some (consent ≠ .no))))
  | .up position => .ok (some (.moveUp (position - 1)))
  | .down position => .ok (some (.moveDown (position - 1)))
  | .move source (some target) after => .ok (some (.relocate (source - 1) (target - 1) after))
  | .move _ none _ => .error .noTarget
  | .toggle position enabled =>
    .ok (some (.toggle (position - 1) (.bool (enabled.getD false))))

/-- Whether a command would have to name a position that has more digits than can be shown.  Moves
by one place never name any. -/
def namesLongPosition (e : Editor) : Editor.Command → Bool
  | .update i _ => Text.isTooLong i
  | .delete i _ => e.settings.may.delete && Text.isTooLong i
  | .toggle i _ => e.settings.may.toggle && Text.isTooLong i
  | .relocate source target _ =>
    e.settings.may.move && source ≠ target && (Text.isTooLong source || Text.isTooLong target)
  | _ => false

/-- Carries a command out and saves the list at its place. -/
def carryOut (place : Place) (site : Site) (e : Editor) (c : Editor.Command)
    (consent : Consent) : Site × Telling :=
  let (e, events, begun) := e.begin c
  if consent = .interrupt && events.contains .asked then
    (site, { ending := .exit interruptedCode, drawings := [.ok cancelledLine]
             asked := events.flatMap askedOf })
  else
    match begun with
    | .done outcome => (site, tellingOf e events outcome)
    | .saving ticket =>
      let (site, saved) := place.save site ticket.payload
      let (e, more, outcome) := e.finish ticket saved
      (site, tellingOf e (events ++ more) outcome)

/-- The form of the command line. -/
def form : Form where
  schema := Headers.schema
  validator := some Headers.validate
  transformer := some Headers.transform

/-- The editor of a payload that was loaded. -/
def editorOf (settings : Settings) (payload : Value) : Except ReadingError Editor := do
  let rules ← Editor.rulesOf settings payload
  return (Editor.new settings form none rules).1.attach (some "terminal")

/-- Loads a list and carries out what is to be done with it. -/
def workAt (place : Place) (settings : Settings) (verb : Verb) (site : Site) (consent : Consent) :
    Site × Telling :=
  match place.load site with
  | (site, .error (.fetch error)) =>
    (site, { ending := .exit 1, drawings := [.ok (errorLine error.message)] })
  | (site, .error error) => (site, { ending := .failed (.load error) })
  | (site, .ok payload) =>
    match editorOf settings payload with
    | .error error => (site, { ending := .failed (.reading error) })
    | .ok e =>
      match verb.command consent with
      | .error fault => (site, { ending := .failed fault })
      | .ok none => (site, { ending := .exit 0, drawings := e.render.flatMap (drawingsOf e) })
      | .ok (some c) =>
        if namesLongPosition e c then (site, { ending := .failed .longPosition })
        else carryOut place site e c consent

/-- A run, once it is known where the list is kept.  The place is closed in any case. -/
def runAt (place : Place) (settings : Settings) (verb : Verb) (site : Site) (consent : Consent) :
    Site × Telling :=
  let (after, telling) := workAt place settings verb site consent
  ({ after with tree := place.close site.tree after.tree }, telling)

/-- The settings of a call: those of its file, if it names one, else those of its
environment, which have to be right in any case. -/
def settingsOf (t : Tree) (environment : Record String String) (config : Option Path) :
    Except Fault Settings := do
  let settings ← (Settings.ofEnvironment environment).mapError .reading
  match config with
  | none => return settings
  | some path =>
    match Settings.ofFile t path with
    | .ok settings => return settings
    | .error (.load error) => throw (.load error)
    | .error (.reading error) => throw (.reading error)

/-- What a run does, and what it has to tell. -/
def perform (site : Site) (call : Call) : Site × Telling :=
  match Arguments.read call.arguments with
  | .error stop => (site, { ending := .stopped stop })
  | .ok a =>
    match settingsOf site.tree call.environment a.config.value? with
    | .error fault => (site, { ending := .failed fault })
    | .ok settings =>
      match Place.choose? a settings with
      | none => (site, { ending := .failed .noFile })
      | some place =>
        match place.prepare site.tree with
        | (tree, .error error) => ({ site with tree }, { ending := .failed (.place error) })
        | (tree, .ok ()) => runAt place settings a.verb { site with tree } call.consent

/-- One run of the command line. -/
def run (site : Site) (call : Call) : Site × Report :=
  let (after, telling) := perform site call
  (after, site.console.report telling)

end Rulebook.Terminal
