/-
  Rulebook.Saving

  Changes are made first and saved afterwards.  A change of the book starts a save of the whole
  list; while the save is under way other changes may be made.  When it has succeeded the list is
  drawn; when it has failed the change is undone, the list is drawn and a notice is given.

  `Saver.start` makes a change and begins its save, `Saver.finish` ends a save.  What happens in
  between is up to whoever calls them, so every interleaving of changes and saves is a sequence of
  these two.

  `ε` is how a change is refused and `υ` is how it is undone: an editor has its own ways, and so
  may whoever else keeps a book.
-/
import Rulebook.Book

namespace Rulebook

/-- What is reported while an editor works. -/
inductive Event where
  /-- the user was asked to confirm -/
  | asked
  /-- a renderer was given the list to draw -/
  | rendered (renderer : String) (rules : List Rule)
  /-- a save has ended -/
  | afterSave (saved : Bool)
  /-- a notice was given to the user -/
  | notice (text : String)
deriving DecidableEq, Repr

/-- The notice of a save that failed. -/
def saveFailedNotice : String := "Failed to save rules"

/-- What a change came to, and how to undo it. -/
inductive Change (υ : Type) where
  /-- nothing changed -/
  | nothing
  /-- it is undone in its own way -/
  | undoable (undo : υ)
  /-- it is undone by going back to the list as it was before -/
  | bySnapshot
deriving DecidableEq, Repr

/-- A change of a book.  If it is refused the book is what it had become by then. -/
abbrev Mutation (ε υ : Type) := Book → Book × Except ε (Change υ)

/-- How a change is undone that is being saved. -/
inductive Recovery (υ : Type) where
  | undo (undo : υ)
  | snapshot (rules : List Rule)
deriving DecidableEq, Repr

/-- A book that is saved after every change. -/
structure Saver where
  book : Book
  /-- the name under which the list is stored -/
  key : Value := "rules"
  renderer : Option String := none
  /-- how many saves are under way -/
  inFlight : Nat := 0
deriving DecidableEq, Repr

namespace Saver

/-- The list is drawn, if there is a renderer. -/
def render (s : Saver) : List Event :=
  match s.renderer with
  | some name => [.rendered name s.book.rules]
  | none => []

/-- What came of starting a change. -/
inductive Start (ε υ : Type) where
  /-- the change was refused -/
  | refused (error : ε)
  /-- nothing changed, and nothing is saved -/
  | unchanged
  /-- the list has changed, but its key is no name, so there is nothing to save -/
  | unstorable
  /-- the save of a payload has begun -/
  | saving (payload : Value) (recovery : Recovery υ)
deriving DecidableEq, Repr

/-- Takes a book over and begins to save its list: the payload of the save is the answer, if the
list can be stored. -/
def launch (s : Saver) (book : Book) : Saver × Option Value :=
  match s.key.name? with
  | none => ({ s with book }, none)
  | some name => ({ s with book, inFlight := s.inFlight + 1 }, some (book.toValue name))

/-- Takes a changed book over, and begins to save its list. -/
def startSave {ε υ : Type} (s : Saver) (book : Book) (recovery : Recovery υ) :
    Saver × Start ε υ :=
  match s.launch book with
  | (s, none) => (s, .unstorable)
  | (s, some payload) => (s, .saving payload recovery)

/-- Makes a change and begins to save the list, if it has changed. -/
def start {ε υ : Type} (s : Saver) (change : Mutation ε υ) : Saver × Start ε υ :=
  match change s.book with
  | (book, .error e) => ({ s with book }, .refused e)
  | (book, .ok .nothing) => ({ s with book }, .unchanged)
  | (book, .ok (.undoable undo)) => s.startSave book (.undo undo)
  | (book, .ok .bySnapshot) => s.startSave book (.snapshot s.book.rules)

/-- What came of a save. -/
inductive Finish (ε : Type) where
  | saved
  | rolledBack
  /-- the change could not be undone -/
  | stuck (error : ε)
deriving DecidableEq, Repr

/-- Undoes a change. -/
def recover {ε υ : Type} (undo : υ → Book → Book × Except ε Unit) (book : Book) :
    Recovery υ → Book × Except ε Unit
  | .undo u => undo u book
  | .snapshot rules => (book.withRules rules, .ok ())

/-- Ends a save that has succeeded or failed. -/
def finish {ε υ : Type} (undo : υ → Book → Book × Except ε Unit) (s : Saver)
    (recovery : Recovery υ) (saved : Bool) : Saver × List Event × Finish ε :=
  let s := { s with inFlight := s.inFlight - 1 }
  if saved then (s, .afterSave true :: s.render, .saved)
  else
    let (book, outcome) := recover undo s.book recovery
    let s := { s with book }
    match outcome with
    | .error e => (s, [.afterSave false], .stuck e)
    | .ok () => (s, .afterSave false :: s.render ++ [.notice saveFailedNotice], .rolledBack)

end Saver

end Rulebook
