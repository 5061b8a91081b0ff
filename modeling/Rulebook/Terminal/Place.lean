/-
  Rulebook.Terminal.Place

  Where a command line keeps its list: on the other side of a connection, in a database or in a
  file.  A `Site` is all that the three of them see.
-/
import Rulebook.Storage.Configuration
import Rulebook.Storage.DatabaseFile
import Rulebook.Storage.File
import Rulebook.Storage.Locator
import Rulebook.Storage.Remote
import Rulebook.Terminal.Arguments
import Rulebook.Terminal.Table

namespace Rulebook.Terminal

open Storage

/-- The files and the connection that a program sees, and the terminal that it prints on. -/
structure Site where
  tree : Tree := {}
  link : Link
  console : Console := {}

/-- Where a list is kept. -/
inductive Place where
  | remote (addresses : Remote)
  | database (path : Path) (name : Value)
  | file (path : Path)
deriving DecidableEq, Repr

namespace Place

/-- Where a command line keeps its list, unless that is a file that is left blank.  An address on
the command line comes first, then a database, then an address in the settings. -/
def choose? (a : Arguments) (s : Settings) : Option Place :=
  let url := a.url.field?.getD .null
  let loadUrl := a.loadUrl.field?.getD .null
  if url.truth || (s.saveUrl.truth && a.database.value?.isNone) then
    some (.remote (.new (url.orElse s.saveUrl) (loadUrl.orElse s.loadUrl)))
  else
    match a.database.value? with
    | some path => some (.database path s.ruleKey)
    | none => a.file.map .file

/-- Why a place cannot be made ready. -/
inductive Error where
  /-- the folder of the database cannot be made -/
  | folder (error : Path.Error)
  /-- the options of the database are wrong -/
  | option (error : OptionError)
deriving DecidableEq, Repr

/-- Makes a place ready: a database needs its folder and options that are right. -/
def prepare (p : Place) (t : Tree) : Tree × Except Error Unit :=
  match p with
  | .database path _ =>
    match t.makeFolders true path.parent with
    | (t, .error e) => (t, .error (.folder e))
    | (t, .ok ()) => (t, ((Locator.ofText path.text).target.mapError .option).map fun _ => ())
  | _ => (t, .ok ())

/-! ## Databases -/

/-- The database that a path names. -/
def targetOf (path : Path) : Target :=
  match (Locator.ofText path.text).target with
  | .ok target => target
  | .error _ => .refused .notOpened

/-! ## Loading and saving -/

/-- The payload that was saved, null if there is none. -/
def load (p : Place) (site : Site) : Site × Except LoadError Value :=
  match p with
  | .remote addresses =>
    let (link, outcome) := addresses.load site.link
    ({ site with link }, outcome)
  | .file path => (site, (File.load site.tree path).map (·.getD .null))
  | .database path name =>
    match targetOf path with
    | .refused e => (site, .error e)
    | .transient =>
      let (_, _, outcome) := ({ name } : Connection).load {}
      (site, outcome.map (·.getD .null))
    | .stored s o =>
      match site.tree.openDatabase s o with
      | (tree, .error e) => ({ site with tree }, .error e)
      | (tree, .ok d) =>
        let (_, d, outcome) := ({ name } : Connection).load d
        ({ site with tree := tree.keepDatabase s o d }, outcome.map (·.getD .null))

/-- Saves a payload at a place that was loaded from, and says whether it was saved. -/
def save (p : Place) (site : Site) (payload : Value) : Site × Bool :=
  match p with
  | .remote addresses =>
    let (link, outcome) := addresses.save site.link payload
    ({ site with link }, outcome.toOption.getD false)
  | .file path =>
    let (tree, outcome) := File.save site.tree path payload
    ({ site with tree }, outcome.toOption.getD false)
  | .database path name =>
    match targetOf path with
    | .refused _ => (site, false)
    | .transient =>
      let (_, _, outcome) := ({ name } : Connection).save {} payload
      (site, outcome.isSaved)
    | .stored s o =>
      match site.tree.openDatabase s o.again with
      | (tree, .error _) => ({ site with tree }, false)
      | (tree, .ok d) =>
        let (_, d, outcome) := ({ name } : Connection).save d payload
        match if outcome.isSaved then tree.changeDatabase? s o d else none with
        | some tree => ({ site with tree }, true)
        | none => ({ site with tree }, false)

/-- The files once a place is closed that could be opened among the files `before`: beside a
database no log is left. -/
def close (p : Place) (before now : Tree) : Tree :=
  match p with
  | .remote _ | .file _ => now
  | .database path _ =>
    match targetOf path with
    | .transient | .refused _ => now
    | .stored s o =>
      match before.findDatabase s o with
      | (_, .error _) => now
      | (_, .ok _) => now.closeDatabase s o

end Place

end Rulebook.Terminal
