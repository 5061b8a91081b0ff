/-
  Rulebook.Storage.Configuration

  Settings kept as a JSON document in a file.  Where there is no file the settings are the usual
  ones.
-/
import Rulebook.Settings
import Rulebook.Storage.Tree

namespace Rulebook.Settings

open Storage

/-- Why settings could not be read from a file. -/
inductive FileError where
  /-- the file does not hold a document -/
  | load (error : LoadError)
  /-- the document does not hold settings -/
  | reading (error : ReadingError)
deriving DecidableEq, Repr

/-- The settings that a file gives. -/
def ofFile (t : Tree) (path : Path) : Except FileError Settings := do
  match ← (t.look? path).mapError (.load ∘ .path) with
  | none => return {}
  | some node =>
    let document ← node.document.mapError .load
    (ofValue document).mapError .reading

end Rulebook.Settings
