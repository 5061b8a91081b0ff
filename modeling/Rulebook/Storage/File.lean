/-
  Rulebook.Storage.File

  A list kept as a JSON document in a file.  A save writes a temporary file beside the document
  and then moves it to the document's place, so a save that fails leaves the document as it was.

  A payload that holds an object that no document can hold is not saved, and the save says so.  Any
  other obstacle breaks the save off.
-/
import Rulebook.Storage.Tree

namespace Rulebook.Storage.File

/-- How the name of the temporary file ends. -/
def temporaryEnding : String := ".tmp"

/-- Why a payload cannot be saved at a path at all. -/
inductive Error where
  /-- the path has no name beside which the temporary file could be -/
  | nameless (path : Path)
  /-- the path holds the null character -/
  | null
  /-- the payload is not put into bytes, because of an obstacle that a save is not prepared for -/
  | noBytes {obstacle : Json.Obstacle}
deriving DecidableEq, Repr

/-- The outcome of a save whose path cannot be used. -/
def refusal : Path.Error → Except Error Bool
  | .null => .error .null
  | _ => .ok false

/-- How a payload is written to a file: every text is put into bytes as soon as it is written. -/
def writer : Json.Writer := { layout := .block, encodes := true }

/-- The outcome of a save whose payload is not written. -/
def unwritten : Json.Obstacle → Except Error Bool
  | .foreign => .ok false
  | obstacle => .error (@Error.noBytes obstacle)

/-- Writes a payload to `temporary` and moves it to `path`, in a tree that has the folder of
both. -/
def replace (t : Tree) (path temporary : Path) (payload : Value) : Tree × Except Error Bool :=
  match t.write temporary (.ofText "") with
  | .error e => (t, refusal e)
  | .ok opened =>
    match Json.print writer payload with
    | .error obstacle => (opened, unwritten obstacle)
    | .ok text =>
      match t.write temporary (.ofText text) with
      | .error e => (t, refusal e)
      | .ok written =>
        match written.move temporary path with
        | .error e => (written, refusal e)
        | .ok t => (t, .ok true)

/-- Saves a payload, and says whether it was saved. -/
def save (t : Tree) (path : Path) (payload : Value) : Tree × Except Error Bool :=
  match path.beside? temporaryEnding with
  | none => (t, .error (.nameless path))
  | some temporary =>
    match t.makeFolders true path.parent with
    | (t, .error e) => (t, refusal e)
    | (t, .ok ()) => replace t path temporary payload

/-- The payload that was saved, if there is one. -/
def load (t : Tree) (path : Path) : Except LoadError (Option Value) := do
  match ← (t.look? path).mapError .path with
  | none => return none
  | some node => return some (← node.document)

end Rulebook.Storage.File
