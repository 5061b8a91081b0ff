/-
  Rulebook.Storage.DatabaseFile

  Databases in files.  Beside the file of a database other files may stand, which its name and an
  ending name: a journal of a change that was not finished, a log of changes that the file does not
  show yet, an index of the log, and a lock.  An empty file beside a database counts as nothing.

  To open a database what is beside it is put in order.  A journal is played back and goes away,
  unless it is void: then it stays until the next change.  A log stays until the database is
  closed.  What cannot be put in order keeps the database from being opened.
-/
import Rulebook.Storage.Target
import Rulebook.Storage.Tree

namespace Rulebook.Storage

/-! ## Beside a database -/

/-- What may stand beside a database. -/
inductive Companion where
  /-- what was there before a change -/
  | journal
  /-- changes that the file of the database does not show yet -/
  | log
  /-- where the changes are in the log -/
  | index
  /-- a sign that the database is in use -/
  | lock
deriving DecidableEq, Repr

/-- How the name of a companion ends. -/
def Companion.ending : Companion → String
  | .journal => "-journal"
  | .log => "-wal"
  | .index => "-shm"
  | .lock => ".lock"

namespace Spot

/-- Where a companion of a file is. -/
def companion (s : Spot) (c : Companion) : Spot :=
  match s.parts.getLast? with
  | some name => { s with parts := s.parts.dropLast ++ [name ++ c.ending] }
  | none => s

/-- Whether the name of a file leaves room for the ending of a companion. -/
def hasRoom (s : Spot) (c : Companion) : Bool :=
  s.parts.getLast?.all fun name => (Text.utf8 (name ++ c.ending)).length ≤ Path.maxNameSize

end Spot

namespace Node

/-- Whether it counts beside a database. -/
def counts : Node → Bool
  | .file [] => false
  | _ => true

/-- Whether it is a journal that has to be played back: a first byte of zero makes it void. -/
def isHot : Node → Bool
  | .file (b :: _) => b ≠ 0
  | .file [] | .folder => false
  | .database _ => true

/-- Whether it is a log with numbers by which its changes are known: there are eight bytes for them
among the first thirty-two. -/
def isNumbered : Node → Bool
  | .file bytes => 32 ≤ bytes.length && ((bytes.drop 16).take 8).any (· ≠ 0)
  | .folder => false
  | .database _ => true

end Node

namespace Tree

/-- What counts beside a database. -/
def companion? (t : Tree) (s : Spot) (c : Companion) : Option Node :=
  (t.at? (s.companion c)).filter Node.counts

/-- Whether there is a folder in the place of a companion. -/
def hasFolder (t : Tree) (s : Spot) (c : Companion) : Bool :=
  (t.companion? s c).any Node.isFolder

/-- Takes a companion away. -/
def drop (t : Tree) (s : Spot) (c : Companion) : Tree :=
  t.remove (s.companion c)

/-! ## Finding a database -/

/-- How many bytes the path of a database may have from the top on. -/
def maxDatabaseSize : Nat := 504

/-- How many bytes a path on the way to a database may have from the top on. -/
def maxWaySize : Nat := 511

/-- How many bytes of the path of a database are set aside for the folder where the program runs,
with the slash behind it. -/
def hereSize : Nat := 17

/-- How many bytes the path of a spot has from the top on. -/
def reach (s : Spot) : Nat :=
  (if s.root = .here then hereSize else 0) + (Text.utf8 s.path.text).length

/-- Whether nothing is wrong with a spot on the way to a database; there need not be anything. -/
def isPassable (t : Tree) (s : Spot) : Bool :=
  reach s ≤ maxWaySize &&
    match t.find s.path with
    | .ok _ | .error .missing => true
    | .error _ => false

/-- Whether there is the file whose rights a database gets.  Behind a slash only a folder can be
meant. -/
def hasModel (t : Tree) (name : List Char) : Bool :=
  name ≠ [] &&
    match t.look (.ofChars name) with
    | .ok node => node.isFolder || (Path.splitSlashes name).getLast?.all Path.counts
    | .error _ => false

/-- The spot of the file of a database, which is made if there is none and it may be. -/
def findDatabase (t : Tree) (s : Spot) (o : Opening) : Tree × Except LoadError Spot :=
  if s.path.hasNull then (t, .error (.path .null))
  else if !(o.way.all t.isPassable && reach s ≤ maxDatabaseSize && o.model.all t.hasModel) then
    (t, .error .notOpened)
  else
    match t.find s.path with
    | .error _ => (t, .error .notOpened)
    | .ok s =>
      match t.at? s with
      | none =>
        if o.access = .making then (t.put s (.file []), .ok s) else (t, .error .notOpened)
      | some .folder => (t, .error .notOpened)
      | some _ => (t, .ok s)

/-! ## Opening -/

/-- Makes a database in a file that holds nothing or next to nothing.  A journal and a log that are
beside it mean nothing. -/
def makeDatabase (t : Tree) (s : Spot) (o : Opening) : Tree × Except LoadError Database :=
  let clears := !o.locksBeside && (o.access ≠ .reading || o.unlocked || o.keeper = .nobody)
  let t := if clears && (t.companion? s .journal).any (!·.isFolder) then t.drop s .journal else t
  if t.hasFolder s .log then (t, .error .notOpened)
  else
    let t := if (t.companion? s .log).isSome then t.drop s .log else t
    if o.access = .reading || t.hasFolder s .journal || !s.hasRoom .journal then
      (t, .error .notOpened)
    else (t.drop s .journal, .ok {})

/-- Plays back the journal beside a database, if it has to be.  Where a lock is set beside the
file, every journal seems to be in use. -/
def playBack (t : Tree) (s : Spot) (o : Opening) : Tree × Except LoadError Unit :=
  match t.companion? s .journal with
  | none => (t, .ok ())
  | some journal =>
    if o.locksBeside then (t, .ok ())
    else if journal.isFolder then (t, .error .notOpened)
    else if !journal.isHot then (t, .ok ())
    else if o.access = .reading then (t, .error .notOpened)
    else (t.drop s .journal, .ok ())

/-- Whether the index of a log can be made: who locks a whole file to write it needs none beside
it. -/
def mayIndex (t : Tree) (s : Spot) (o : Opening) : Bool :=
  (o.keeper = .whole && o.writes) || !t.hasFolder s .index

/-- Whether a database is used together with a log, if it can be used. -/
def usesLog (t : Tree) (s : Spot) (o : Opening) : Except LoadError Bool :=
  match t.companion? s .log with
  | none => .ok false
  | some log =>
    if o.mayLog && !log.isFolder && (t.mayIndex s o || !log.isNumbered) then .ok true
    else .error .notOpened

/-- How many bytes the index of a log has. -/
def indexSize : Nat := 32768

/-- The files with an index beside a database, if it is read together with a log. -/
def withIndex (t : Tree) (s : Spot) (o : Opening) (logged : Bool) : Tree :=
  if logged && o.access = .reading && !t.hasFolder s .index then
    t.put (s.companion .index) (.file (List.replicate indexSize 0))
  else t

/-- The database that a file holds. -/
def contents (t : Tree) (s : Spot) : Except LoadError Database :=
  match t.at? s with
  | some (.database d) => .ok d
  | _ => .error .notDatabase

/-- Whether a file holds nothing or next to nothing, so that a database can be made in it. -/
def isFresh (t : Tree) (s : Spot) : Bool :=
  match t.at? s with
  | none | some (.file []) | some (.file [_]) => true
  | _ => false

/-- The database at a spot that the file was found at. -/
def readDatabase (t : Tree) (s : Spot) (o : Opening) : Tree × Except LoadError Database :=
  if o.immutable then (t, if t.isFresh s then .error .notOpened else t.contents s)
  else if o.locksBeside && ((t.at? (s.companion .lock)).isSome || !s.hasRoom .lock) then
    (t, .error .notOpened)
  else if t.isFresh s then t.makeDatabase s o
  else
    match t.playBack s o with
    | (t, .error e) => (t, .error e)
    | (t, .ok ()) =>
      match t.usesLog s o with
      | .error e => (t, .error e)
      | .ok logged =>
        let t := t.withIndex s o logged
        (t, t.contents s)

/-- The database at a spot, a new one if there is nothing or next to nothing and it may be made.
A database that cannot be written is an empty file. -/
def openDatabase (t : Tree) (s : Spot) (o : Opening) : Tree × Except LoadError Database :=
  match t.findDatabase s o with
  | (t, .error e) => (t, .error e)
  | (t, .ok s) => t.readDatabase s o

/-! ## Writing and closing -/

/-- Keeps a database at a spot that it was opened at. -/
def keepDatabase (t : Tree) (s : Spot) (o : Opening) (d : Database) : Tree :=
  if !o.writes then t
  else
    match t.find s.path with
    | .ok s => t.put s (.database d)
    | .error _ => t

/-- Changes a database at a spot that it was opened at, if it can be changed: with a journal beside
it, which is gone then, or in its log. -/
def changeDatabase? (t : Tree) (s : Spot) (o : Opening) (d : Database) : Option Tree :=
  match t.find s.path with
  | .error _ => none
  | .ok found =>
    if !o.writes then none
    else
      match t.usesLog found o with
      | .error _ => none
      | .ok true => if t.mayIndex found o then some (t.keepDatabase s o d) else none
      | .ok false =>
        if t.hasFolder found .journal then none
        else some ((t.drop found .journal).keepDatabase s o d)

/-- Closes a database at a spot that it was opened at: what is in its log gets into its file, and
the log and its index go away. -/
def closeDatabase (t : Tree) (s : Spot) (o : Opening) : Tree :=
  match t.find s.path with
  | .error _ => t
  | .ok s =>
    if !o.writes || t.isFresh s || t.hasFolder s .journal then t
    else
      match t.usesLog s o with
      | .ok true =>
        if !t.mayIndex s o then t
        else if o.keeper = .whole then t.drop s .log
        else (t.drop s .log).drop s .index
      | _ => t

end Tree

end Rulebook.Storage
