/-
  Rulebook.Storage.Tree

  The files that a program sees: what is at each spot.  The two tops, the folder where the program
  runs and the folders above it are always there.

  A path is followed part by part, and every part but the last has to be a folder that is there.
  The answer is the spot that the path leads to, whether or not there is something.
-/
import Rulebook.Storage.Database
import Rulebook.Text.Encoding

namespace Rulebook.Storage

/-- What is at a spot. -/
inductive Node where
  | folder
  | file (bytes : List UInt8)
  | database (contents : Database)
deriving DecidableEq, Repr

/-- Whether it is a folder. -/
def Node.isFolder : Node → Bool
  | .folder => true
  | _ => false

/-- A file with a text. -/
def Node.ofText (s : String) : Node :=
  .file (Text.utf8 s)

/-- The document that a file holds. -/
def Node.document : Node → Except LoadError Value
  | .folder => .error (.path .isFolder)
  | .database _ => .error .notText
  | .file bytes =>
    match Text.ofUtf8? bytes with
    | none => .error .notText
    | some text => (Json.parse text).mapError .document

/-- The files that a program sees. -/
structure Tree where
  nodes : List (Spot × Node) := []
deriving DecidableEq, Repr

namespace Tree

/-- What is at a spot. -/
def at? (t : Tree) (s : Spot) : Option Node :=
  if s.parts = [] then some .folder else t.nodes.lookup s

/-- Takes away what is at a spot. -/
def remove (t : Tree) (s : Spot) : Tree :=
  { nodes := t.nodes.filter fun e => e.1 != s }

/-- Puts something at a spot. -/
def put (t : Tree) (s : Spot) (n : Node) : Tree :=
  { nodes := (t.remove s).nodes ++ [(s, n)] }

/-! ## Following paths -/

/-- Whether a part of a path is too long. -/
def isTooLong (part : String) : Bool :=
  Path.maxNameSize < (Text.utf8 part).length

/-- Follows the parts of a path from a spot. -/
def walk (t : Tree) (s : Spot) : List String → Except Path.Error Spot
  | [] => .ok s
  | part :: rest =>
    match t.at? s with
    | none => .error .missing
    | some .folder =>
      if part = ".." then walk t s.up rest
      else if isTooLong part then .error .tooLong
      else walk t (s.child part) rest
    | some _ => .error .notFolder

/-- The spot that a path leads to. -/
def find (t : Tree) (p : Path) : Except Path.Error Spot :=
  if p.hasNull then .error .null
  else if Path.maxSize < (Text.utf8 p.text).length then .error .tooLong
  else t.walk { root := p.root } p.parts

/-- What a path leads to. -/
def look (t : Tree) (p : Path) : Except Path.Error Node := do
  match t.at? (← t.find p) with
  | some node => return node
  | none => throw .missing

/-- What a path leads to, if it leads to something.  Only a path that is too long is refused. -/
def look? (t : Tree) (p : Path) : Except Path.Error (Option Node) :=
  match t.look p with
  | .ok node => .ok (some node)
  | .error .tooLong => .error .tooLong
  | .error _ => .ok none

/-! ## Changing files -/

/-- Writes a file. -/
def write (t : Tree) (p : Path) (n : Node) : Except Path.Error Tree := do
  let s ← t.find p
  if (t.at? s).any Node.isFolder then throw .isFolder
  return t.put s n

/-- Moves a file to another place, where it takes the place of a file. -/
def move (t : Tree) (source target : Path) : Except Path.Error Tree := do
  let n ← t.look source
  let t' := t.remove (← t.find source)
  t'.write target n

/-! ## Making folders -/

/-- Makes one folder where nothing is. -/
def makeFolder (t : Tree) (p : Path) : Except Path.Error Tree := do
  let s ← t.find p
  if (t.at? s).isSome then throw .inTheWay
  return t.put s .folder

/-- Makes one folder where nothing is; if `existing` a folder may be there. -/
def ensureFolder (existing : Bool) (t : Tree) (p : Path) : Except Path.Error Tree :=
  match t.makeFolder p with
  | .error .missing => .error .missing
  | .error e =>
    if existing && (t.look p).toOption.any Node.isFolder then .ok t else .error e
  | .ok t => .ok t

/-- Makes the folder that a path leads to and, where they are missing, the folders on the way.  If
`existing` the folder may be there.  The folders that were made remain if one cannot be made. -/
def makeFolders (existing : Bool) (t : Tree) (p : Path) : Tree × Except Path.Error Unit :=
  match t.ensureFolder existing p with
  | .ok t => (t, .ok ())
  | .error .missing =>
    if p.parts = [] then (t, .error .missing)
    else
      match makeFolders true t p.parent with
      | (t, .error e) => (t, .error e)
      | (t, .ok ()) =>
        match t.ensureFolder existing p with
        | .ok t => (t, .ok ())
        | .error e => (t, .error e)
  | .error e => (t, .error e)
termination_by p.parts.length
decreasing_by
  simp only [Path.parent, List.length_dropLast]
  have : p.parts.length ≠ 0 := fun h => by simp_all
  omega

/-- Writes a file and, where they are missing, makes the folders on the way to it. -/
def add (t : Tree) (p : Path) (n : Node) : Tree × Except Path.Error Unit :=
  match t.makeFolders true p.parent with
  | (t, .error e) => (t, .error e)
  | (t, .ok ()) =>
    match t.write p n with
    | .error e => (t, .error e)
    | .ok t => (t, .ok ())

/-! ## What is where -/

theorem lookup_filter_ne {s u : Spot} (h : u ≠ s) (nodes : List (Spot × Node)) :
    (nodes.filter fun e => e.1 != s).lookup u = nodes.lookup u := by
  induction nodes with
  | nil => rfl
  | cons e rest ih =>
    obtain ⟨r, n⟩ := e
    by_cases hr : r = s
    · subst hr
      simp [List.lookup_cons, beq_eq_false_iff_ne.mpr h, ih]
    · by_cases hu : u = r
      · subst hu
        simp [hr]
      · simp [List.lookup_cons, hr, beq_eq_false_iff_ne.mpr hu, ih]

theorem lookup_filter_self (s : Spot) (nodes : List (Spot × Node)) :
    (nodes.filter fun e => e.1 != s).lookup s = none := by
  induction nodes with
  | nil => rfl
  | cons e rest ih =>
    obtain ⟨r, n⟩ := e
    by_cases hr : r = s
    · subst hr
      simpa using ih
    · simp [List.lookup_cons, hr, beq_eq_false_iff_ne.mpr (Ne.symm hr), ih]

theorem at?_remove_of_ne {s u : Spot} (h : u ≠ s) (t : Tree) : (t.remove s).at? u = t.at? u := by
  simp [at?, remove, lookup_filter_ne h]

theorem at?_remove_self {s : Spot} (h : s.parts ≠ []) (t : Tree) : (t.remove s).at? s = none := by
  simp [at?, remove, h, lookup_filter_self]

theorem at?_put_self {s : Spot} (h : s.parts ≠ []) (t : Tree) (n : Node) :
    (t.put s n).at? s = some n := by
  simp [at?, put, remove, h, List.lookup_append, lookup_filter_self]

theorem at?_put_of_ne {s u : Spot} (h : u ≠ s) (t : Tree) (n : Node) :
    (t.put s n).at? u = t.at? u := by
  simp [at?, put, remove, List.lookup_append, lookup_filter_ne h, List.lookup_cons,
    beq_eq_false_iff_ne.mpr h]

end Tree

end Rulebook.Storage
