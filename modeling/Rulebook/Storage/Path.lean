/-
  Rulebook.Storage.Path

  Paths of files, and the spots they lead to.  Empty parts and single dots of a text say nothing
  about where a file is, so a path is the list of its other parts; its text has single slashes
  between them.  Two dots lead one folder up.

  A spot is where a file or a folder is, whichever way led there.
-/

namespace Rulebook.Storage

/-- Where a path starts. -/
inductive Root where
  /-- in the folder where the program runs -/
  | here
  /-- at the top -/
  | top
  /-- at the other top, which two slashes name -/
  | doubleTop
deriving DecidableEq, Repr

/-- What a text starts with that starts there. -/
def Root.text : Root → String
  | .here => ""
  | .top => "/"
  | .doubleTop => "//"

/-- Where a text starts: three slashes or more are one. -/
def Root.ofChars : List Char → Root
  | '/' :: '/' :: '/' :: _ => .top
  | '/' :: '/' :: _ => .doubleTop
  | '/' :: _ => .top
  | _ => .here

/-- The path of a file or a folder. -/
structure Path where
  root : Root := .here
  parts : List String
deriving DecidableEq, Repr

namespace Path

/-- What stands between the slashes of a text. -/
def splitSlashes : List Char → List (List Char)
  | [] => [[]]
  | c :: cs =>
    if c = '/' then [] :: splitSlashes cs
    else
      match splitSlashes cs with
      | [] => [[c]]
      | part :: parts => (c :: part) :: parts

/-- Whether a part of a text says where a file is. -/
def counts (part : List Char) : Bool :=
  part ≠ [] && part ≠ ['.']

/-- The path that a text names. -/
def ofChars (cs : List Char) : Path where
  root := Root.ofChars cs
  parts := ((splitSlashes cs).filter counts).map String.ofList

/-- The path that a text names. -/
def ofText (s : String) : Path :=
  ofChars s.toList

/-- The text of a path. -/
def text (p : Path) : String :=
  match p.root, p.parts with
  | .here, [] => "."
  | root, parts => root.text ++ "/".intercalate parts

/-- The folder that a file is in. -/
def parent (p : Path) : Path :=
  { p with parts := p.parts.dropLast }

/-- The file beside another one whose name goes on with `ending`, if the other one has a name. -/
def beside? (p : Path) (ending : String) : Option Path :=
  p.parts.getLast?.map fun name => { p with parts := p.parts.dropLast ++ [name ++ ending] }

/-! ## What can be wrong with a path -/

/-- Why a path cannot be used. -/
inductive Error where
  /-- it leads nowhere -/
  | missing
  /-- it leads through a file -/
  | notFolder
  /-- it leads to a folder, where a file is needed -/
  | isFolder
  /-- there is something where it leads to, where nothing may be -/
  | inTheWay
  /-- it is longer than a path may be, or one of its parts is -/
  | tooLong
  /-- it holds the null character -/
  | null
deriving DecidableEq, Repr

/-- How many bytes the name of a file may have. -/
def maxNameSize : Nat := 255

/-- How many bytes a path may have. -/
def maxSize : Nat := 4095

/-- Whether a path holds the null character. -/
def hasNull (p : Path) : Bool :=
  p.parts.any fun part => part.toList.contains '\x00'

end Path

/-! ## Spots -/

/-- Where a file or a folder is: so many folders above its root, and then down along its parts. -/
structure Spot where
  root : Root := .here
  above : Nat := 0
  parts : List String := []
deriving DecidableEq, Repr

namespace Spot

/-- The spot of a file in a folder. -/
def child (s : Spot) (name : String) : Spot :=
  { s with parts := s.parts ++ [name] }

/-- The spot of the folder above.  Above a top there is that top. -/
def up (s : Spot) : Spot :=
  if s.parts = [] then
    if s.root = .here then { s with above := s.above + 1 } else s
  else { s with parts := s.parts.dropLast }

/-- The spot that a path names by its text alone, whatever is on the way. -/
def ofPath (p : Path) : Spot :=
  p.parts.foldl (fun s part => if part = ".." then s.up else s.child part) { root := p.root }

/-- The spots that the parts of a path lead to one after the other, by their text alone. -/
def way (p : Path) : List Spot :=
  let step : Spot × List Spot → String → Spot × List Spot := fun (s, passed) part =>
    if part = ".." then (s.up, passed) else (s.child part, passed ++ [s.child part])
  (p.parts.foldl step ({ root := p.root }, [])).2

/-- A path to a spot. -/
def path (s : Spot) : Path where
  root := s.root
  parts := List.replicate s.above ".." ++ s.parts

end Spot

end Rulebook.Storage
