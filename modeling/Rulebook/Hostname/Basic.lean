/-
  Rulebook.Hostname.Basic

  Host names: labels with dots between them, and perhaps one more dot at the end.  A name of any
  characters is written with those of ASCII label by label.
-/
import Rulebook.Hostname.Label

namespace Rulebook.Hostname

/-- The full stops that may stand between labels. -/
def dots : List Char := ['.', '。', '．', '｡']

/-- What stands between the dots of a text. -/
def split : List Char → List (List Char)
  | [] => [[]]
  | c :: cs =>
    if dots.contains c then [] :: split cs
    else
      match split cs with
      | [] => [[c]]
      | label :: labels => (c :: label) :: labels

/-- The labels of a host name, without an empty one behind a dot at the end. -/
def labels (cs : List Char) : List (List Char) :=
  let labels := split cs
  if 1 < labels.length && labels.getLast? = some [] then labels.dropLast else labels

/-- Checks the length of a host name, which may have one character more if its last one is a
dot. -/
def checkLength (cs : List Char) (endsInDot : Bool) : Except Error Unit :=
  if Label.maxNameLength + endsInDot.toNat < cs.length then .error .malformed else .ok ()

/-- A host name, written with ASCII characters. -/
def encode (cs : List Char) : Except Error (List Char) := do
  checkLength cs true
  let ls ← (labels cs).mapM Label.encode
  let endsInDot := cs.getLast?.any dots.contains
  let encoded := ['.'].intercalate (if endsInDot then ls ++ [[]] else ls)
  checkLength encoded endsInDot
  return encoded

/-- The host name that a host name of ASCII characters writes. -/
def decode (cs : List Char) : Except Error (List Char) := do
  checkLength cs true
  let ls ← (labels cs).mapM Label.decode
  let endsInDot := cs.getLast?.any dots.contains
  return ['.'].intercalate (if endsInDot then ls ++ [[]] else ls)

end Rulebook.Hostname
