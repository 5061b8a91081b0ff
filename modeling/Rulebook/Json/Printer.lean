/-
  Rulebook.Json.Printer

  Values as JSON text.  Characters beyond ASCII are written as they are.  A name of an entry that is
  no text is written as the text of its value.

  Not every value can be written: the first obstacle that is met is the answer, in the order in
  which the text would have been written.  What else a writer refuses, and when texts are put into
  bytes, depends on the writer.
-/
import Rulebook.Decimal.Shortest
import Rulebook.Text.Digits
import Rulebook.Text.Quoted
import Rulebook.Value.Parts

namespace Rulebook

namespace Json

/-- How JSON text spells what is not a finite number. -/
def special : Decimal.Special := ⟨"NaN", "Infinity"⟩

/-- How a list or a mapping is laid out: on one line, with blanks or without any, or with every
member on a line of its own, two spaces deeper. -/
inductive Layout where
  | compact
  | line
  | block
deriving DecidableEq, Repr

/-- How values are written. -/
structure Writer where
  layout : Layout
  /-- whether numbers that are not finite are written, by names of their own -/
  special : Bool := true
  /-- whether each text is put into bytes as soon as it is written -/
  encodes : Bool := false
deriving DecidableEq, Repr

/-- What keeps a value from being written. -/
inductive Obstacle where
  /-- an object that no document can hold -/
  | foreign
  /-- a number that is not finite -/
  | notFinite
  /-- a whole number of more digits than can be shown -/
  | tooLong
  /-- a text that has no bytes -/
  | noBytes
  /-- lists and mappings inside each other to too great a depth -/
  | tooDeep
deriving DecidableEq, Repr

/-! ## Texts -/

/-- One character of a JSON string. -/
def stringChar (c : Char) : List Char :=
  if c = '"' then ['\\', '"']
  else if c = '\\' then ['\\', '\\']
  else if c = '\n' then ['\\', 'n']
  else if c = '\r' then ['\\', 'r']
  else if c = '\t' then ['\\', 't']
  else if c = '\x0c' then ['\\', 'f']
  else if c = '\x08' then ['\\', 'b']
  else if c.toNat < 32 then '\\' :: 'u' :: Text.hexDigits 4 c.toNat
  else [c]

/-- A text as a JSON string. -/
def string (s : String) : String :=
  String.ofList ('"' :: s.toList.flatMap stringChar ++ ['"'])

/-- The text of a scalar, which a text has without quotes. -/
def Writer.nameText (w : Writer) : Name → Except Obstacle String
  | .null => .ok "null"
  | .bool b => .ok (if b then "true" else "false")
  | .int n => if Text.isTooLong n then .error .tooLong else .ok (toString n)
  | .float x => if w.special || x.isFinite then .ok (x.text Json.special) else .error .notFinite
  | .text s => if !w.encodes || Text.hasBytes s then .ok s else .error .noBytes
  | .foreign => .error .foreign

/-! ## Values -/

/-- What stands between two members at a depth, after the comma. -/
def Layout.gap : Layout → (depth : Nat) → String
  | .compact, _ => ""
  | .line, _ => " "
  | .block, depth => "\n" ++ String.ofList (List.replicate (2 * depth) ' ')

/-- What stands between a bracket and the members, which are at a depth. -/
def Layout.edge : Layout → (depth : Nat) → String
  | .compact, _ | .line, _ => ""
  | .block, depth => Layout.block.gap depth

/-- What stands between the name of an entry and its value. -/
def Layout.colon : Layout → String
  | .compact => ":"
  | .line | .block => ": "

/-- Members between brackets.  `depth` is the one of the brackets. -/
def bracketed (layout : Layout) (depth : Nat) (opening closing : String) : List String → String
  | [] => opening ++ closing
  | members =>
    opening ++ layout.edge (depth + 1) ++
      ("," ++ layout.gap (depth + 1)).intercalate members ++ layout.edge depth ++ closing

mutual

/-- The JSON text of a value inside `depth` brackets. -/
def write (w : Writer) (depth : Nat) : Value → Except Obstacle String
  | .null => w.nameText .null
  | .bool b => w.nameText (.bool b)
  | .int n => w.nameText (.int n)
  | .float x => w.nameText (.float x)
  | .text s => (w.nameText (.text s)).map string
  | .list items =>
    if depth < Value.maxDepth then
      (writeItems w (depth + 1) items).map (bracketed w.layout depth "[" "]")
    else .error .tooDeep
  | .mapping entries =>
    if depth < Value.maxDepth then
      (writeEntries w (depth + 1) entries).map (bracketed w.layout depth "\x7b" "\x7d")
    else .error .tooDeep
  | .foreign => w.nameText .foreign

/-- The JSON texts of the items of a list. -/
def writeItems (w : Writer) (depth : Nat) : List Value → Except Obstacle (List String)
  | [] => .ok []
  | v :: rest => do
    let text ← write w depth v
    let texts ← writeItems w depth rest
    return text :: texts

/-- The JSON texts of the entries of a mapping. -/
def writeEntries (w : Writer) (depth : Nat) :
    List (Name × Value) → Except Obstacle (List String)
  | [] => .ok []
  | (k, v) :: rest => do
    let name ← w.nameText k
    let text ← write w depth v
    let texts ← writeEntries w depth rest
    return (string name ++ w.layout.colon ++ text) :: texts

end

/-- The JSON text of a document. -/
def print (w : Writer) (v : Value) : Except Obstacle String :=
  write w 0 v

/-- The JSON text of a document in a layout, if it has one. -/
def print? (layout : Layout) (v : Value) : Option String :=
  (print { layout } v).toOption

/-- Whether a value holds no object that no document can hold. -/
def isDocument (v : Value) : Bool :=
  v.scalars.all fun k => decide (k ≠ .foreign)

end Json

end Rulebook
