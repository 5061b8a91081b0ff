/-
  Rulebook.Terminal.Table

  What is printed on a terminal: lines with a style, and the table of the rules.

  A terminal reads the marks in what it is given, and refuses what it does not understand.  Which
  texts these are is its own affair, so a terminal is known here by what it prints (`Console`).
-/
import Rulebook.Row

namespace Rulebook.Terminal

/-- The styles of what is printed. -/
inductive Style where
  | primary
  | dim
  | final
  | disabled
  | error
deriving DecidableEq, Repr

/-- The colour of a style. -/
def Style.colour : Style → String
  | .primary => "#10b981"
  | .dim => "#6b7280"
  | .final => "#fbbf24"
  | .disabled => "#9ca3af"
  | .error => "red"

/-- A column's title, and whether its cells stand at the right. -/
structure Heading where
  title : Value
  right : Bool
deriving DecidableEq, Repr

/-- A line of the table. -/
structure Line where
  cells : List String
  style : Option Style
deriving DecidableEq, Repr

/-- Something printed. -/
inductive Printed where
  | text (text : String) (style : Option Style)
  | table (headings : List Heading) (lines : List Line)
deriving DecidableEq, Repr

/-- A terminal, by what it prints.  A plain one prints whatever it is given. -/
structure Console where
  prints : Printed → Bool := fun _ => true

/-- How many characters of a value a cell shows. -/
def maxLength : Int := 40

/-- The first members of a list, where a negative number counts from the end. -/
def firstOnes {α : Type} (xs : List α) (n : Int) : List α :=
  if 0 ≤ n then xs.take n.toNat else xs.take (xs.length - n.natAbs)

/-- A text cut to a length, with dots if something was cut off. -/
def truncate (s : String) (max : Int := maxLength) : String :=
  let ps := Text.points s.toList
  if max < ps.length then String.ofList (Text.ofPoints (firstOnes ps max)) ++ "..." else s

/-- What stands for a list without rules. -/
def emptyMessage : String := "No rules configured"

/-- Why a list cannot be printed. -/
inductive RenderError where
  /-- its rows cannot be made -/
  | reading (error : ReadingError)
  /-- a cell has a length, or would have to be cut, but is no text -/
  | notText
  /-- a cell is a list or a mapping -/
  | notPrintable
deriving DecidableEq, Repr

/-- What a list that cannot be printed comes to. -/
def RenderError.readingError : RenderError → ReadingError
  | .reading error => error
  | .notText => .notText
  | .notPrintable => .notPrintable

/-- Something that is drawn, or why it cannot be. -/
abbrev Drawing := Except RenderError Printed

/-- What a terminal prints of some drawings, one after another, and why it has not printed all of
them, if so. -/
def Console.draw (c : Console) : List Drawing → List Printed × Option ReadingError
  | [] => ([], none)
  | .error error :: _ => ([], some error.readingError)
  | .ok printed :: rest =>
    if c.prints printed then
      let (more, error) := c.draw rest
      (printed :: more, error)
    else ([], some .strayMarks)

/-- What a cell shows of a value: nothing of a short list or mapping. -/
def shownText (v : Value) : Except RenderError (Option String) :=
  match v with
  | .text s => .ok (some (truncate s))
  | .list items => if maxLength < items.length then .error .notText else .ok none
  | .mapping entries => if maxLength < entries.length then .error .notText else .ok none
  | _ => .error .notText

/-- The text of a cell in a row, if it shows anything. -/
def cellText (row : Row) (cell : Cell) : Except RenderError (Option String) :=
  match cell.kind with
  | .checkbox => .ok (some (if cell.checked.truth then "✓" else "✗"))
  | .actions => .ok (some (" ".intercalate row.hints))
  | _ => shownText cell.text

/-- The style of the row of a rule. -/
def rowStyle (r : Rule) : Option Style :=
  if r.isFinal then some .final
  else if r.enabled.truth then none
  else some .disabled

/-- The line of a row. -/
def line (r : Rule) (row : Row) : Except RenderError Line := do
  match (← row.cells.mapM (cellText row)).mapM id with
  | some cells => return { cells, style := rowStyle r }
  | none => throw .notPrintable

/-- The table of a list, or a line that says that there is none. -/
def render (schema : Schema) (may : Permissions) (rules : List Rule) :
    Except RenderError Printed :=
  if rules.isEmpty then .ok (.text emptyMessage (some .dim))
  else do
    let rows ← (Row.all schema may rules).mapError .reading
    let lines ← (rules.zip rows).mapM fun (r, row) => line r row
    return .table (schema.columns.map fun c => { title := c.title, right := c.kind == .index })
      lines

end Rulebook.Terminal
