/-
  Rulebook.Main

  The command line as a program.  It looks at the files that a call may need, runs the call on
  them, prints its report and writes back the files that have changed.  A list on the other side
  of a connection is out of reach from here, and so is one in a database.
-/
import Rulebook.Terminal.Run

open Rulebook Storage Terminal

namespace Rulebook.Main

/-! ## Texts -/

/-- How the program is called. -/
def usage : String :=
  "usage: rulelist [--file FILE] [--config CONFIG] [-v] COMMAND ...\n" ++
  "commands: list, add, edit, delete, up, down, move, toggle"

/-- What is wrong with a path. -/
def describePath : Path.Error → String
  | .missing => "there is no such file or folder"
  | .notFolder => "there is a file on the way"
  | .isFolder => "there is a folder where the file should be"
  | .inTheWay => "there is a file where a folder should be"
  | .tooLong => "the path is too long"
  | .null => "the path holds the null character"

/-- What is wrong with a request. -/
def describeRequest : RequestError → String
  | .notText => "an address is a text"
  | .header => "a key has ASCII characters only"
  | error => error.message?.getD "the address is not right"

/-- Why a list could not be loaded. -/
def describeLoad : LoadError → String
  | .path error => describePath error
  | .notText => "the file does not hold text"
  | .document .malformed => "the file does not hold a JSON document"
  | .document (.tooLong digits) => "a number of " ++ toString digits ++ " digits is too long"
  | .document .tooDeep => "the document is too deep"
  | .wideOption => "an option of the database is too large"
  | .isolation => isolationMessage
  | .notOpened => "the database could not be opened"
  | .notDatabase => "databases cannot be read here"
  | .noTable => "the database has no lists"
  | .name _ => "a list cannot have such a name"
  | .request error => describeRequest error
  | .fetch error => error.message

/-- What a fault says. -/
def describe : Terminal.Fault → String
  | .reading error => error.message
  | .load error => describeLoad error
  | .noFile => "no file is named"
  | .place (.folder error) => describePath error
  | .place (.option error) => error.message
  | .noTarget => "no position is named"
  | .longPosition => "a position is too long"
  | .editor error => error.message

/-- A text with blanks up to a width, behind it or in front of it. -/
def padded (width : Nat) (right : Bool) (s : String) : String :=
  let blanks := String.ofList (List.replicate (width - Text.size s) ' ')
  if right then blanks ++ s else s ++ blanks

/-- The lines of a table. -/
def tableLines (headings : List Heading) (lines : List Line) : List String :=
  let rows := headings.map (·.title.shown) :: lines.map Line.cells
  let widths := headings.mapIdx fun i _ =>
    rows.foldl (fun width row => max width (Text.size ((row[i]?).getD ""))) 0
  rows.map fun row =>
    "  ".intercalate ((row.zip (widths.zip headings)).map fun (cell, width, heading) =>
      padded width heading.right cell)

/-- A text without the marks that make a part of it bold. -/
def withoutMarks (s : String) : String :=
  (s.replace "[bold red]" "").replace "[/bold red]" ""

/-- The lines of something printed. -/
def printedLines : Printed → List String
  | .text text _ => [withoutMarks text]
  | .table headings lines => tableLines headings lines

/-! ## Files -/

/-- The name of what is at a spot. -/
def fileName (s : Spot) : String :=
  Text.plain s.path.text

/-- What is at a spot. -/
def look (s : Spot) : IO (Option Node) := do
  let found ← (IO.FS.realPath (fileName s)).toBaseIO
  match found with
  | .error _ => return none
  | .ok file =>
    if ← file.isDir then return some .folder
    return some (.file (← IO.FS.readBinFile file).toList)

/-- The spots on the way to a file. -/
def way (p : Path) : List Spot :=
  (List.range (p.parts.length + 1)).map fun n => .ofPath { p with parts := p.parts.take n }

/-- The spots that a call may need. -/
def spotsOf (a : Arguments) : List Spot :=
  let files := a.file.toList ++ a.config.value?.toList ++ a.database.value?.toList
  let beside := files.filterMap fun p => p.beside? File.temporaryEnding
  ((files ++ beside).flatMap way).eraseDups

/-- What is at some spots. -/
def lookAll (spots : List Spot) : IO Tree :=
  spots.foldlM (fun t s => do
    match ← look s with
    | some node => return t.put s node
    | none => return t) {}

/-- Whether there is a database among some files. -/
def hasDatabase (t : Tree) : Bool :=
  t.nodes.any fun (_, node) => match node with
    | .database _ => true
    | _ => false

/-- Writes what is at a spot.  A file is written beside its place and then moved there. -/
def write (s : Spot) : Node → IO Unit
  | .folder => IO.FS.createDirAll (fileName s)
  | .file bytes => do
    let beside := fileName s ++ File.temporaryEnding
    IO.FS.writeBinFile beside ⟨bytes.toArray⟩
    IO.FS.rename beside (fileName s)
  | .database _ => pure ()

/-- Writes what has changed. -/
def writeChanges (before after : Tree) : IO Unit :=
  after.nodes.forM fun (s, node) => do
    if before.at? s ≠ some node then write s node

/-! ## The program -/

/-- The variables of the environment that give settings. -/
def environment : IO (Record String String) := do
  let mut found := []
  for key in Settings.Key.all do
    if let some value ← IO.getEnv key.variableName then
      found := found ++ [(key.variableName, Text.ofPlain value)]
  return found

/-- Asks the user a question. -/
def ask (question : String) : IO Consent := do
  IO.print (Text.plain question ++ " [y/n]: ")
  (← IO.getStdout).flush
  let line ← (← IO.getStdin).getLine
  return if Text.lowerAscii (Text.trim line) = "y" then .yes else .no

/-- Prints a report, and gives the exit code. -/
def showReport (r : Report) : IO UInt32 := do
  for printed in r.printed do
    for line in printedLines printed do IO.println (Text.plain line)
  match r.ending with
  | .exit code => return code.toUInt32
  | .stopped .help => IO.println usage; return 0
  | .stopped .misuse => IO.eprintln usage; return 2
  | .failed fault => IO.eprintln ("error: " ++ Text.plain (describe fault)); return 1

end Rulebook.Main

open Rulebook.Main in
/-- Runs the command line. -/
def main (arguments : List String) : IO UInt32 := do
  let environment ← environment
  let arguments := arguments.map Text.ofPlain
  let spots := match Arguments.read arguments with
    | .ok a => spotsOf a
    | .error _ => []
  let tree ← lookAll spots
  let site : Site := { tree, link := { answer := fun _ => .broken "no connection" } }
  let call : Call := { arguments, environment, consent := .yes }
  let questions := (run site call).2.asked
  let consent ← match questions.head? with
    | some question => ask question
    | none => pure .yes
  let (after, report) := run site { call with consent }
  if hasDatabase after.tree then
    IO.eprintln "error: databases cannot be kept here"
    return 1
  writeChanges tree after.tree
  showReport report
