import Rulebook.Book
import Rulebook.Dialog
import Rulebook.Editor.Command
import Rulebook.Field.Reading
import Rulebook.Field.Visibility
import Rulebook.Json.Parser
import Rulebook.Json.Printer
import Rulebook.Main
import Rulebook.Name
import Rulebook.Proofs.Arrangement
import Rulebook.Proofs.Arrangement.Drop
import Rulebook.Proofs.Book.Call
import Rulebook.Proofs.Book.Edit
import Rulebook.Proofs.Book.Members
import Rulebook.Proofs.Book.Normal
import Rulebook.Proofs.Book.Overshoot
import Rulebook.Proofs.Book.Relocation
import Rulebook.Proofs.Book.Row
import Rulebook.Proofs.Book.Sentinel
import Rulebook.Proofs.Book.Step
import Rulebook.Proofs.Book.Stored
import Rulebook.Proofs.Book.Undo
import Rulebook.Proofs.Decimal.Characters
import Rulebook.Proofs.Dialog.Checked
import Rulebook.Proofs.Dialog.Draft
import Rulebook.Proofs.Dialog.Filled
import Rulebook.Proofs.Dialog.Fresh
import Rulebook.Proofs.Dialog.Hidden
import Rulebook.Proofs.Dialog.Repair
import Rulebook.Proofs.Dialog.Session
import Rulebook.Proofs.Dialog.Untouched
import Rulebook.Proofs.Drag
import Rulebook.Proofs.Editor.Apart
import Rulebook.Proofs.Editor.Arranging
import Rulebook.Proofs.Editor.Begin
import Rulebook.Proofs.Editor.Dialogs
import Rulebook.Proofs.Editor.Durable
import Rulebook.Proofs.Editor.Flags
import Rulebook.Proofs.Editor.Forgets
import Rulebook.Proofs.Editor.Given
import Rulebook.Proofs.Editor.InPlace
import Rulebook.Proofs.Editor.Journal
import Rulebook.Proofs.Editor.Keeps
import Rulebook.Proofs.Editor.Made
import Rulebook.Proofs.Editor.Overtaking
import Rulebook.Proofs.Editor.Reading
import Rulebook.Proofs.Editor.Report
import Rulebook.Proofs.Editor.Rollback
import Rulebook.Proofs.Editor.Rows
import Rulebook.Proofs.Editor.Sentinel
import Rulebook.Proofs.Editor.Serial
import Rulebook.Proofs.Editor.Trail
import Rulebook.Proofs.Editor.Undone
import Rulebook.Proofs.Editor.Unordered
import Rulebook.Proofs.Editor.Workbench
import Rulebook.Proofs.Field.Dependence
import Rulebook.Proofs.Json.Bytes
import Rulebook.Proofs.Json.Printer
import Rulebook.Proofs.Outcome
import Rulebook.Proofs.Rule.Storable
import Rulebook.Proofs.Run
import Rulebook.Proofs.Saving
import Rulebook.Proofs.Settings
import Rulebook.Proofs.Storage.File
import Rulebook.Proofs.Storage.Register
import Rulebook.Proofs.Storage.Remote
import Rulebook.Proofs.Terminal.Asked
import Rulebook.Proofs.Terminal.Beside
import Rulebook.Proofs.Terminal.Console
import Rulebook.Proofs.Terminal.Follow
import Rulebook.Proofs.Terminal.Kept
import Rulebook.Proofs.Terminal.Remote
import Rulebook.Proofs.Value.Shown
import Rulebook.Row
import Rulebook.Rule.Wire
import Rulebook.Saving
import Rulebook.Schema.Headers
import Rulebook.Settings
import Rulebook.Storage.Configuration
import Rulebook.Storage.File
import Rulebook.Storage.Memory
import Rulebook.Storage.Remote
import Rulebook.Terminal.Arguments
import Rulebook.Terminal.Run
import Rulebook.Terminal.Table
import Rulebook.Text.Digits
import Rulebook.Text.Encoding
import Rulebook.Text.Quoted
import Rulebook.Value.Reading
