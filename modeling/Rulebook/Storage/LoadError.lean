/-
  Rulebook.Storage.LoadError

  Why a list could not be loaded, from whichever place it is kept in.
-/
import Rulebook.Json.Parser
import Rulebook.Json.Printer
import Rulebook.Storage.Path
import Rulebook.Url.Host

namespace Rulebook.Storage

/-- Why a remote list could not be fetched. -/
inductive FetchError where
  /-- the other side could not be reached -/
  | unreachable (url reason : String)
  /-- the other side did not answer with success -/
  | status (url : String) (code : Int)
  /-- the answer is not a JSON document -/
  | notDocument (url : String)
  /-- the document is not a mapping -/
  | notMapping (url : String)
deriving DecidableEq, Repr

/-- What a failed fetch says. -/
def FetchError.message : FetchError → String
  | .unreachable url reason => "Failed to reach " ++ url ++ ": " ++ reason
  | .status url code => "Failed to load rules from " ++ url ++ ": HTTP " ++ toString code
  | .notDocument url => "Invalid JSON from " ++ url
  | .notMapping url => "Unexpected payload from " ++ url

/-- Why a value cannot be the name of a list in a database. -/
inductive ListNameError where
  /-- it is a list, a mapping or an object that no document can hold -/
  | notScalar
  /-- it is a whole number of more than 64 bits -/
  | tooLarge
  /-- it is a text that has no bytes -/
  | noBytes
deriving DecidableEq, Repr

/-- Why a request could not be made. -/
inductive RequestError where
  /-- the address is not a text -/
  | notText
  /-- the address is not right -/
  | address (error : Url.Error)
  /-- the address does not say where the other side is -/
  | relative (target : String)
  /-- the host of the address cannot be read back -/
  | brackets (error : Url.BracketError)
  /-- a header has characters beyond ASCII -/
  | header
  /-- what is to be sent cannot be written -/
  | body (obstacle : Json.Obstacle)
deriving DecidableEq, Repr

/-- What is said about an address that a request was sent to in vain, and about a number that has
too many digits to be sent. -/
def RequestError.message? : RequestError → Option String
  | .relative target => some ("unknown url type: " ++ Text.quoted target)
  | .brackets error => some error.message
  | .body .tooLong => some Text.tooManyDigits
  | .notText | .address _ | .header | .body _ => none

/-- Why a list could not be loaded. -/
inductive LoadError where
  /-- the path of the file cannot be used -/
  | path (error : Path.Error)
  /-- the file does not hold text -/
  | notText
  /-- the text is not a JSON document -/
  | document (fault : Json.Fault)
  /-- an option of the database is a number of more than 32 bits -/
  | wideOption
  /-- the isolation of the database is said several times -/
  | isolation
  /-- the database could not be opened -/
  | notOpened
  /-- the file does not hold a database -/
  | notDatabase
  /-- the database has no table of lists -/
  | noTable
  /-- the name of the list cannot be looked for -/
  | name (error : ListNameError)
  /-- a remote list could not be asked for -/
  | request (error : RequestError)
  /-- a remote list could not be fetched -/
  | fetch (error : FetchError)
deriving DecidableEq, Repr

/-- What is said about an isolation that is said several times: it is none. -/
def isolationMessage : String :=
  "isolation_level string must be '', 'DEFERRED', 'IMMEDIATE', or 'EXCLUSIVE'"

end Rulebook.Storage
