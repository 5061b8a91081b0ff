/-
  Rulebook.Storage.Remote

  A list kept on the other side of an HTTP connection: it is fetched from one address and posted
  to another one.  Only an answer with status 200 counts as success.
-/
import Rulebook.Storage.LoadError
import Rulebook.Text.Encoding
import Rulebook.Url.Parser

namespace Rulebook.Storage

/-! ## Requests and answers -/

inductive Method where
  | get
  | post
deriving DecidableEq, Repr

/-- The name of a method. -/
def Method.name : Method → String
  | .get => "GET"
  | .post => "POST"

/-- A request. -/
structure Request where
  method : Method
  url : Url
  headers : Record String String
  /-- the JSON text that is sent, if there is one -/
  body : Option String := none
deriving DecidableEq, Repr

/-- An answer to a request. -/
inductive Answer where
  | response (status : Int) (body : List UInt8)
  /-- the request did not get through -/
  | broken (reason : String)
deriving DecidableEq, Repr

/-- A connection to the other side: the answers it will give, by the number of the request, and
the requests that were sent. -/
structure Link where
  answer : Nat → Answer
  sent : List Request := []

/-- Sends a request and waits for its answer. -/
def Link.send (l : Link) (request : Request) : Link × Answer :=
  ({ l with sent := l.sent ++ [request] }, l.answer l.sent.length)

/-! ## Addresses -/

/-- The addresses of a remote list. -/
structure Remote where
  saveUrl : Value
  loadUrl : Value
  apiKey : Option String := none
deriving DecidableEq, Repr

namespace Remote

/-- The addresses of a list that is fetched from where it is posted to, unless another address is
given. -/
def new (saveUrl : Value) (loadUrl : Value := .null) (apiKey : Option String := none) : Remote :=
  { saveUrl, loadUrl := loadUrl.orElse saveUrl, apiKey }

/-- The headers of every request. -/
def headers (r : Remote) : Record String String :=
  ("Content-Type", "application/json") ::
    match r.apiKey with
    | some key => if key.isEmpty then [] else [("X-API-Key", key)]
    | none => []

/-- The text of an address, and the address that is sent, if the headers can be sent. -/
def target (r : Remote) (address : Value) : Except RequestError (String × Url) := do
  if !r.headers.all (·.2.toList.all Text.Punycode.isAscii) then throw .header
  match address with
  | .text text =>
    let url := (← (Url.ofText text).mapError .address).sent
    url.checkLengths.mapError .address
    return (text, url)
  | _ => throw .notText

/-- Checks that an address says where the other side is. -/
def checkSource (url : Url) : Except RequestError Unit :=
  if url.isAbsolute then (Url.checkBrackets url.place.toList).mapError .brackets
  else .error (.relative url.text)

/-- Sends a request to an address, if something can be sent to its host.  The answer does not count
if the address does not say where the other side is. -/
def send (r : Remote) (l : Link) (method : Method) (url : Url) (body : Option String) :
    Link × Except RequestError Answer :=
  match Url.checkHost url.host.toList with
  | .error e => (l, .error (.address e))
  | .ok () =>
    match l.send { method, url, headers := r.headers, body } with
    | (l, .broken reason) => (l, .ok (.broken reason))
    | (l, answer) => (l, (checkSource url).map fun _ => answer)

/-! ## Saving -/

/-- Why a payload could not be sent. -/
inductive SaveError where
  /-- the request could not be made -/
  | request (error : RequestError)
  /-- the payload holds an object that no document can hold -/
  | notDocument
  /-- the payload holds a number that is not finite -/
  | notFinite
  /-- the payload holds a text that has no bytes -/
  | noBytes
deriving DecidableEq, Repr

/-- How a payload is written to be sent: without blanks, and with finite numbers only. -/
def writer : Json.Writer := { layout := .compact, special := false }

/-- The outcome of a save whose payload is not written. -/
def unwritten : Json.Obstacle → SaveError
  | .foreign => .notDocument
  | .notFinite => .notFinite
  | .noBytes => .noBytes
  | obstacle => .request (.body obstacle)

/-- The JSON text of a payload, if it can be sent. -/
def bodyOf (payload : Value) : Except SaveError String :=
  match Json.print writer payload with
  | .error obstacle => .error (unwritten obstacle)
  | .ok text => if Text.hasBytes text then .ok text else .error .noBytes

/-- Whether an answer says that a payload was saved. -/
def accepts : Answer → Bool
  | .response status _ => status == 200
  | .broken _ => false

/-- Posts a payload, and says whether it was saved. -/
def save (r : Remote) (l : Link) (payload : Value) : Link × Except SaveError Bool :=
  match r.target r.saveUrl, bodyOf payload with
  | .error e, _ => (l, .error (.request e))
  | .ok _, .error e => (l, .error e)
  | .ok (_, url), .ok body =>
    let (l, answer) := r.send l .post url (some body)
    (l, (answer.mapError .request).map accepts)

/-! ## Loading -/

/-- The mapping that an answer from an address holds. -/
def readAnswer (url : String) : Answer → Except LoadError Value
  | .broken reason => .error (.fetch (.unreachable url reason))
  | .response status body =>
    if status = 200 then
      match (Text.ofBody? body).map (Json.parse ·) with
      | some (.ok (.mapping entries)) => .ok (.mapping entries)
      | some (.ok _) => .error (.fetch (.notMapping url))
      | some (.error .tooDeep) => .error (.document .tooDeep)
      | _ => .error (.fetch (.notDocument url))
    else .error (.fetch (.status url status))

/-- Fetches the list. -/
def load (r : Remote) (l : Link) : Link × Except LoadError Value :=
  match r.target r.loadUrl with
  | .error e => (l, .error (.request e))
  | .ok (text, url) =>
    let (l, answer) := r.send l .get url none
    (l, do readAnswer text (← answer.mapError .request))

end Remote

end Rulebook.Storage
