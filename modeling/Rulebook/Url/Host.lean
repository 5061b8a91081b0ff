/-
  Rulebook.Url.Host

  The hosts of addresses: four numbers with dots between them, up to eight numbers with colons
  between them and brackets around them, or a name.
-/
import Rulebook.Hostname.Basic
import Rulebook.Text.Small
import Rulebook.Url.Escape

namespace Rulebook.Url

/-- Why a text is no address, or one that nothing can be sent to. -/
inductive Error where
  /-- it is not built like one -/
  | malformed
  /-- it has a character that has no bytes -/
  | noBytes
  /-- its host is written like a name of any characters, but writes none -/
  | hostname (error : Hostname.Error)
deriving DecidableEq, Repr

/-- What stands between the characters of a kind. -/
def splitAt (mark : Char) : List Char → List (List Char)
  | [] => [[]]
  | c :: cs =>
    if c = mark then [] :: splitAt mark cs
    else
      match splitAt mark cs with
      | [] => [[c]]
      | part :: parts => (c :: part) :: parts

/-! ## Four numbers -/

/-- Whether a text looks like four numbers with dots between them, however large they are. -/
def looksLikeNumbers (cs : List Char) : Bool :=
  let parts := splitAt '.' cs
  parts.length = 4 && parts.all fun part => part ≠ [] && part.all Char.isDigit

/-- Whether a text is a number of one byte. -/
def isByte (cs : List Char) : Bool :=
  cs ≠ [] && cs.length ≤ 3 && cs.all Char.isDigit && (cs.length = 1 || cs.head? ≠ some '0') &&
    (cs.foldl (fun n c => 10 * n + (c.toNat - 0x30)) 0) < 0x100

/-- Whether a text is four numbers with dots between them. -/
def isFourNumbers (cs : List Char) : Bool :=
  let parts := splitAt '.' cs
  parts.length = 4 && parts.all isByte

/-! ## Eight numbers -/

/-- Whether a text is one of the numbers between colons. -/
def isGroup (cs : List Char) : Bool :=
  cs ≠ [] && cs.length ≤ 4 &&
    cs.all fun c => c.isDigit || ('a' ≤ c.toLower && c.toLower ≤ 'f')

/-- The parts of a text between colons, where four numbers with dots between them at the end count
as two parts. -/
def groups (cs : List Char) : List (List Char) :=
  let parts := splitAt ':' cs
  match parts.getLast? with
  | some last => if isFourNumbers last then parts.dropLast ++ [['0'], ['0']] else parts
  | none => parts

/-- Whether parts are eight numbers, some of which may be left out at one place, which is an empty
part.  At an end that place is two empty parts. -/
def areGroups (parts : List (List Char)) : Bool :=
  let inner := (parts.drop 1).dropLast
  match inner.findIdx? List.isEmpty with
  | none => parts.length = 8 && parts.all isGroup
  | some i =>
    let before := parts.take (i + 1)
    let after := parts.drop (i + 2)
    let before := if before = [[]] then [] else before
    let after := if after = [[]] then [] else after
    before.length + after.length ≤ 7 && before.all isGroup && after.all isGroup

/-- Whether a text is up to eight numbers with colons between them, and perhaps a percent sign and
the name of a zone. -/
def isEightNumbers (cs : List Char) : Bool :=
  let numbers := cs.takeWhile (· ≠ '%')
  let zone := cs.drop numbers.length
  let parts := groups numbers
  (zone = [] || (1 < zone.length && !(zone.drop 1).contains '%')) &&
    3 ≤ parts.length && areGroups parts

/-! ## Hosts -/

/-- Whether a text has brackets around it. -/
def isBracketed (cs : List Char) : Bool :=
  2 ≤ cs.length && cs.head? = some '[' && cs.getLast? = some ']'

/-- A host as it is sent. -/
def encodeHost (cs : List Char) : Except Error (List Char) :=
  if cs.isEmpty then .ok []
  else if looksLikeNumbers cs then
    if isFourNumbers cs then .ok cs else .error .malformed
  else if isBracketed cs then
    let inner := (cs.drop 1).dropLast
    if isEightNumbers inner then .ok inner else .error .malformed
  else if cs.all Text.Punycode.isAscii then .ok (escaped .host (cs.map Char.toLower))
  else
    match Hostname.encode (Text.smallChars [] cs) with
    | .ok name => .ok name
    | .error _ => .error .malformed

/-- Checks that something can be sent to a host. -/
def checkHost (cs : List Char) : Except Error Unit := do
  if Hostname.Label.encodedMark.isPrefixOf cs then
    let _ ← (Hostname.decode cs).mapError .hostname
  if !cs.all Text.Punycode.isAscii then throw .noBytes

/-! ## Reading back -/

/-- Why a host with brackets around it cannot be read back. -/
inductive BracketError where
  /-- the brackets end before the host does -/
  | early
  /-- a text between brackets is no host -/
  | content (text : String)
deriving DecidableEq, Repr

/-- What is said about a host that cannot be read back. -/
def BracketError.message : BracketError → String
  | .early => "Invalid IPv6 URL"
  | .content text => Text.quoted text ++ " does not appear to be an IPv4 or IPv6 address"

/-- Checks that a host that has brackets around it, and perhaps a port behind it, can be read back.
The first bracket that closes is taken for the end, although the name of a zone may have one. -/
def checkBrackets : List Char → Except BracketError Unit
  | '[' :: cs =>
    let inner := cs.takeWhile (· ≠ ']')
    let rest := cs.drop (inner.length + 1)
    if !(rest.isEmpty || rest.head? = some ':') then .error .early
    else if isEightNumbers inner then .ok ()
    else .error (.content (String.ofList inner))
  | _ => .ok ()

end Rulebook.Url
