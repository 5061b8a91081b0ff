/-
  Rulebook.Url.Parser

  Reading addresses.  The marks `:`, `//`, `?` and `#` stand in front of or behind the parts of an
  address, every one of which may be missing; `@` and `:` set the host off from who asks and from
  the port.  Steps of a path that lead nowhere, or one step back, are taken.
-/
import Rulebook.Text.Digits
import Rulebook.Url.Basic
import Rulebook.Url.Host

namespace Rulebook.Url

/-! ## Parts -/

/-- The parts of a text, as they are written. -/
structure Pieces where
  scheme : List Char
  authority : List Char
  path : List Char
  query : Option (List Char)
  fragment : Option (List Char)
deriving DecidableEq, Repr

/-- Whether a character may stand in a scheme. -/
def isSchemeChar (c : Char) : Bool :=
  c.isAlphanum || ['+', '.', '-'].contains c

/-- The scheme of a text, and what follows it. -/
def splitScheme (cs : List Char) : List Char × List Char :=
  let scheme := cs.takeWhile isSchemeChar
  match cs.drop scheme.length with
  | ':' :: rest => if scheme.head?.all Char.isAlpha then (scheme, rest) else ([], cs)
  | _ => ([], cs)

/-- What is in front of the first one of some marks, and what follows from there on. -/
def splitBefore (marks : List Char) (cs : List Char) : List Char × List Char :=
  let front := cs.takeWhile fun c => !marks.contains c
  (front, cs.drop front.length)

/-- The part behind a mark, and what follows it, if the mark comes first. -/
def splitMarked (mark : Char) (ends : List Char) (cs : List Char) :
    Option (List Char) × List Char :=
  match cs with
  | c :: rest =>
    if c = mark then
      let (part, rest) := splitBefore ends rest
      (some part, rest)
    else (none, cs)
  | [] => (none, cs)

/-- The parts of a text. -/
def Pieces.ofChars (cs : List Char) : Pieces :=
  let (scheme, cs) := splitScheme cs
  let (authority, cs) := match cs with
    | '/' :: '/' :: rest => splitBefore ['/', '?', '#'] rest
    | cs => ([], cs)
  let (path, cs) := splitBefore ['?', '#'] cs
  let (query, cs) := splitMarked '?' ['#'] cs
  let (fragment, _) := splitMarked '#' [] cs
  { scheme, authority, path, query, fragment }

/-! ## Who, where and at which port -/

/-- What is in front of the last one of a mark, and what is behind it; if there is none, all is
behind it. -/
def splitAfterLast (mark : Char) (cs : List Char) : List Char × List Char :=
  let back := (cs.reverse.takeWhile (· ≠ mark)).reverse
  (cs.take (cs.length - back.length - 1), back)

/-- The host at the beginning of a text, and what follows it. -/
def splitHost (cs : List Char) : List Char × List Char :=
  match cs with
  | '[' :: _ =>
    match splitAfterLast ']' cs with
    | ([], _) => splitBefore [':', '@'] cs
    | (front, back) => (front ++ [']'], back)
  | cs => splitBefore [':', '@'] cs

/-- The ports that schemes have unless another one is named. -/
def usualPorts : List (String × Int) :=
  [("ftp", 21), ("http", 80), ("https", 443), ("ws", 80), ("wss", 443)]

/-- The port that a text names, unless it is the one that the scheme has anyway. -/
def readPort (scheme cs : List Char) : Except Error (Option Int) :=
  let cs := match cs with
    | ':' :: rest => rest
    | cs => cs
  if cs.isEmpty then .ok none
  else
    match Text.readInt? (String.ofList cs) with
    | none => .error .malformed
    | some n => .ok (if usualPorts.lookup (String.ofList scheme) = some n then none else some n)

/-! ## Paths -/

/-- The steps of a path, the last one first, after one more step. -/
def takeStep (taken : List (List Char)) (step : List Char) : List (List Char) :=
  if step = ['.'] then taken
  else if step = ['.', '.'] then (if taken = [[]] then taken else taken.drop 1)
  else step :: taken

/-- A path without steps that lead nowhere or one step back. -/
def withoutDots (path : List Char) : List Char :=
  ['/'].intercalate ((splitAt '/' path).foldl takeStep []).reverse

/-- Whether a path can follow a scheme and an authority, or follow neither. -/
def fits (hasScheme hasAuthority : Bool) (path : List Char) : Bool :=
  if hasAuthority then path.isEmpty || path.head? = some '/'
  else hasScheme || !(['/', '/'].isPrefixOf path || path.head? = some ':')

/-! ## Addresses -/

/-- How many characters an address may have. -/
def maxLength : Nat := 65536

/-- Whether a character is a control character of ASCII. -/
def isControl (c : Char) : Bool :=
  c.toNat < 0x20 || c.toNat = 0x7F

/-- A part as it is sent. -/
def encodePart (part : Part) (cs : List Char) : Except Error String :=
  match Text.characters? cs with
  | some cs => .ok (String.ofList (escaped part cs))
  | none => .error .noBytes

/-- The address that a text names. -/
def ofText (text : String) : Except Error Url := do
  let cs := text.toList
  if maxLength < Text.size text || cs.any isControl then throw .malformed
  let p := Pieces.ofChars cs
  let (user, place) := splitAfterLast '@' p.authority
  let (host, port) := splitHost place
  let user ← encodePart .user user
  let host ← encodeHost host
  let port ← readPort p.scheme port
  let hasScheme := !p.scheme.isEmpty
  let hasAuthority := !user.isEmpty || !host.isEmpty || port.isSome
  if !fits hasScheme hasAuthority p.path then throw .malformed
  let path ← encodePart .path (if hasScheme || hasAuthority then withoutDots p.path else p.path)
  let query ← p.query.mapM (encodePart .query)
  let fragment ← p.fragment.mapM (encodePart .fragment)
  return {
    scheme := String.ofList (p.scheme.map Char.toLower)
    user, host := String.ofList host, port, path, query, fragment }

/-- Checks that the parts of an address that is sent are not too long. -/
def checkLengths (u : Url) : Except Error Unit :=
  if maxLength < u.path.length || u.query.any (maxLength < ·.length) then .error .malformed
  else .ok ()

end Rulebook.Url
