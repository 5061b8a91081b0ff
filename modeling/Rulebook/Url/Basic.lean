/-
  Rulebook.Url.Basic

  The addresses of things on the other side of a connection, in parts.  Every part is as it is
  sent: in ASCII characters, with all others written by number.

  An address that has a scheme and a host says by itself where the other side is.  Any other one is
  relative, and all that is sent of it is where the thing is there.
-/

namespace Rulebook

/-- An address. -/
structure Url where
  scheme : String := ""
  /-- who asks -/
  user : String := ""
  host : String := ""
  port : Option Int := none
  path : String := ""
  query : Option String := none
  fragment : Option String := none
deriving DecidableEq, Repr

namespace Url

/-- The host, and the port if it is not the usual one.  A host with colons has brackets around
it. -/
def place (u : Url) : String :=
  (if u.host.toList.contains ':' then "[" ++ u.host ++ "]" else u.host) ++
    match u.port with
    | some n => ":" ++ toString n
    | none => ""

/-- What stands between the two slashes and the path. -/
def authority (u : Url) : String :=
  (if u.user.isEmpty then "" else u.user ++ "@") ++ u.place

/-- The text of an address. -/
def text (u : Url) : String :=
  (if u.scheme.isEmpty then "" else u.scheme ++ ":") ++
    (if u.authority.isEmpty then "" else "//" ++ u.authority) ++ u.path ++
    (match u.query with
      | some q => "?" ++ q
      | none => "") ++
    match u.fragment with
    | some f => "#" ++ f
    | none => ""

/-- Whether an address says by itself where the other side is. -/
def isAbsolute (u : Url) : Bool :=
  !u.scheme.isEmpty && !u.host.isEmpty

/-- What is sent of an address that is relative: its path, from the top, and its query. -/
def target (u : Url) : Url where
  path := String.ofList ('/' :: u.path.toList.dropWhile (· = '/'))
  query := u.query

/-- What is sent of an address. -/
def sent (u : Url) : Url :=
  if u.isAbsolute then u else u.target

end Url

end Rulebook
