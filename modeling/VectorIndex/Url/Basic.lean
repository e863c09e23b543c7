import VectorIndex.Text.Percent

/-!
# Addresses

The parts of an address and its text.  The address of a server names a host; other
addresses may consist of a scheme and a path, and some have a path that is opaque, so that
nothing can be resolved against them.
-/

set_option autoImplicit false

namespace VectorIndex

/-- Why a text is no address. -/
inductive UrlError where
  | relativeWithoutBase
  | opaqueBase
  | emptyHost
  | badDomain
  | badDomainCharacter
  | badPort
  | badIpv4
  | badIpv6
  deriving DecidableEq, Repr

/-- The wording of an error. -/
def UrlError.message : UrlError → String
  | .relativeWithoutBase => "relative URL without a base"
  | .opaqueBase => "relative URL with a cannot-be-a-base base"
  | .emptyHost => "empty host"
  | .badDomain => "invalid international domain name"
  | .badDomainCharacter => "invalid domain character"
  | .badPort => "invalid port number"
  | .badIpv4 => "invalid IPv4 address"
  | .badIpv6 => "invalid IPv6 address"

/-- How the syntax of an address depends on its scheme. -/
inductive SchemeKind where
  | file
  /-- The scheme of a protocol that everybody knows. -/
  | special
  | other
  deriving DecidableEq, Repr

namespace SchemeKind

/-- The schemes of well-known protocols with their ports. -/
def ports : List (String × Nat) :=
  [("http", 80), ("https", 443), ("ws", 80), ("wss", 443), ("ftp", 21)]

/-- The kind of a scheme in lower case. -/
def ofScheme (scheme : String) : SchemeKind :=
  if scheme = "file" then .file
  else if (ports.lookup scheme).isSome then .special
  else .other

/-- Whether a backslash is as good as a slash. -/
def isSpecial (k : SchemeKind) : Bool :=
  k != .other

end SchemeKind

/-- The part of an address between two slashes and the path. -/
structure Authority where
  username : String := ""
  password : Option String := none
  host : String := ""
  /-- The port, unless it is that of the scheme. -/
  port : Option Nat := none
  deriving DecidableEq, Repr

/-- The path of an address. -/
inductive UrlPath where
  /-- A text without structure. -/
  | plain (s : String)
  /-- Segments, each behind a slash. -/
  | segments (names : List String)
  deriving DecidableEq, Repr

/-- An address. -/
structure Url where
  scheme : String
  authority : Option Authority := none
  path : UrlPath
  query : Option String := none
  fragment : Option String := none
  deriving DecidableEq, Repr

namespace Url

/-- The kind of the scheme. -/
def kind (u : Url) : SchemeKind :=
  .ofScheme u.scheme

/-- Whether other addresses cannot be resolved against an address. -/
def isPlain (u : Url) : Bool :=
  match u.path with
  | .plain _ => true
  | .segments _ => false

/-- The text of an authority. -/
def authorityText (a : Authority) : String :=
  let credentials := match a.username, a.password with
    | "", none => ""
    | name, none => name ++ "@"
    | name, some password => name ++ ":" ++ password ++ "@"
  let port := match a.port with
    | some n => ":" ++ toString n
    | none => ""
  "//" ++ credentials ++ a.host ++ port

/-- The text of a path. -/
def pathText : UrlPath → String
  | .plain s => s
  | .segments names => String.join (names.map ("/" ++ ·))

/-- What a request for an address asks the server for. -/
def target (u : Url) : String :=
  pathText u.path ++ u.query.elim "" ("?" ++ ·)

/-- The text of an address.  Without an authority, a path must not look like one. -/
def text (u : Url) : String :=
  let front := match u.authority, u.path with
    | some a, _ => authorityText a
    | none, .segments ("" :: _ :: _) => "/."
    | none, _ => ""
  u.scheme ++ ":" ++ front ++ u.target ++ u.fragment.elim "" ("#" ++ ·)

end Url

end VectorIndex
