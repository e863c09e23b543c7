import VectorIndex.Url.Host
import VectorIndex.Url.Path

/-!
# Reading addresses

`Url.parse` reads an address that stands by itself and `Url.resolve` one that is given by
its path on the server of another.  Controls and spaces around an address are ignored,
and so are tabs and line breaks inside of it.
-/

set_option autoImplicit false

namespace VectorIndex.Url

/-- The characters of an address that count. -/
def relevant (text : String) : List Char :=
  let trim (cs : List Char) : List Char := cs.dropWhile fun c => c.toNat ≤ 0x20
  (trim (trim text.toList).reverse).reverse.filter fun c => c ≠ '\t' && c ≠ '\n' && c ≠ '\r'

/-- Whether a character may stand in a scheme behind its first letter. -/
def isSchemeChar (c : Char) : Bool :=
  c.isAlphanum || c = '+' || c = '-' || c = '.'

/-- The scheme in lower case and what follows its colon. -/
def splitScheme (cs : List Char) : Option (String × List Char) :=
  match cs with
  | c :: _ =>
    if c.isAlpha then
      match cs.dropWhile isSchemeChar with
      | ':' :: rest => some (String.ofList ((cs.takeWhile isSchemeChar).map Char.toLower), rest)
      | _ => none
    else none
  | [] => none

/-! ## Query and fragment -/

/-- Characters that are percent-encoded in a query. -/
def querySpecial (kind : SchemeKind) : List Char :=
  [' ', '"', '#', '<', '>'] ++ if kind.isSpecial then ['\''] else []

/-- Characters that are percent-encoded in a fragment. -/
def fragmentSpecial : List Char :=
  [' ', '"', '<', '>', '\u0060']

/-- The parts before the query, of the query and of the fragment. -/
def splitTail (cs : List Char) : List Char × Option (List Char) × Option (List Char) :=
  let front := cs.takeWhile (· ≠ '#')
  let fragment := match cs.dropWhile (· ≠ '#') with
    | _ :: rest => some rest
    | [] => none
  let query := match front.dropWhile (· ≠ '?') with
    | _ :: rest => some rest
    | [] => none
  (front.takeWhile (· ≠ '?'), query, fragment)

/-- An address with the query and the fragment that a text has. -/
def withTail (u : Url) (query fragment : Option (List Char)) : Url :=
  { u with
    query := query.map fun cs => Text.Percent.encode (querySpecial u.kind) (String.ofList cs)
    fragment := fragment.map fun cs => Text.Percent.encode fragmentSpecial (String.ofList cs) }

/-! ## Authorities -/

/-- Characters that are percent-encoded in a user name or password. -/
def userSpecial : List Char :=
  UrlPath.special ++ ['/', ':', ';', '=', '@', '[', '\\', ']', '^', '|']

/-- Whether a character ends an authority. -/
def endsAuthority (kind : SchemeKind) (c : Char) : Bool :=
  c = '/' || c = '?' || c = '#' || (kind.isSpecial && c = '\\')

/-- What stands before the last `@`, and what behind it. -/
def splitUser (cs : List Char) : Option (List Char × List Char) :=
  if cs.contains '@' then
    let behind := (cs.reverse.takeWhile (· ≠ '@')).reverse
    some (cs.take (cs.length - behind.length - 1), behind)
  else none

/-- The user name and the password in a text. -/
def credentials (cs : List Char) : String × Option String :=
  let encode (cs : List Char) : String := Text.Percent.encode userSpecial (String.ofList cs)
  let password := match cs.dropWhile (· ≠ ':') with
    | _ :: c :: rest => some (encode (c :: rest))
    | _ => none
  (encode (cs.takeWhile (· ≠ ':')), password)

/-- The host in a text, and the text behind the colon that ends it. -/
def splitPort : Bool → List Char → List Char × Option (List Char)
  | _, [] => ([], none)
  | inBrackets, c :: cs =>
    if c = ':' && !inBrackets then ([], some cs)
    else
      let (host, port) := splitPort (c = '[' || (inBrackets && c ≠ ']')) cs
      (c :: host, port)

/-- The port that digits spell; none if there are no digits or the scheme has that port anyway. -/
def readPort (scheme : String) (cs : List Char) : Except UrlError (Option Nat) :=
  if cs.all Char.isDigit then
    let n := (Host.number? 10 cs).getD 0
    if 65535 < n then .error .badPort
    else if cs.isEmpty || SchemeKind.ports.lookup scheme == some n then .ok none
    else .ok (some n)
  else .error .badPort

/-- Reads an authority; `followed` says whether a text follows it.  What stands in the authority
from a backslash behind the port on belongs to the path. -/
def readAuthority (scheme : String) (cs : List Char) (followed : Bool) :
    Except UrlError (Authority × List Char) := do
  let kind := SchemeKind.ofScheme scheme
  let (user, rest) := match splitUser cs with
    | some (user, rest) => (some user, rest)
    | none => (none, cs)
  let (username, password) := credentials (user.getD [])
  let (host, behind) := splitPort false rest
  let named := !username.isEmpty || password.isSome || (user == some [] && followed)
  if host.isEmpty && (kind.isSpecial || behind.isSome || named) then .error .emptyHost
  else
    let host ← if kind.isSpecial then Host.known host else Host.plain host
    let (portText, path) := (behind.getD []).span (· ≠ '\\')
    let port ← readPort scheme portText
    return ({ username, password, host, port }, path)

/-! ## Addresses -/

/-- An address behind its scheme and two slashes. -/
def afterSlashes (scheme : String) (cs : List Char) : Except UrlError Url := do
  let kind := SchemeKind.ofScheme scheme
  let (front, rest) := cs.span fun c => !endsAuthority kind c
  let (a, front) ← readAuthority scheme front !rest.isEmpty
  let (path, query, fragment) := splitTail (front ++ rest)
  let names := match path with
    | c :: rest => UrlPath.read kind [] (if endsAuthority kind c then rest else path)
    | [] => if kind.isSpecial then [""] else []
  return withTail { scheme, authority := some a, path := .segments names } query fragment

/-- Whether a character is a slash or a backslash. -/
def isSlash (c : Char) : Bool :=
  c = '/' || c = '\\'

/-- A text without the slash at its start. -/
def dropSlash : List Char → List Char
  | c :: rest => if isSlash c then rest else c :: rest
  | [] => []

/-- The address of a file on a host.  A drive is on no other machine. -/
def fileAt (host : String) (text : List Char) : Url :=
  let (path, query, fragment) := splitTail text
  let names := UrlPath.readAll .file [] path
  let host := if (UrlPath.drive? names).isSome then "" else host
  withTail
    { scheme := "file", authority := some { host }
      path := .segments (UrlPath.trimFile .file names) } query fragment

/-- An address of a file behind its scheme and two slashes.  Without a host, the slash behind it
is a part of the path. -/
def afterFileSlashes (cs : List Char) : Except UrlError Url := do
  let (host, rest) := cs.span fun c => !endsAuthority .file c
  if UrlPath.isDrive host then return fileAt "" cs
  else if host.isEmpty then return fileAt "" rest
  else
    let host ← Host.known host
    return if host = "localhost" then fileAt "" rest else fileAt host (dropSlash rest)

/-- An address of a file behind its scheme. -/
def afterFile (cs : List Char) : Except UrlError Url :=
  match cs with
  | a :: b :: rest =>
    if isSlash a && isSlash b then afterFileSlashes rest else .ok (fileAt "" (dropSlash cs))
  | cs => .ok (fileAt "" (dropSlash cs))

/-- An address behind a scheme that is not well known. -/
def afterOther (scheme : String) (cs : List Char) : Except UrlError Url :=
  match cs with
  | '/' :: '/' :: rest => afterSlashes scheme rest
  | cs =>
    let (path, query, fragment) := splitTail cs
    let path : UrlPath := match path with
      | '/' :: rest => .segments (UrlPath.read .other [] rest)
      | path => .plain (Text.Percent.encode [] (String.ofList path))
    .ok (withTail { scheme, path } query fragment)

/-- Reads an address. -/
def parse (text : String) : Except UrlError Url :=
  match splitScheme (relevant text) with
  | none => .error .relativeWithoutBase
  | some (scheme, rest) =>
    match SchemeKind.ofScheme scheme with
    | .file => afterFile rest
    | .special => afterSlashes scheme (rest.dropWhile isSlash)
    | .other => afterOther scheme rest

/-- An address without user name and password.  Octets that are no text stay where they are. -/
def withoutCredentials (u : Url) : Url :=
  let readable (s : String) : Bool := (Bytes.toText? (Host.percentDecode s.toList)).isSome
  match u.authority with
  | some a =>
    if readable a.username && (!a.username.isEmpty || a.password.any readable) then
      { u with authority := some { a with username := "", password := none } }
    else u
  | none => u

/-- The drive that a file is on. -/
def drive? (u : Url) : Option String :=
  match u.kind, u.path with
  | .file, .segments names => UrlPath.drive? names
  | _, _ => none

/-- The address of an absolute path on the server, or on the drive, of another address. -/
def resolve (base : Url) (path : String) : Except UrlError Url :=
  if base.isPlain then .error .opaqueBase
  else
    let (path, query, fragment) := splitTail (relevant path)
    let names := UrlPath.read base.kind base.drive?.toList (path.drop 1)
    let authority := if base.drive?.isSome then some {} else base.authority
    .ok (withTail { base with authority, path := .segments names } query fragment)

end VectorIndex.Url
