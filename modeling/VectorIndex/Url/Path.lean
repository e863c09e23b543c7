import VectorIndex.Url.Basic

/-!
# Paths of addresses

A path is read segment by segment.  A segment of one dot is left out and one of two dots
takes the one before away, unless that looks like the letter of a drive; a dot may be
percent-encoded.  Addresses of files may start with the letter of a drive.
-/

set_option autoImplicit false

namespace VectorIndex.UrlPath

/-- Characters that are percent-encoded in a segment. -/
def special : List Char :=
  [' ', '"', '<', '>', '\u0060', '#', '?', '{', '}']

/-- A dot in either form is a dot. -/
def plainDots : List Char → List Char
  | '%' :: '2' :: 'e' :: rest => '.' :: plainDots rest
  | '%' :: '2' :: 'E' :: rest => '.' :: plainDots rest
  | c :: rest => c :: plainDots rest
  | [] => []

/-- Whether a segment means the place where it stands. -/
def isHere (s : List Char) : Bool :=
  plainDots s == ['.']

/-- Whether a segment means the place above. -/
def isUp (s : List Char) : Bool :=
  plainDots s == ['.', '.']

/-- Whether a segment is the letter of a drive. -/
def isDrive : List Char → Bool
  | [c, d] => c.isAlpha && (d == ':' || d == '|')
  | _ => false

/-- The drive that the path of a file is on. -/
def drive? : List String → Option String
  | d :: _ => if isDrive d.toList && d.toList.getLast? == some ':' then some d else none
  | [] => none

/-- Takes the last segment away, unless it is the letter of a drive. -/
def shorten (names : List String) : List String :=
  if names.getLast?.any (isDrive ·.toList) then names else names.dropLast

/-- Adds a segment to those in front of it; `last` says whether none follows. -/
def addSegment (kind : SchemeKind) (names : List String) (segment : List Char) (last : Bool) :
    List String :=
  let stay (names : List String) : List String := if last then names ++ [""] else names
  if isUp segment then stay (shorten names)
  else if isHere segment then stay names
  else if kind = .file && names.isEmpty && isDrive segment then
    [String.ofList (segment.take 1 ++ [':'])]
  else names ++ [Text.Percent.encode special (String.ofList segment)]

/-- Adds segments. -/
def addSegments (kind : SchemeKind) : List String → List (List Char) → List String
  | names, [] => names
  | names, [segment] => addSegment kind names segment true
  | names, segment :: rest => addSegments kind (addSegment kind names segment false) rest

/-- The text up to the next separator of segments, the rest behind it, and whether there was one. -/
def splitSegments (kind : SchemeKind) : List Char → List (List Char)
  | [] => [[]]
  | c :: cs =>
    if c = '/' || (kind.isSpecial && c = '\\') then [] :: splitSegments kind cs
    else match splitSegments kind cs with
      | [] => [[c]]
      | s :: ss => (c :: s) :: ss

/-- Leading empty segments do not count in addresses of files. -/
def trimFile (kind : SchemeKind) : List String → List String
  | "" :: s :: rest => if kind = .file then trimFile kind (s :: rest) else "" :: s :: rest
  | names => names

/-- The segments of a text behind its first slash, added to the ones in front. -/
def readAll (kind : SchemeKind) (front : List String) (text : List Char) : List String :=
  addSegments kind front (splitSegments kind text)

/-- The segments of a text behind its first slash that count, added to the ones in front. -/
def read (kind : SchemeKind) (front : List String) (text : List Char) : List String :=
  trimFile kind (readAll kind front text)

end VectorIndex.UrlPath
