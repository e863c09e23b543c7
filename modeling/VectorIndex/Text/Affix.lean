/-!
# Affixes of a text

`stem?` takes a suffix off and is exactly the inverse of appending it; `cut?` divides a text
at a separator, and `lastSegment` is what follows the last slash.
-/

set_option autoImplicit false

namespace VectorIndex.Text

/-- The text before a suffix, if the text ends in it. -/
def stem? (suffix text : String) : Option String :=
  let cs := text.toList
  let n := suffix.toList.length
  if cs.drop (cs.length - n) = suffix.toList then
    some (String.ofList (cs.take (cs.length - n)))
  else none

/-- The rest after a prefix, if the characters start with it. -/
def rest? : List Char → List Char → Option (List Char)
  | [], cs => some cs
  | _ :: _, [] => none
  | p :: ps, c :: cs => if p = c then rest? ps cs else none

/-- The pieces between separators; one more than there are separators. -/
def splitAt (sep : Char) : List Char → List (List Char)
  | [] => [[]]
  | c :: cs =>
    if c = sep then [] :: splitAt sep cs
    else match splitAt sep cs with
      | [] => [[c]]
      | piece :: pieces => (c :: piece) :: pieces

/-- What stands before the first separator, and what behind it. -/
def cut? (sep : Char) : List Char → Option (List Char × List Char)
  | [] => none
  | c :: cs => if c = sep then some ([], cs) else (cut? sep cs).map fun p => (c :: p.1, p.2)

/-- Whether some part of the characters is the given one. -/
def hasPart (part : List Char) : List Char → Bool
  | [] => part.isEmpty
  | c :: cs => (rest? part (c :: cs)).isSome || hasPart part cs

/-- What follows the last slash: the whole text when there is none. -/
def lastSegment (text : String) : String :=
  String.ofList (text.toList.reverse.takeWhile (· != '/')).reverse

/-- Whether the last character is a slash. -/
def endsInSlash (text : String) : Bool :=
  text.toList.getLast? == some '/'

end VectorIndex.Text
