import VectorIndex.Text.Hex
import VectorIndex.Text.Mark

/-!
# Quoted text

A quoted text stands between double quotes.  Inside, the quote and the backslash are
escaped, the common control characters have letters, and what would not show on a
page is written by its code point in hexadecimal, between braces.
-/

set_option autoImplicit false

namespace VectorIndex.Text

/-- Letters that leave no mark of their own. -/
def isBlankLetter (c : Char) : Bool :=
  c.toNat = 0x115F || c.toNat = 0x1160 || c.toNat = 0x3164 || c.toNat = 0xFFA0

/-- Whether a character cannot be told by itself from the text around it: it does not show, or it
becomes a part of the character in front of it. -/
def isInvisible (c : Char) : Bool :=
  isHidden c || isPart c || isBlankLetter c

/-- One character inside quotes. -/
def quotedChar (c : Char) : List Char :=
  match c with
  | '"' => ['\\', '"']
  | '\\' => ['\\', '\\']
  | '\n' => ['\\', 'n']
  | '\r' => ['\\', 'r']
  | '\t' => ['\\', 't']
  | c =>
    if c.toNat = 0 then ['\\', '0']
    else if isInvisible c then "\\u\x7b".toList ++ (Hex.ofNat c.toNat).toList ++ ['\x7d']
    else [c]

/-- A text between double quotes. -/
def quoted (s : String) : String :=
  "\"" ++ String.ofList (s.toList.flatMap quotedChar) ++ "\""

end VectorIndex.Text
