import MarkupQuery.Text.Extender
import MarkupQuery.Text.Printable

/-!
# Quoted text

The readable form of an arbitrary text inside a message: the text between double quotes, with
every character that would be invisible or ambiguous written as an escape. A quote and a backslash
get a backslash in front, four control characters have a letter of their own, and any other
character that is not printable, or that extends the grapheme before it, is written `\u` with its
code point in hexadecimal between braces.
-/

namespace MarkupQuery.Text

/-- The letter that stands after the backslash for a character with a short escape. -/
def shortEscape (c : Char) : Option Char :=
  if c = '\x00' then some '0'
  else if c = '\t' then some 't'
  else if c = '\r' then some 'r'
  else if c = '\n' then some 'n'
  else if c = '"' then some '"'
  else if c = '\\' then some '\\'
  else none

/-- Whether a character without a short escape is written by its code point. -/
def needsCodePoint (c : Char) : Bool :=
  graphemeExtender c || !printable c

/-- One character of a quoted text. -/
def escapeChar (c : Char) : List Char :=
  match shortEscape c with
  | some e => ['\\', e]
  | none =>
    if needsCodePoint c then
      '\\' :: 'u' :: '\x7b' :: (Nat.toDigits 16 c.toNat ++ ['\x7d'])
    else [c]

/-- A text in quotes, escaped. -/
def quote (s : String) : String :=
  String.ofList ('"' :: (s.toList.flatMap escapeChar ++ ['"']))

end MarkupQuery.Text
