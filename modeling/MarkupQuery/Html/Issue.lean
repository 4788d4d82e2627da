/-!
# What the reader of markup repairs

Markup is never refused. Where it departs from the standard the reader notes an issue and goes on
as the standard prescribes; `Issue.message` is the wording of each.
-/

namespace MarkupQuery.Html

/-- A departure from well-formed markup. -/
inductive Issue
  /- Issues of single characters and tags. -/
  | badCharacter
  | unexpectedEnd
  | attributesOnEndTag
  | selfClosingEndTag
  | duplicateAttribute
  /- Issues of character references. -/
  | numericUnterminated
  | numericWithoutDigits
  | numericInvalid
  | numericCutOff
  | hashCutOff
  | unknownReference
  | referenceUnterminated
  /- Issues of the document type. -/
  | badDoctype
  | misplacedDoctype
  /- Issues of tags and text in the wrong place. -/
  | unexpectedToken
  | selfClosingIgnored
  | formattingNotOpen
  | formattingNotInScope
  | formattingNotCurrent
  | openTagAtEndOfBody
  | unexpectedOpenElement
  | charactersInTable
  | textInTable
  | cellNotClosed
  | specialTagInTheWay
  | bodyEndWithoutBody
  | htmlEndWithoutBody
  | nestedHeadings
  | nestedForms
  | nestedButtons
  | nestedNobr
  | noFormToClose
  | formNotInScope
  | openElementInForm
  | noParagraphToClose
  | noTagToClose
  | wrongHeadingClosed
  | noHeadingToClose
  deriving DecidableEq

/-- The wording of an issue. -/
def Issue.message : Issue → String
  | badCharacter => "Bad character"
  | unexpectedEnd => "Unexpected EOF"
  | attributesOnEndTag => "Attributes on an end tag"
  | selfClosingEndTag => "Self-closing end tag"
  | duplicateAttribute => "Duplicate attribute"
  | numericUnterminated => "Semicolon missing after numeric character reference"
  | numericWithoutDigits => "Numeric character reference without digits"
  | numericInvalid => "Invalid numeric character reference"
  | numericCutOff => "EOF in numeric character reference"
  | hashCutOff => "EOF after '#' in character reference"
  | unknownReference => "Invalid character reference"
  | referenceUnterminated => "Character reference does not end with semicolon"
  | badDoctype => "Bad DOCTYPE"
  | misplacedDoctype => "DOCTYPE in body"
  | unexpectedToken => "Unexpected token"
  | selfClosingIgnored => "Unacknowledged self-closing tag"
  | formattingNotOpen => "Formatting element not open"
  | formattingNotInScope => "Formatting element not in scope"
  | formattingNotCurrent => "Formatting element not current node"
  | openTagAtEndOfBody => "Unexpected open tag at end of body"
  | unexpectedOpenElement => "Unexpected open element"
  | charactersInTable => "Unexpected characters in table"
  | textInTable => "Non-space table text"
  | cellNotClosed => "expected to close <td> or <th> with cell"
  | specialTagInTheWay => "Found special tag while closing generic tag"
  | bodyEndWithoutBody => "</body> with no <body> in scope"
  | htmlEndWithoutBody => "</html> with no <body> in scope"
  | nestedHeadings => "nested heading tags"
  | nestedForms => "nested forms"
  | nestedButtons => "nested buttons"
  | nestedNobr => "Nested <nobr>"
  | noFormToClose => "Null form element pointer on </form>"
  | formNotInScope => "Form element not in scope on </form>"
  | openElementInForm => "Bad open element on </form>"
  | noParagraphToClose => "No <p> tag to close"
  | noTagToClose => "No matching tag to close"
  | wrongHeadingClosed => "Closing wrong heading tag"
  | noHeadingToClose => "No heading tag to close"

end MarkupQuery.Html
