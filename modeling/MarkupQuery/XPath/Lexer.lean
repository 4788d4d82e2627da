import MarkupQuery.XPath.Name
import MarkupQuery.XPath.Number.Decimal
import MarkupQuery.XPath.Token

/-!
# Cutting expressions into tokens

An expression is cut into tokens, each as long as possible; blanks and comments between them mean
nothing. A number must not touch a name or another number behind it. A text that begins no token
becomes the token `bad`, and nothing is read behind it.
-/

namespace MarkupQuery.XPath.Lexer

/-- Whether a character is a blank between tokens. -/
def isBlank (c : Char) : Bool :=
  c = ' ' || c = '\t' || c = '\r' || c = '\n'

/-- The longest beginning of a text whose characters have a property, and the rest. -/
def span (p : Char → Bool) (cs : List Char) : List Char × List Char :=
  (cs.takeWhile p, cs.dropWhile p)

/-- The exponent at the beginning of a text, if there is one, and the rest. -/
def exponent? : List Char → Option (Int × List Char)
  | c :: cs =>
    if c = 'e' || c = 'E' then
      let (negative, cs) := match cs with
        | '-' :: cs => (true, cs)
        | '+' :: cs => (false, cs)
        | cs => (false, cs)
      match span Char.isDigit cs with
      | ([], _) => none
      | (digits, rest) =>
        let n : Int := Decimal.digitsValue digits
        some (if negative then -n else n, rest)
    else none
  | [] => none

/-- Whether a text goes on right behind a number in a way that no blank parts from it. -/
def touches : List Char → Bool
  | c :: d :: _ => isNameStart c || c.isDigit || (c = '.' && d.isDigit)
  | [c] => isNameStart c || c.isDigit
  | [] => false

/-- The double of decimal digits and a power of ten. Where the exponent alone decides that the
number is zero or too large, a smaller one does the same. -/
def double (digits : List Char) (e : Int) : Float :=
  Float.ofScientific (Decimal.digitsValue digits) (e < 0) (min e.natAbs (digits.length + 1000))

/-- The number that a text, which begins with a digit or a point before a digit, begins with. -/
def number (cs : List Char) : Token × List Char :=
  let (whole, rest) := span Char.isDigit cs
  let (hasPoint, fraction, rest) := match rest with
    | '.' :: more =>
      let (fraction, more) := span Char.isDigit more
      (true, fraction, more)
    | _ => (false, [], rest)
  let (token, rest) := match exponent? rest with
    | some (e, rest) => (Token.double (double (whole ++ fraction) (e - fraction.length)), rest)
    | none =>
      if hasPoint then
        match Decimal.ofDigits? whole fraction with
        | some q => (.decimal q, rest)
        | none => (.bad, rest)
      else (.integer (Decimal.digitsValue whole), rest)
  (if touches rest then .bad else token, rest)

/-- The rest of a string literal behind its opening quote. A quote written twice is one quote.
`read` is what was read, backwards. -/
def stringEnd (quote : Char) (read : List Char) : List Char → Option (String × List Char)
  | [] => none
  | c :: cs =>
    if c = quote then
      match cs with
      | d :: ds =>
        if d = quote then stringEnd quote (quote :: read) ds
        else some (String.ofList read.reverse, d :: ds)
      | [] => some (String.ofList read.reverse, [])
    else stringEnd quote (c :: read) cs

/-- What follows a comment, which may hold comments, behind its opening. -/
def commentEnd : Nat → List Char → Option (List Char)
  | _, [] => none
  | depth, '(' :: ':' :: cs => commentEnd (depth + 1) cs
  | 0, ':' :: ')' :: cs => some cs
  | depth + 1, ':' :: ')' :: cs => commentEnd depth cs
  | depth, _ :: cs => commentEnd depth cs

/-- The name that a text begins with. -/
def nameAt (cs : List Char) : String × List Char :=
  let (letters, rest) := span isNameChar cs
  (String.ofList letters, rest)

/-- Whether a text begins with a name. -/
def beginsName : List Char → Bool
  | c :: _ => isNameStart c
  | [] => false

/-- The token of a namespace in braces, behind the opening brace. -/
def spacedAt (cs : List Char) : Token × List Char :=
  let (space, rest) := span (fun c => c != '\x7b' && c != '\x7d') cs
  match rest with
  | '\x7d' :: rest =>
    if beginsName rest then
      let (name, rest) := nameAt rest
      (if isPlain name then .spaced (String.ofList space) name else .bad, rest)
    else match rest with
      | '*' :: rest => (.spacedAny (String.ofList space), rest)
      | _ => (.bad, rest)
  | _ => (.bad, [])

/-- The token that begins with a name. -/
def nameToken (cs : List Char) : Token × List Char :=
  let (name, rest) := nameAt cs
  match rest with
  | ':' :: '*' :: more => if isPrefix name then (.prefixedAny name, more) else (.name name, rest)
  | ':' :: more =>
    if isPrefix name && beginsName more then
      let (part, more) := nameAt more
      if isPlain part then (.prefixed name part, more) else (.name name, rest)
    else (.name name, rest)
  | '\x7b' :: more => if name == "Q" then spacedAt more else (.name name, rest)
  | _ => (.name name, rest)

/-- The token of punctuation that a text begins with. -/
def punctuation : List Char → Token × List Char
  | '/' :: '/' :: cs => (.slashSlash, cs)
  | '/' :: cs => (.slash, cs)
  | '.' :: '.' :: cs => (.dotDot, cs)
  | '.' :: cs => (.dot, cs)
  | ':' :: ':' :: cs => (.colonColon, cs)
  | ':' :: '=' :: cs => (.assign, cs)
  | ':' :: cs => (.colon, cs)
  | '<' :: '<' :: cs => (.precedes, cs)
  | '<' :: '=' :: cs => (.lessEquals, cs)
  | '<' :: cs => (.less, cs)
  | '>' :: '>' :: cs => (.follows, cs)
  | '>' :: '=' :: cs => (.greaterEquals, cs)
  | '>' :: cs => (.greater, cs)
  | '=' :: '>' :: cs => (.arrow, cs)
  | '=' :: cs => (.equals, cs)
  | '!' :: '=' :: cs => (.notEquals, cs)
  | '!' :: cs => (.bang, cs)
  | '|' :: '|' :: cs => (.barBar, cs)
  | '|' :: cs => (.bar, cs)
  | '$' :: cs => (.dollar, cs)
  | '(' :: cs => (.openParen, cs)
  | ')' :: cs => (.closeParen, cs)
  | '[' :: cs => (.openBracket, cs)
  | ']' :: cs => (.closeBracket, cs)
  | '\x7b' :: cs => (.openBrace, cs)
  | '\x7d' :: cs => (.closeBrace, cs)
  | '*' :: cs => (.star, cs)
  | '+' :: cs => (.plus, cs)
  | '-' :: cs => (.minus, cs)
  | ',' :: cs => (.comma, cs)
  | '@' :: cs => (.at, cs)
  | '#' :: cs => (.hash, cs)
  | '?' :: cs => (.question, cs)
  | _ => (.bad, [])

/-- The token that a text begins with. -/
def first (cs : List Char) : Token × List Char :=
  match cs with
  | [] => (.bad, [])
  | c :: rest =>
    if c = '"' || c = '\'' then
      match stringEnd c [] rest with
      | some (s, rest) => (.string s, rest)
      | none => (.bad, [])
    else if c.isDigit then number cs
    else if isNameStart c then nameToken cs
    else match c, rest with
      | '.', d :: _ => if d.isDigit then number cs else punctuation cs
      | '*', ':' :: more =>
        if beginsName more then
          let (name, more) := nameAt more
          if isPlain name then (.anyPrefixed name, more) else (.star, rest)
        else (.star, rest)
      | _, _ => punctuation cs

/-- The tokens of a text, at most `fuel` of them. Behind a bad token nothing is read. -/
def lexUpTo : Nat → List Char → List Token
  | 0, _ => []
  | _, [] => []
  | fuel + 1, '(' :: ':' :: cs =>
    match commentEnd 0 cs with
    | some rest => lexUpTo fuel rest
    | none => [.bad]
  | fuel + 1, c :: cs =>
    if isBlank c then lexUpTo fuel cs
    else match first (c :: cs) with
      | (.bad, _) => [.bad]
      | (token, rest) => token :: lexUpTo fuel rest

/-- The tokens of an expression. -/
def lex (s : String) : List Token :=
  lexUpTo s.length s.toList

end MarkupQuery.XPath.Lexer
