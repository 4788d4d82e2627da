/-!
# Tokens of expressions
-/

namespace MarkupQuery.XPath

/-- A token of an expression. -/
inductive Token
  | integer (n : Nat)
  | decimal (q : Rat)
  | double (x : Float)
  | string (s : String)
  | name (name : String)
  /-- A name with a prefix. -/
  | prefixed (pre name : String)
  /-- Any name with a prefix, `pre:*`. -/
  | prefixedAny (pre : String)
  /-- A name with any prefix, `*:name`. -/
  | anyPrefixed (name : String)
  /-- A name in a namespace, `Q` with the namespace in braces before the name. -/
  | spaced (space name : String)
  | spacedAny (space : String)
  | dollar
  | openParen
  | closeParen
  | openBracket
  | closeBracket
  | openBrace
  | closeBrace
  | star
  | plus
  | minus
  | comma
  | dot
  | dotDot
  | slash
  | slashSlash
  | colon
  | colonColon
  | assign
  | equals
  | notEquals
  | less
  | lessEquals
  | greater
  | greaterEquals
  | precedes
  | follows
  | bang
  | bar
  | barBar
  | at
  | hash
  | question
  | arrow
  /-- A text that begins no token; no expression holds it. -/
  | bad
  deriving DecidableEq

end MarkupQuery.XPath
