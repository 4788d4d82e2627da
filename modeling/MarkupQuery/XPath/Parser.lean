import MarkupQuery.XPath.Parser.Types

/-!
# Reading expressions

`parse` reads the tokens of an expression from left to right; the first fault that it meets is the
fault of the text. Operators bind by rank (`operator?`): an operator takes the operands to its left
and right that bind tighter, and operators of one rank group from the left, but comparisons and
ranges do not chain. Tighter than all of them bind the words that ask for a type, each at most once
(`typed`).
-/

namespace MarkupQuery.XPath

/-! ## Operators -/

/-- The operator that a token is between two operands, with its rank. -/
def operator? : Token → Option (Operator × Nat)
  | .name "or" => some (.or, 1)
  | .name "and" => some (.and, 2)
  | .equals => some (.general .eq, 3)
  | .notEquals => some (.general .ne, 3)
  | .less => some (.general .lt, 3)
  | .lessEquals => some (.general .le, 3)
  | .greater => some (.general .gt, 3)
  | .greaterEquals => some (.general .ge, 3)
  | .name "eq" => some (.value .eq, 3)
  | .name "ne" => some (.value .ne, 3)
  | .name "lt" => some (.value .lt, 3)
  | .name "le" => some (.value .le, 3)
  | .name "gt" => some (.value .gt, 3)
  | .name "ge" => some (.value .ge, 3)
  | .name "is" => some (.same, 3)
  | .precedes => some (.before, 3)
  | .follows => some (.after, 3)
  | .barBar => some (.concat, 4)
  | .name "to" => some (.range, 5)
  | .plus => some (.arithmetic .add, 6)
  | .minus => some (.arithmetic .sub, 6)
  | .star => some (.arithmetic .mul, 7)
  | .name "div" => some (.arithmetic .div, 7)
  | .name "idiv" => some (.arithmetic .idiv, 7)
  | .name "mod" => some (.arithmetic .mod, 7)
  | .bar => some (.union, 8)
  | .name "union" => some (.union, 8)
  | .name "intersect" => some (.intersect, 9)
  | .name "except" => some (.except, 9)
  | _ => none

/-- Whether operators of a rank may follow each other without parentheses. -/
def chains (rank : Nat) : Bool :=
  rank != 3 && rank != 5

/-! ## Small parts -/

/-- Whether a step may begin with a token. -/
def beginsStep : Token → Bool
  | .integer _ | .decimal _ | .double _ | .string _ | .name _ | .prefixed _ _ | .prefixedAny _
  | .anyPrefixed _ | .spaced _ _ | .spacedAny _ | .star | .at | .dot | .dotDot | .dollar
  | .openParen | .openBracket | .question => true
  | _ => false

/-- The step to a node and all below it, for which `//` is short. -/
def anyDepth : Expr :=
  .step .descendantOrSelf .node []

/-- The expression for an operator between two others. -/
def combine (op : Operator) (left right : Expr) : Expr :=
  .binary op left right

/-- The words that begin a binding, with what stands between the variable and its value and what
ends the bindings. -/
def binder? : Token → Option (Binder × Token × Token)
  | .name "for" => some (.each, .name "in", .name "return")
  | .name "let" => some (.whole, .assign, .name "return")
  | .name "some" => some (.some, .name "in", .name "satisfies")
  | .name "every" => some (.every, .name "in", .name "satisfies")
  | _ => none

/-- Reads the name of a function; one in no namespace is a name of the library. -/
def functionName (tokens : List Token) : Except Fault (Reading QName) := do
  match tokens with
  | .name n :: _ => if isReserved n then throw .grammar
  | _ => pure ()
  let (name, rest) ← qualifiedName functionSpace tokens
  return (if name.space.isEmpty then { name with space := functionSpace } else name, rest)

/-- Reads a type behind the word `as`, if it is there. -/
def typeOrAny (fuel : Nat) (tokens : List Token) : Except Fault (Reading ValueType) :=
  match tokens with
  | .name "as" :: rest => valueType fuel rest
  | _ => .ok (.any, tokens)

/-- Reads the parameters of a function written out, behind the opening parenthesis. -/
def parameters : Nat → List Token → Except Fault (Reading (List (QName × ValueType)))
  | 0, _ => .error .grammar
  | fuel + 1, tokens =>
    match tokens with
    | .dollar :: rest => do
      let (name, rest) ← qualifiedName "" rest
      let (type, rest) ← typeOrAny fuel rest
      match rest with
      | .comma :: .dollar :: rest =>
        let (more, rest) ← parameters fuel (.dollar :: rest)
        return ((name, type) :: more, rest)
      | _ => return ([(name, type)], ← expect .closeParen rest)
    | _ => do return ([], ← expect .closeParen tokens)

/-! ## The parser -/

mutual

/-- Reads an expression: members with commas between them. -/
def expr : Nat → List Token → Except Fault (Reading Expr)
  | 0, _ => .error .grammar
  | fuel + 1, tokens => do
    let (first, rest) ← single fuel tokens
    match rest with
    | .comma :: _ =>
      let (more, rest) ← members fuel rest
      return (.sequence (first :: more), rest)
    | _ => return (first, rest)

/-- Reads further members, each behind a comma. -/
def members : Nat → List Token → Except Fault (Reading (List Expr))
  | 0, _ => .error .grammar
  | fuel + 1, tokens =>
    match tokens with
    | .comma :: rest => do
      let (first, rest) ← single fuel rest
      let (more, rest) ← members fuel rest
      return (first :: more, rest)
    | _ => .ok ([], tokens)

/-- Reads one member. -/
def single : Nat → List Token → Except Fault (Reading Expr)
  | 0, _ => .error .grammar
  | fuel + 1, tokens =>
    match tokens with
    | .name "if" :: .openParen :: rest => do
      let (condition, rest) ← expr fuel rest
      let rest ← expect .closeParen rest
      let rest ← expect (.name "then") rest
      let (yes, rest) ← single fuel rest
      let rest ← expect (.name "else") rest
      let (no, rest) ← single fuel rest
      return (.conditional condition yes no, rest)
    | word :: .dollar :: rest =>
      match binder? word with
      | some (binder, middle, last) => binding fuel binder middle last rest
      | none => binary fuel 1 tokens
    | _ => binary fuel 1 tokens

/-- Reads bindings behind a dollar sign, and what they are for. -/
def binding : Nat → Binder → Token → Token → List Token → Except Fault (Reading Expr)
  | 0, _, _, _, _ => .error .grammar
  | fuel + 1, binder, middle, last, tokens => do
    let (name, rest) ← qualifiedName "" tokens
    let rest ← expect middle rest
    let (source, rest) ← single fuel rest
    match rest with
    | .comma :: .dollar :: rest =>
      let (body, rest) ← binding fuel binder middle last rest
      return (.bind binder name source body, rest)
    | _ =>
      let rest ← expect last rest
      let (body, rest) ← single fuel rest
      return (.bind binder name source body, rest)

/-- Reads an expression whose operators have at least a given rank. -/
def binary : Nat → Nat → List Token → Except Fault (Reading Expr)
  | 0, _, _ => .error .grammar
  | fuel + 1, least, tokens => do
    let (left, rest) ← typed fuel tokens
    climb fuel least 9 left rest

/-- Goes on behind a left operand, with operators of ranks from `least` to `most`. -/
def climb : Nat → Nat → Nat → Expr → List Token → Except Fault (Reading Expr)
  | 0, _, _, _, _ => .error .grammar
  | fuel + 1, least, most, left, tokens =>
    match tokens with
    | [] => .ok (left, [])
    | t :: rest =>
      match operator? t with
      | some (op, rank) =>
        if least ≤ rank ∧ rank ≤ most then do
          let (right, rest) ← binary fuel (rank + 1) rest
          climb fuel least (if chains rank then rank else rank - 1) (combine op left right) rest
        else .ok (left, tokens)
      | none => .ok (left, tokens)

/-- Reads an operand and what is asked about its type. -/
def typed : Nat → List Token → Except Fault (Reading Expr)
  | 0, _ => .error .grammar
  | fuel + 1, tokens => do
    let (e, rest) ← unary fuel tokens
    let (e, rest) ← arrows fuel e rest
    let (e, rest) ← match rest with
      | .name "cast" :: .name "as" :: rest => do
        let ((type, emptyToo), rest) ← castType rest
        pure (Expr.cast e type emptyToo, rest)
      | _ => pure (e, rest)
    let (e, rest) ← match rest with
      | .name "castable" :: .name "as" :: rest => do
        let ((type, emptyToo), rest) ← castType rest
        pure (Expr.castable e type emptyToo, rest)
      | _ => pure (e, rest)
    let (e, rest) ← match rest with
      | .name "treat" :: .name "as" :: rest => do
        let (type, rest) ← valueType fuel rest
        pure (Expr.treat e type, rest)
      | _ => pure (e, rest)
    match rest with
    | .name "instance" :: .name "of" :: rest =>
      let (type, rest) ← valueType fuel rest
      return (.instanceOf e type, rest)
    | _ => return (e, rest)

/-- Goes on behind the first argument of a call written with an arrow. -/
def arrows : Nat → Expr → List Token → Except Fault (Reading Expr)
  | 0, _, _ => .error .grammar
  | fuel + 1, first, tokens =>
    match tokens with
    | .arrow :: .dollar :: rest => do
      let (name, rest) ← qualifiedName "" rest
      let (more, rest) ← arguments fuel (← expect .openParen rest)
      arrows fuel (.apply (.variable name) (first :: more)) rest
    | .arrow :: .openParen :: rest => do
      let (function, rest) ← enclosed fuel .closeParen rest
      let (more, rest) ← arguments fuel (← expect .openParen rest)
      arrows fuel (.apply (.sequence function) (first :: more)) rest
    | .arrow :: rest => do
      let (name, rest) ← functionName rest
      let (more, rest) ← arguments fuel (← expect .openParen rest)
      arrows fuel (.call name (first :: more)) rest
    | _ => .ok (first, tokens)

/-- Reads signs and what they stand before. -/
def unary : Nat → List Token → Except Fault (Reading Expr)
  | 0, _ => .error .grammar
  | fuel + 1, tokens =>
    match tokens with
    | .minus :: rest => do
      let (operand, rest) ← unary fuel rest
      return (.sign true operand, rest)
    | .plus :: rest => do
      let (operand, rest) ← unary fuel rest
      return (.sign false operand, rest)
    | _ => do
      let (left, rest) ← path fuel tokens
      maps fuel left rest

/-- Goes on behind the left side of `!`. -/
def maps : Nat → Expr → List Token → Except Fault (Reading Expr)
  | 0, _, _ => .error .grammar
  | fuel + 1, left, tokens =>
    match tokens with
    | .bang :: rest => do
      let (right, rest) ← path fuel rest
      maps fuel (.map left right) rest
    | _ => .ok (left, tokens)

/-- Reads a path. A slash, or two, may stand alone at its beginning. -/
def path : Nat → List Token → Except Fault (Reading Expr)
  | 0, _ => .error .grammar
  | fuel + 1, tokens =>
    match tokens with
    | .slash :: rest =>
      if rest.head?.any beginsStep then do
        let (step, rest) ← step fuel rest
        steps fuel (.path .root step) rest
      else .ok (.root, rest)
    | .slashSlash :: rest =>
      if rest.head?.any beginsStep then do
        let (step, rest) ← step fuel rest
        steps fuel (.path (.path .root anyDepth) step) rest
      else .ok (.path .root anyDepth, rest)
    | _ => do
      let (first, rest) ← step fuel tokens
      steps fuel first rest

/-- Goes on behind a step. -/
def steps : Nat → Expr → List Token → Except Fault (Reading Expr)
  | 0, _, _ => .error .grammar
  | fuel + 1, left, tokens =>
    match tokens with
    | .slash :: rest => do
      let (step, rest) ← step fuel rest
      steps fuel (.path left step) rest
    | .slashSlash :: rest => do
      let (step, rest) ← step fuel rest
      steps fuel (.path (.path left anyDepth) step) rest
    | _ => .ok (left, tokens)

/-- Reads a step with its predicates. -/
def step : Nat → List Token → Except Fault (Reading Expr)
  | 0, _ => .error .grammar
  | fuel + 1, tokens =>
    let along (axis : Axis) (tokens : List Token) : Except Fault (Reading Expr) := do
      let (test, rest) ← nodeTest tokens
      let (predicates, rest) ← predicates fuel rest
      return (.step axis test predicates, rest)
    let value (tokens : List Token) : Except Fault (Reading Expr) := do
      let (base, rest) ← primary fuel tokens
      postfixes fuel base rest
    match tokens with
    | .dotDot :: rest => do
      let (predicates, rest) ← predicates fuel rest
      return (.step .parent .node predicates, rest)
    | .at :: rest => along .attributes rest
    | .name n :: .colonColon :: rest =>
      match axis? n with
      | some axis => along axis rest
      | none => .error .grammar
    | .name n :: .openParen :: _ =>
      if isKind n then
        along (if n == "attribute" || n == "schema-attribute" then .attributes else .child) tokens
      else value tokens
    | .name n :: .openBrace :: _ =>
      if n == "map" || n == "array" then value tokens else along .child tokens
    | .name _ :: .hash :: _ | .prefixed _ _ :: .openParen :: _ | .prefixed _ _ :: .hash :: _
    | .spaced _ _ :: .openParen :: _ | .spaced _ _ :: .hash :: _ => value tokens
    | .name _ :: _ | .prefixed _ _ :: _ | .prefixedAny _ :: _ | .anyPrefixed _ :: _
    | .spaced _ _ :: _ | .spacedAny _ :: _ | .star :: _ => along .child tokens
    | _ => value tokens

/-- Goes on behind a value: predicates, arguments and keys. -/
def postfixes : Nat → Expr → List Token → Except Fault (Reading Expr)
  | 0, _, _ => .error .grammar
  | fuel + 1, base, tokens =>
    match tokens with
    | .openBracket :: _ => do
      let (predicates, rest) ← predicates fuel tokens
      postfixes fuel (.filter base predicates) rest
    | .openParen :: rest => do
      let (arguments, rest) ← arguments fuel rest
      postfixes fuel (.apply base arguments) rest
    | .question :: rest => do
      let (key, rest) ← lookupKey fuel rest
      postfixes fuel (key.elim (.lookupAll base) (.lookup base)) rest
    | _ => .ok (base, tokens)

/-- Reads predicates. -/
def predicates : Nat → List Token → Except Fault (Reading (List Expr))
  | 0, _ => .error .grammar
  | fuel + 1, tokens =>
    match tokens with
    | .openBracket :: rest => do
      let (first, rest) ← expr fuel rest
      let rest ← expect .closeBracket rest
      let (more, rest) ← predicates fuel rest
      return (first :: more, rest)
    | _ => .ok ([], tokens)

/-- Reads a key behind a question mark; none is a star. -/
def lookupKey : Nat → List Token → Except Fault (Reading (Option Expr))
  | 0, _ => .error .grammar
  | fuel + 1, tokens =>
    match tokens with
    | .name n :: rest => .ok (some (.string n), rest)
    | .integer n :: rest => .ok (some (.integer n), rest)
    | .star :: rest => .ok (none, rest)
    | .openParen :: rest => do
      let (parts, rest) ← enclosed fuel .closeParen rest
      return (some (.sequence parts), rest)
    | _ => .error .grammar

/-- Reads members up to a closing token; there may be none. -/
def enclosed : Nat → Token → List Token → Except Fault (Reading (List Expr))
  | 0, _, _ => .error .grammar
  | fuel + 1, close, tokens =>
    if tokens.head? = some close then .ok ([], tokens.tail)
    else do
      let (first, rest) ← single fuel tokens
      let (more, rest) ← members fuel rest
      let rest ← expect close rest
      return (first :: more, rest)

/-- Reads the arguments of a call behind the opening parenthesis. -/
def arguments : Nat → List Token → Except Fault (Reading (List Expr))
  | 0, _ => .error .grammar
  | fuel + 1, tokens =>
    match tokens with
    | .closeParen :: rest => .ok ([], rest)
    | _ => do
      let (first, rest) ← argument fuel tokens
      match rest with
      | .comma :: rest =>
        let (more, rest) ← moreArguments fuel rest
        return (first :: more, rest)
      | _ => return ([first], ← expect .closeParen rest)

/-- Reads the arguments of a call behind a comma. -/
def moreArguments : Nat → List Token → Except Fault (Reading (List Expr))
  | 0, _ => .error .grammar
  | fuel + 1, tokens => do
    let (first, rest) ← argument fuel tokens
    match rest with
    | .comma :: rest =>
      let (more, rest) ← moreArguments fuel rest
      return (first :: more, rest)
    | _ => return ([first], ← expect .closeParen rest)

/-- Reads an argument of a call; a question mark alone leaves it open. -/
def argument : Nat → List Token → Except Fault (Reading Expr)
  | 0, _ => .error .grammar
  | fuel + 1, tokens =>
    match tokens with
    | .question :: .comma :: rest => .ok (.hole, .comma :: rest)
    | .question :: .closeParen :: rest => .ok (.hole, .closeParen :: rest)
    | _ => single fuel tokens

/-- Reads the entries of a map behind the opening brace: keys and values in turn. -/
def entries : Nat → List Token → Except Fault (Reading (List Expr))
  | 0, _ => .error .grammar
  | fuel + 1, tokens =>
    match tokens with
    | .closeBrace :: rest => .ok ([], rest)
    | _ => do
      let (key, rest) ← single fuel tokens
      let (value, rest) ← single fuel (← expect .colon rest)
      match rest with
      | .comma :: .closeBrace :: _ => throw .grammar
      | .comma :: rest =>
        let (more, rest) ← entries fuel rest
        return (key :: value :: more, rest)
      | _ => return ([key, value], ← expect .closeBrace rest)

/-- Reads a value. -/
def primary : Nat → List Token → Except Fault (Reading Expr)
  | 0, _ => .error .grammar
  | fuel + 1, tokens =>
    match tokens with
    | .integer n :: rest => .ok (.integer n, rest)
    | .decimal q :: rest => .ok (.decimal q, rest)
    | .double x :: rest => .ok (.double x, rest)
    | .string s :: rest => .ok (.string s, rest)
    | .dot :: rest => .ok (.context, rest)
    | .dollar :: rest => do
      let (name, rest) ← qualifiedName "" rest
      return (.variable name, rest)
    | .openParen :: rest => do
      let (parts, rest) ← enclosed fuel .closeParen rest
      return (match parts with
        | [e] => e
        | parts => .sequence parts, rest)
    | .openBracket :: rest => do
      let (parts, rest) ← enclosed fuel .closeBracket rest
      return (.array parts, rest)
    | .question :: rest => do
      let (key, rest) ← lookupKey fuel rest
      return (key.elim (.lookupAll .context) (.lookup .context), rest)
    | .name "map" :: .openBrace :: rest => do
      let (parts, rest) ← entries fuel rest
      return (.mapOf parts, rest)
    | .name "array" :: .openBrace :: rest => do
      let (parts, rest) ← enclosed fuel .closeBrace rest
      return (.arrayOf (.sequence parts), rest)
    | .name "function" :: .openParen :: rest => do
      let (parameters, rest) ← parameters fuel rest
      let (result, rest) ← typeOrAny fuel rest
      let (body, rest) ← enclosed fuel .closeBrace (← expect .openBrace rest)
      return (.inline parameters result (.sequence body), rest)
    | _ => do
      let (name, rest) ← functionName tokens
      match rest with
      | .hash :: .integer n :: rest => return (.reference name n, rest)
      | .openParen :: rest =>
        let (arguments, rest) ← arguments fuel rest
        return (.call name arguments, rest)
      | _ => throw .grammar

end

/-- Reads an expression. -/
def parse (text : String) : Except Fault Expr := do
  let tokens := Lexer.lex text
  let (e, rest) ← expr (16 * tokens.length + 16) tokens
  if rest.isEmpty then return e else throw .grammar

end MarkupQuery.XPath
