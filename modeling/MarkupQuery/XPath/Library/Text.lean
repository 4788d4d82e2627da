import MarkupQuery.Text.Normal
import MarkupQuery.XPath.Library.Sequence
import MarkupQuery.XPath.Pattern.Parser

/-!
# Functions on texts

Joining, cutting and comparing texts, patterns, and the spelling of addresses.
-/

namespace MarkupQuery.XPath.Library

open MarkupQuery.Document (Table)

/-! ## Parts of texts -/

/-- What stands before the first place of a text in another, and what stands behind it. -/
def splitAtText (part : List Char) : List Char → Option (List Char × List Char)
  | [] => if part.isEmpty then some ([], []) else none
  | c :: cs =>
    if part.isPrefixOf (c :: cs) then some ([], (c :: cs).drop part.length)
    else (splitAtText part cs).map fun (before, after) => (c :: before, after)

/-- A text with characters of one list replaced by those at the same places of another, or dropped
where the other is shorter. Of two places of a character the later counts. -/
def translateText (s : String) (source target : List Char) : String :=
  String.ofList (s.toList.filterMap fun c =>
    match source.zipIdx.reverse.find? fun (d, _) => d = c with
    | some (_, place) => target[place]?
    | none => some c)

/-- The characters of a text at places that doubles bound; places count from one. -/
def substringOf (s : String) (start length : Float) : String :=
  String.ofList (atPlaces (withinPlaces start length) s.toList)

/-- Whether the code points of a text may stand in documents. -/
def isXmlChar (n : Nat) : Bool :=
  n = 0x9 || n = 0xA || n = 0xD || (0x20 ≤ n && n ≤ 0xD7FF) || (0xE000 ≤ n && n ≤ 0xFFFD) ||
    (0x10000 ≤ n && n ≤ 0x10FFFF)

/-- The character of a code point. -/
def charOf (a : Atom) : Except Fault Char :=
  match a with
  | .number (.integer _ n) =>
    if 0 ≤ n && isXmlChar n.toNat then .ok (Char.ofNat n.toNat) else .error .badCodePoint
  | _ => .error .wrongType

/-- The normal form of a name. Without a name texts stay as they are. -/
def normalFormOf (name : String) : Except Fault (Option Text.NormalForm) :=
  let name := (String.ofList (Double.trim name)).map Char.toUpper
  if name.isEmpty then .ok none
  else if name == "NFC" then .ok (some { compatible := false, composed := true })
  else if name == "NFD" then .ok (some { compatible := false, composed := false })
  else if name == "NFKC" then .ok (some { compatible := true, composed := true })
  else if name == "NFKD" then .ok (some { compatible := true, composed := false })
  else .error .unknownNormalForm

/-! ## Patterns -/

/-- The pattern of an argument, with the flags that an optional further one gives. -/
def patternOf {t : Table} (pattern : Value t) (flags : List (Value t)) :
    Except Fault (Pattern × Nat) := do
  let flags ← match flags with
    | [] => pure {}
    | v :: _ => Pattern.Flags.ofList (← v.toText).toList
  Pattern.parse flags (← pattern.toText)

/-- Checks that a pattern does not match the empty text. -/
def requireSolid (p : Pattern) : Except Fault Unit :=
  if p.matchesIn [] then .error .emptyPattern else .ok ()

/-- A text with every match of a pattern replaced. -/
def replaceMatches (p : Pattern) (parts : List Pattern.Substitute) (cs : List Char) : List Char :=
  let (found, rest) := p.findAll (cs.length + 1) (.ofText cs)
  (found.flatMap fun f => f.before ++ Pattern.substituted f parts) ++ rest

/-- The parts of a text between the matches of a pattern. -/
def tokensBetween (p : Pattern) (cs : List Char) : List String :=
  let (found, rest) := p.findAll (cs.length + 1) (.ofText cs)
  (found.map fun f => String.ofList f.before) ++ [String.ofList rest]

/-! ## Addresses -/

/-- The bytes of a character behind percent signs. -/
def percentEncoded (c : Char) : List Char :=
  (String.ofList [c]).toUTF8.toList.flatMap fun b => '%' :: (hexText [b]).toList

/-- A text with the characters that fail a test written as bytes. -/
def encodedUnless (keep : Char → Bool) (s : String) : String :=
  String.ofList (s.toList.flatMap fun c => if keep c then [c] else percentEncoded c)

/-- Characters that stand for themselves everywhere in an address. -/
def isUnreserved (c : Char) : Bool :=
  c.isAlphanum || "-_.~".toList.contains c

/-- Characters that an address may hold. -/
def isAddressChar (c : Char) : Bool :=
  0x20 < c.toNat && c.toNat < 0x7F && !("<>\"\x7b\x7d|\\^".toList.contains c) && c.toNat != 0x60

/-- Printable characters of ASCII. -/
def isPlainAscii (c : Char) : Bool :=
  0x20 ≤ c.toNat && c.toNat ≤ 0x7E

/-! ## The functions -/

/-- A function that makes a text out of a text. -/
def textChange (name : String) (f : String → String) : Entry :=
  entry name [optionalOf .string] (oneOf .string) <| Run.one fun v => do
    return Value.ofString (f (← v.toText))

/-- A function that tests two texts. -/
def textTest (name : String) (test : List Char → List Char → Bool) : List Entry :=
  collatedEntries name [optionalOf .string, optionalOf .string] (oneOf .boolean) fun c args =>
    match args with
    | [v, w] => do
      return Value.ofBool (test (← c.units (← v.toText)) (← c.units (← w.toText)))
    | _ => .error .wrongType

/-- A function that cuts a text at the first place of another: it picks characters by the numbers of
those before this place and of those behind it. -/
def textCut (name : String) (pick : List Char → Nat → Nat → List Char) : List Entry :=
  collatedEntries name [optionalOf .string, optionalOf .string] (oneOf .string) fun c args =>
    match args with
    | [v, w] => do
      let s ← v.toText
      match splitAtText (← c.units (← w.toText)) (← c.units s) with
      | some (before, after) =>
        return Value.ofString (String.ofList (pick s.toList before.length after.length))
      | none => return Value.ofString ""
    | _ => .error .wrongType

/-- Functions that make texts. -/
def textFunctions : List Entry :=
  [entryOfContext "string" [.optional .item] (oneOf .string) <| Run.one fun v => do
    return Value.ofString (← textOf v),
   entry "codepoints-to-string" [manyOf .integer] (oneOf .string) <| Run.one fun v => do
    return Value.ofString (String.ofList (← (← v.toAtoms).mapM charOf)),
   entry "string-to-codepoints" [optionalOf .string] (manyOf .integer) <| Run.one fun v => do
    return (← v.toText).toList.flatMap fun c => Value.ofNat c.toNat,
   entry "codepoint-equal" [optionalOf .string, optionalOf .string] (optionalOf .boolean) <|
    Run.two fun v w => do
      match ← v.toText?, ← w.toText? with
      | some r, some s => return Value.ofBool (r == s)
      | _, _ => return [],
   { entry "concat" [optionalOf .anyAtomic, optionalOf .anyAtomic] (oneOf .string) (fun _ args => do
      return Value.ofString (String.join ((← Value.toAtoms args.flatten).map Atom.text))) with
     repeats := true },
   entry "string-join" [manyOf .anyAtomic] (oneOf .string) <| Run.one fun v => do
    return Value.ofString (String.join ((← v.toAtoms).map Atom.text)),
   entry "string-join" [manyOf .anyAtomic, oneOf .string] (oneOf .string) <|
    Run.two fun v between => do
      return Value.ofString ((← between.toText).intercalate ((← v.toAtoms).map Atom.text)),
   entry "substring" [optionalOf .string, oneOf .double] (oneOf .string) <|
    Run.two fun v start => do
      return Value.ofString
        (substringOf (← v.toText) (← start.toDouble) (Double.infinite false)),
   entry "substring" [optionalOf .string, oneOf .double, oneOf .double] (oneOf .string) <|
    Run.three fun v start length => do
      return Value.ofString (substringOf (← v.toText) (← start.toDouble) (← length.toDouble)),
   entryOfContext "string-length" [optionalOf .string] (oneOf .integer) <| Run.one fun v => do
    return Value.ofNat (← v.toText).length,
   { textChange "normalize-space" oneSpaced with use := .first },
   textChange "normalize-unicode" (Text.normalize { compatible := false, composed := true }),
   entry "normalize-unicode" [optionalOf .string, oneOf .string] (oneOf .string) <|
    Run.two fun v form => do
      match ← normalFormOf (← form.toText) with
      | some form => return Value.ofString (Text.normalize form (← v.toText))
      | none => return Value.ofString (← v.toText),
   textChange "upper-case" Text.toUpper,
   textChange "lower-case" Text.toLower,
   textChange "encode-for-uri" (encodedUnless isUnreserved),
   textChange "iri-to-uri" (encodedUnless isAddressChar),
   textChange "escape-html-uri" (encodedUnless isPlainAscii),
   entry "translate" [optionalOf .string, oneOf .string, oneOf .string] (oneOf .string) <|
    Run.three fun v source target => do
      return Value.ofString
        (translateText (← v.toText) (← source.toText).toList (← target.toText).toList)]

/-- Functions that compare texts. -/
def textComparisons : List Entry :=
  (collatedEntries "compare" [optionalOf .string, optionalOf .string] (optionalOf .integer)
    fun c args =>
      match args with
      | [v, w] => do
        match ← v.toText?, ← w.toText? with
        | some r, some s =>
          return Value.ofInt (match textOrder (c.view r) (c.view s) with
            | .lt => -1
            | .eq => 0
            | .gt => 1)
        | _, _ => return []
      | _ => .error .wrongType) ++
  textTest "contains" (fun r s => (splitAtText s r).isSome) ++
  textTest "starts-with" (fun r s => s.isPrefixOf r) ++
  textTest "ends-with" (fun r s => s.isSuffixOf r) ++
  textCut "substring-before" (fun cs before _ => cs.take before) ++
  textCut "substring-after" (fun cs _ after => cs.drop (cs.length - after)) ++
  (collatedEntries "contains-token" [manyOf .string, oneOf .string] (oneOf .boolean)
    fun c args =>
      match args with
      | [v, w] => do
        let token := String.ofList (Double.trim (← w.toText))
        let texts := (← v.toAtoms).map Atom.text
        return Value.ofBool (!token.isEmpty &&
          texts.any fun s => (wordsOf s).any fun word => c.view word == c.view token)
      | _ => .error .wrongType)

/-- Functions on patterns. -/
def patternFunctions : List Entry :=
  let match_ {t : Table} (args : List (Value t)) : Except Fault (Value t) :=
    match args with
    | v :: pattern :: flags => do
      let (p, _) ← patternOf pattern flags
      return Value.ofBool (p.matchesIn (← v.toText).toList)
    | _ => .error .wrongType
  let replace {t : Table} (args : List (Value t)) : Except Fault (Value t) :=
    match args with
    | v :: pattern :: replacement :: flags => do
      let (p, count) ← patternOf pattern flags
      requireSolid p
      let text ← replacement.toText
      let literal ← match flags with
        | [] => pure false
        | f :: _ => pure ((← f.toText).toList.contains 'q')
      let parts ←
        if literal then pure (text.toList.map Pattern.Substitute.char)
        else Pattern.substitutes count text.toList
      return Value.ofString (String.ofList (replaceMatches p parts (← v.toText).toList))
    | _ => .error .wrongType
  let tokenize {t : Table} (args : List (Value t)) : Except Fault (Value t) :=
    match args with
    | v :: pattern :: flags => do
      let (p, _) ← patternOf pattern flags
      requireSolid p
      let text ← v.toText
      if text.isEmpty then return []
      else return (tokensBetween p text.toList).flatMap Value.ofString
    | _ => .error .wrongType
  [entry "matches" [optionalOf .string, oneOf .string] (oneOf .boolean) fun _ => match_,
   entry "matches" [optionalOf .string, oneOf .string, oneOf .string] (oneOf .boolean)
    fun _ => match_,
   entry "replace" [optionalOf .string, oneOf .string, oneOf .string] (oneOf .string)
    fun _ => replace,
   entry "replace" [optionalOf .string, oneOf .string, oneOf .string, oneOf .string] (oneOf .string)
    fun _ => replace,
   entry "tokenize" [optionalOf .string] (manyOf .string) <| Run.one fun v => do
    return (wordsOf (← v.toText)).flatMap Value.ofString,
   entry "tokenize" [optionalOf .string, oneOf .string] (manyOf .string) fun _ => tokenize,
   entry "tokenize" [optionalOf .string, oneOf .string, oneOf .string] (manyOf .string)
    fun _ => tokenize]

end MarkupQuery.XPath.Library
