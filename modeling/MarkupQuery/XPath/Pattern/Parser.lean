import MarkupQuery.Text.Case
import MarkupQuery.XPath.Fault
import MarkupQuery.XPath.Pattern.Match
import MarkupQuery.XPath.Words

/-!
# Reading patterns

The notation of regular expressions: branches, pieces with quantifiers, groups, classes of
characters that can be negated and subtracted from each other, and flags that change what all of it
means.
-/

namespace MarkupQuery.XPath.Pattern

/-- What the flags of a pattern say. -/
structure Flags where
  /-- The dot stands for line ends, too. -/
  dotAll : Bool := false
  /-- Lines have starts and ends of their own. -/
  multiline : Bool := false
  /-- Capital and small letters are alike. -/
  ignoreCase : Bool := false
  /-- Blanks in the pattern mean nothing. -/
  skipBlanks : Bool := false
  /-- Every character stands for itself. -/
  literal : Bool := false

/-- Reads flags. -/
def Flags.ofList : List Char → Except Fault Flags
  | [] => .ok {}
  | c :: cs => do
    let flags ← Flags.ofList cs
    match c with
    | 's' => return { flags with dotAll := true }
    | 'm' => return { flags with multiline := true }
    | 'i' => return { flags with ignoreCase := true }
    | 'x' => return { flags with skipBlanks := true }
    | 'q' => return { flags with literal := true }
    | _ => throw .badFlag

/-! ## Characters -/

/-- Whether two characters are the same, or the same but for their case. -/
def alike (flags : Flags) (c d : Char) : Bool :=
  c = d || (flags.ignoreCase &&
    (Text.lowerChar c = Text.lowerChar d || Text.upperChar c = Text.upperChar d))

/-- The set of the characters between two. -/
def charRange (flags : Flags) (first last : Char) (c : Char) : Bool :=
  let within (c : Char) : Bool := first ≤ c && c ≤ last
  within c || (flags.ignoreCase && (within (Text.lowerChar c) || within (Text.upperChar c)))

/-- A part of a pattern that was read, and the characters behind it. -/
abbrev Part (α : Type) := α × List Char

/-- The character that an escape stands for. -/
def escaped? : Char → Option Char
  | 'n' => some '\n'
  | 'r' => some '\r'
  | 't' => some '\t'
  | c => if "\\|.-^?*+\x7b\x7d()[]$".toList.contains c then some c else none

/-- The set that a letter behind a backslash stands for. -/
def classOf? : Char → Option (Char → Bool)
  | 's' => some Lexer.isBlank
  | 'S' => some fun c => !Lexer.isBlank c
  | 'i' => some fun c => isNameStart c || c = ':'
  | 'I' => some fun c => !(isNameStart c || c = ':')
  | 'c' => some fun c => isNameChar c || c = ':'
  | 'C' => some fun c => !(isNameChar c || c = ':')
  | 'd' => some Text.isDecimalDigit
  | 'D' => some fun c => !Text.isDecimalDigit c
  | 'w' => some Text.isWordChar
  | 'W' => some fun c => !Text.isWordChar c
  | _ => none

/-- Reads the name of a category in braces. -/
def categoryClass (negated : Bool) (cs : List Char) : Except Fault (Part (Char → Bool)) :=
  match cs with
  | '\x7b' :: rest =>
    let (name, rest) := Lexer.span (· != '\x7d') rest
    match rest, Text.categoryTest? (String.ofList name) with
    | '\x7d' :: rest, some test => .ok (fun c => test c != negated, rest)
    | _, _ => .error .badPattern
  | _ => .error .badPattern

/-- Reads a set of characters behind a backslash, if it is one. -/
def escapedClass? (cs : List Char) : Option (Except Fault (Part (Char → Bool))) :=
  match cs with
  | 'p' :: rest => some (categoryClass false rest)
  | 'P' :: rest => some (categoryClass true rest)
  | c :: rest => (classOf? c).map fun set => .ok (set, rest)
  | [] => none

/-- Reads a single character of a class. -/
def classChar (cs : List Char) : Except Fault (Part Char) :=
  match cs with
  | '\\' :: c :: rest =>
    match escaped? c with
    | some d => .ok (d, rest)
    | none => .error .badPattern
  | c :: rest => if "\\[]".toList.contains c then .error .badPattern else .ok (c, rest)
  | [] => .error .badPattern

/-- Reads a character of a class, or two with a dash between them, or an escape for a set. -/
def classMember (flags : Flags) (cs : List Char) : Except Fault (Part (Char → Bool)) := do
  let escape := match cs with
    | '\\' :: rest => escapedClass? rest
    | _ => none
  match escape with
  | some part => part
  | none =>
    let (first, rest) ← classChar cs
    match rest with
    | '-' :: '[' :: _ => return (charRange flags first first, rest)
    | '-' :: ']' :: _ => return (charRange flags first first, rest)
    | '-' :: rest =>
      let (last, rest) ← classChar rest
      if first ≤ last then return (charRange flags first last, rest) else throw .badPattern
    | _ => return (charRange flags first first, rest)

/-- Reads the members of a class up to its closing bracket. `set` is the set of what was read
before; `first` says that nothing was. -/
def classMembers (flags : Flags) :
    Nat → Bool → (Char → Bool) → List Char → Except Fault (Part (Char → Bool))
  | 0, _, _, _ => .error .badPattern
  | fuel + 1, first, set, cs =>
    match cs with
    | ']' :: rest => if first then .error .badPattern else .ok (set, rest)
    | '-' :: '[' :: rest =>
      if first then .error .badPattern
      else do
        let (negated, rest) := match rest with
          | '^' :: rest => (true, rest)
          | rest => (false, rest)
        let (taken, rest) ← classMembers flags fuel true (fun _ => false) rest
        match rest with
        | ']' :: rest => return (fun c => set c && (taken c == negated), rest)
        | _ => throw .badPattern
    | _ => do
      let (more, rest) ← classMember flags cs
      classMembers flags fuel false (fun c => set c || more c) rest

/-- Reads a class behind its opening bracket. -/
def charClass (flags : Flags) (cs : List Char) : Except Fault (Part (Char → Bool)) :=
  match cs with
  | '^' :: rest => do
    let (set, rest) ← classMembers flags (rest.length + 1) true (fun _ => false) rest
    return (fun c => !set c, rest)
  | _ => classMembers flags (cs.length + 1) true (fun _ => false) cs

/-! ## Pieces -/

/-- Reads a quantifier behind a piece; none is once. -/
def quantifier (cs : List Char) : Except Fault (Part (Nat × Option Nat)) :=
  match cs with
  | '?' :: rest => .ok ((0, some 1), rest)
  | '*' :: rest => .ok ((0, none), rest)
  | '+' :: rest => .ok ((1, none), rest)
  | '\x7b' :: rest =>
    match Lexer.span Char.isDigit rest with
    | ([], _) => .error .badPattern
    | (least, '\x7d' :: rest) =>
      let n := Decimal.digitsValue least
      .ok ((n, some n), rest)
    | (least, ',' :: '\x7d' :: rest) => .ok ((Decimal.digitsValue least, none), rest)
    | (least, ',' :: rest) =>
      match Lexer.span Char.isDigit rest with
      | ([], _) => .error .badPattern
      | (most, '\x7d' :: rest) =>
        let m := Decimal.digitsValue least
        let n := Decimal.digitsValue most
        if m ≤ n then .ok ((m, some n), rest) else .error .badPattern
      | _ => .error .badPattern
    | _ => .error .badPattern
  | _ => .ok ((1, some 1), cs)

/-- Whether a quantifier begins with a character. -/
def beginsQuantifier (cs : List Char) : Bool :=
  match cs with
  | c :: _ => c = '?' || c = '*' || c = '+' || c = '\x7b'
  | [] => false

/-- A piece with the quantifier behind it. -/
def quantified (piece : Pattern) (cs : List Char) : Except Fault (Part Pattern) :=
  if beginsQuantifier cs then do
    let ((least, most), rest) ← quantifier cs
    match rest with
    | '?' :: rest => return (.times piece least most false, rest)
    | _ => return (.times piece least most true, rest)
  else .ok (piece, cs)

/-- The number of a group that digits refer to: as many digits as leave a number of one of the
groups opened so far. -/
def groupNumber (count n : Nat) : List Char → Nat × List Char
  | [] => (n, [])
  | c :: cs =>
    let next := 10 * n + Decimal.digitsValue [c]
    if c.isDigit && next ≤ count then groupNumber count next cs else (n, c :: cs)

/-- What is read of a pattern: the pattern, the number of groups that are open or closed so far, the
numbers of those closed, and the characters behind it. -/
abbrev Progress := Pattern × Nat × List Nat × List Char

mutual

/-- Reads branches. -/
def branches (flags : Flags) : Nat → Nat → List Nat → List Char → Except Fault Progress
  | 0, _, _, _ => .error .badPattern
  | fuel + 1, count, closed, cs => do
    let (first, count, closed, rest) ← pieces flags fuel count closed cs
    match rest with
    | '|' :: rest =>
      let (second, count, closed, rest) ← branches flags fuel count closed rest
      return (.alt first second, count, closed, rest)
    | _ => return (first, count, closed, rest)

/-- Reads the pieces of a branch. -/
def pieces (flags : Flags) : Nat → Nat → List Nat → List Char → Except Fault Progress
  | 0, _, _, _ => .error .badPattern
  | fuel + 1, count, closed, cs =>
    match cs with
    | [] => .ok (.empty, count, closed, [])
    | '|' :: _ => .ok (.empty, count, closed, cs)
    | ')' :: _ => .ok (.empty, count, closed, cs)
    | _ => do
      let (first, count, closed, rest) ← piece flags fuel count closed cs
      let (first, rest) ← quantified first rest
      let (second, count, closed, rest) ← pieces flags fuel count closed rest
      return (.seq first second, count, closed, rest)

/-- Reads a piece without its quantifier. -/
def piece (flags : Flags) : Nat → Nat → List Nat → List Char → Except Fault Progress
  | 0, _, _, _ => .error .badPattern
  | fuel + 1, count, closed, cs =>
    match cs with
    | '(' :: '?' :: ':' :: rest => do
      let (body, count, closed, rest) ← branches flags fuel count closed rest
      match rest with
      | ')' :: rest => return (body, count, closed, rest)
      | _ => throw .badPattern
    | '(' :: rest => do
      let number := count + 1
      let (body, count, closed, rest) ← branches flags fuel number closed rest
      match rest with
      | ')' :: rest => return (.group number body, count, number :: closed, rest)
      | _ => throw .badPattern
    | '[' :: rest => do
      let (set, rest) ← charClass flags rest
      return (.char set, count, closed, rest)
    | '.' :: rest =>
      let set (c : Char) : Bool := flags.dotAll || (c != '\n' && c != '\r')
      .ok (.char set, count, closed, rest)
    | '^' :: rest => .ok (.start flags.multiline, count, closed, rest)
    | '$' :: rest => .ok (.stop flags.multiline, count, closed, rest)
    | '\\' :: rest =>
      match escapedClass? rest with
      | some part => do
        let (set, rest) ← part
        return (.char set, count, closed, rest)
      | none =>
        match rest with
        | [] => .error .badPattern
        | c :: more =>
          if c.isDigit && c != '0' then
            let (number, rest) := groupNumber count (Decimal.digitsValue [c]) more
            if closed.contains number then
              .ok (.again number (alike flags), count, closed, rest)
            else .error .badPattern
          else match escaped? c with
            | some d => .ok (.char (alike flags d), count, closed, more)
            | none => .error .badPattern
    | c :: rest =>
      if "?*+\x7b\x7d])|".toList.contains c then .error .badPattern
      else .ok (.char (alike flags c), count, closed, rest)
    | [] => .error .badPattern

end

/-- The pattern without the blanks that mean nothing in it: those outside classes. -/
def withoutBlanks : Nat → List Char → List Char
  | _, [] => []
  | depth, '\\' :: c :: cs => '\\' :: c :: withoutBlanks depth cs
  | depth, '[' :: cs => '[' :: withoutBlanks (depth + 1) cs
  | depth, ']' :: cs => ']' :: withoutBlanks (depth - 1) cs
  | depth, c :: cs =>
    if depth = 0 && Lexer.isBlank c then withoutBlanks depth cs else c :: withoutBlanks depth cs

/-- Reads a pattern. The result tells the number of its groups, too. -/
def parse (flags : Flags) (text : String) : Except Fault (Pattern × Nat) := do
  if flags.literal then
    return (text.toList.foldr (fun c rest => .seq (.char (alike flags c)) rest) .empty, 0)
  let cs := if flags.skipBlanks then withoutBlanks 0 text.toList else text.toList
  match ← branches flags (4 * cs.length + 4) 0 [] cs with
  | (p, count, _, []) => return (p, count)
  | _ => throw .badPattern

/-! ## Replacements -/

/-- A part of a replacement: a character, or the text of a group. -/
inductive Substitute
  | char (c : Char)
  | group (number : Nat)

/-- Reads a replacement for a pattern with so many groups. -/
def substitutes (count : Nat) : List Char → Except Fault (List Substitute)
  | [] => .ok []
  | '\\' :: c :: cs =>
    if c = '\\' || c = '$' then do return .char c :: (← substitutes count cs)
    else .error .badReplacement
  | '\\' :: [] => .error .badReplacement
  | '$' :: c :: cs =>
    if c.isDigit then do
      let number := Decimal.digitsValue [c]
      return .group number :: (← substitutes count cs)
    else .error .badReplacement
  | '$' :: [] => .error .badReplacement
  | c :: cs => do return .char c :: (← substitutes count cs)

/-- The characters that a replacement puts in the place of a match. -/
def substituted (found : Found) (parts : List Substitute) : List Char :=
  parts.flatMap fun part =>
    match part with
    | .char c => [c]
    | .group 0 => found.text
    | .group n => (found.after.groups.lookup n).getD []

end MarkupQuery.XPath.Pattern
