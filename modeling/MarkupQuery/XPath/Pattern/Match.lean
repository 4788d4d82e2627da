/-!
# Patterns

Regular expressions as trees, and how they match: alternatives are tried from left to right, and a
repetition first goes on as long as it can, or stops as soon as it can. `Pattern.run` hands what is
left of a text to what the rest of the pattern does with it; the first way in which all of it
matches counts.
-/

namespace MarkupQuery.XPath

/-- A regular expression. -/
inductive Pattern
  | empty
  /-- A character of a set. -/
  | char (set : Char → Bool)
  | seq (first second : Pattern)
  | alt (first second : Pattern)
  /-- Something so many times at least, and at most. -/
  | times (body : Pattern) (least : Nat) (most : Option Nat) (greedy : Bool)
  /-- A part whose text is remembered under a number. -/
  | group (number : Nat) (body : Pattern)
  /-- The text remembered under a number, where characters need only be alike. -/
  | again (number : Nat) (alike : Char → Char → Bool)
  | start (everyLine : Bool)
  | stop (everyLine : Bool)

namespace Pattern

/-- A place in a text, and what was remembered on the way there. -/
structure Place where
  index : Nat
  previous : Option Char
  rest : List Char
  groups : List (Nat × List Char)

/-- The place behind the next characters, so many of them. -/
def Place.skip (s : Place) : Nat → Place
  | 0 => s
  | n + 1 =>
    match s.rest with
    | [] => s
    | c :: cs => Place.skip { s with index := s.index + 1, previous := some c, rest := cs } n

/-- What is done with a place from which the rest of a pattern must match. -/
abbrev Next := Place → Option Place

/-- Repeats something, at least and at most so many times. A round that takes nothing is the
last. -/
def repeated (body : Next → Next) (greedy : Bool) : Nat → Nat → Option Nat → Next → Next
  | 0, _, _, next, s => next s
  | fuel + 1, least, most, next, s =>
    let round (_ : Unit) : Option Place :=
      if most = some 0 then none
      else body (fun s' =>
        if s'.index = s.index && least = 0 then none
        else repeated body greedy fuel (least - 1) (most.map (· - 1)) next s') s
    if least != 0 then round ()
    else if greedy then
      match round () with
      | some found => some found
      | none => next s
    else match next s with
      | some found => some found
      | none => round ()

/-- Whether a text begins with characters that are alike to given ones. -/
def beginsAlike (alike : Char → Char → Bool) : List Char → List Char → Bool
  | [], _ => true
  | _ :: _, [] => false
  | c :: cs, d :: ds => alike c d && beginsAlike alike cs ds

/-- Matches a pattern at a place, and what comes next behind it. -/
def run : Pattern → Next → Next
  | empty, next, s => next s
  | char set, next, s =>
    match s.rest with
    | c :: _ => if set c then next (s.skip 1) else none
    | [] => none
  | seq first second, next, s => first.run (second.run next) s
  | alt first second, next, s =>
    match first.run next s with
    | some found => some found
    | none => second.run next s
  | times body least most greedy, next, s =>
    repeated (fun next s => body.run next s) greedy (s.rest.length + least + 1) least most next s
  | group number body, next, s =>
    body.run (fun s' =>
      let taken := s.rest.take (s'.index - s.index)
      next { s' with groups := (number, taken) :: s'.groups }) s
  | again number alike, next, s =>
    let taken := (s.groups.lookup number).getD []
    if beginsAlike alike taken s.rest then next (s.skip taken.length) else none
  | start everyLine, next, s =>
    if s.previous.isNone || (everyLine && s.previous = some '\n') then next s else none
  | stop everyLine, next, s =>
    if s.rest.isEmpty || (everyLine && s.rest.head? = some '\n') then next s else none

/-- Where a pattern that matches at a place stops matching. -/
def matchAt (p : Pattern) (s : Place) : Option Place :=
  p.run some { s with groups := [] }

/-- A match in a text: what stands before it, what matched, and the place behind it. -/
structure Found where
  before : List Char
  text : List Char
  after : Place

/-- The first match at a place or behind it, at most `n` characters on. -/
def find (p : Pattern) : Nat → Place → List Char → Option Found
  | n, s, before =>
    match p.matchAt s with
    | some after =>
      some { before := before.reverse, text := s.rest.take (after.index - s.index), after := after }
    | none =>
      match n, s.rest with
      | n + 1, c :: _ => find p n (s.skip 1) (c :: before)
      | _, _ => none

/-- The beginning of a text. -/
def Place.ofText (text : List Char) : Place :=
  { index := 0, previous := none, rest := text, groups := [] }

/-- Whether a pattern matches somewhere in a text. -/
def matchesIn (p : Pattern) (text : List Char) : Bool :=
  (p.find text.length (.ofText text) []).isSome

/-- All matches in a text, one behind the other, and the text behind the last. -/
def findAll (p : Pattern) : Nat → Place → List Found × List Char
  | 0, s => ([], s.rest)
  | n + 1, s =>
    match p.find s.rest.length s [] with
    | none => ([], s.rest)
    | some found =>
      if found.text.isEmpty then ([], s.rest)
      else
        let (more, rest) := findAll p n found.after
        (found :: more, rest)

end Pattern

end MarkupQuery.XPath
