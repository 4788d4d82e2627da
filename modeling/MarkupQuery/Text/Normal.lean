import MarkupQuery.Text.Normal.Canonical
import MarkupQuery.Text.Normal.Classes
import MarkupQuery.Text.Normal.Compatible

/-!
# Normal forms

A text can be written in several ways that look the same: a letter with a mark may be one character
or two. A normal form chooses one of them. `Text.normalize` takes characters apart, puts the marks
behind each letter into the order of their classes, and, where the form asks for it, puts letters
and marks together again.
-/

namespace MarkupQuery.Text

/-- A normal form. -/
structure NormalForm where
  /-- Whether characters that only mean the same are taken apart, too. -/
  compatible : Bool
  /-- Whether letters and marks are put together again. -/
  composed : Bool
  deriving DecidableEq

namespace Normal

/-! ## Parts -/

/-- The parts of a character in runs where each character has so many of them. -/
def runParts? (width : Nat) (runs : List (Nat × String)) (n : Nat) : Option (List Char) :=
  runs.findSome? fun (first, parts) =>
    if first ≤ n ∧ width * (n - first) < parts.length then
      some ((parts.toList.drop (width * (n - first))).take width)
    else none

/-- The parts of a character that look the same, one step apart. -/
def canonical? (c : Char) : Option (List Char) :=
  let n := c.toNat
  if n < 0xC0 then none
  else if 0xAC00 ≤ n ∧ n < 0xD7A4 then
    let place := n - 0xAC00
    if place % 28 = 0 then
      some [Char.ofNat (0x1100 + place / 588), Char.ofNat (0x1161 + place % 588 / 28)]
    else some [Char.ofNat (n - place % 28), Char.ofNat (0x11A7 + place % 28)]
  else
    (runParts? 2 pairs n).or ((runParts? 1 singles n).or
      ((highPairs.find? fun p => p.1 = n).map fun p => [Char.ofNat p.2.1, Char.ofNat p.2.2]))

/-- The parts of a character that mean the same, one step apart. -/
def compatible? (c : Char) : Option (List Char) :=
  let n := c.toNat
  if n < 0xA0 then none
  else (runParts? 1 likeSingles n).or (likeGroups.findSome? fun (first, groups) =>
    if first ≤ n then (groups[n - first]?).map String.toList else none)

/-- All that a character consists of, at most `fuel` steps apart. -/
def partsOf (compatible : Bool) : Nat → Char → List Char
  | 0, c => [c]
  | fuel + 1, c =>
    match (canonical? c).or (if compatible then compatible? c else none) with
    | some parts => parts.flatMap (partsOf compatible fuel)
    | none => [c]

/-! ## The order of marks -/

/-- The class of a mark; what is no mark has class 0. -/
def markClass (c : Char) : Nat :=
  if c.toNat < 0x300 then 0
  else ((classes.find? fun k => inRanges k.2 c).map (·.1)).getD 0

/-- Puts a mark behind the marks of lower classes that follow it. -/
def insertMark (c : Char) : List Char → List Char
  | [] => [c]
  | d :: ds =>
    if 0 < markClass d ∧ markClass d < markClass c then d :: insertMark c ds else c :: d :: ds

/-- A text with the marks behind each letter in the order of their classes. -/
def orderMarks (cs : List Char) : List Char :=
  cs.foldr insertMark []

/-! ## Putting together -/

/-- The first character of a table of runs that has two given parts. -/
def findPair (a b : Char) (n : Nat) : List Char → Option Nat
  | x :: y :: rest => if x = a ∧ y = b then some n else findPair a b (n + 1) rest
  | _ => none

/-- The character of two parts, if they are put together at all. -/
def composed? (a b : Char) : Option Char :=
  let m := a.toNat
  let n := b.toNat
  if 0x1100 ≤ m ∧ m < 0x1113 ∧ 0x1161 ≤ n ∧ n < 0x1176 then
    some (Char.ofNat (0xAC00 + ((m - 0x1100) * 21 + (n - 0x1161)) * 28))
  else if 0xAC00 ≤ m ∧ m < 0xD7A4 ∧ (m - 0xAC00) % 28 = 0 ∧ 0x11A8 ≤ n ∧ n < 0x11C3 then
    some (Char.ofNat (m + (n - 0x11A7)))
  else if n < 0x300 then none
  else
    let found := (pairs.findSome? fun (first, parts) => findPair a b first parts.toList).or
      ((highPairs.find? fun p => p.2.1 = m ∧ p.2.2 = n).map (·.1))
    (found.map Char.ofNat).filter fun c => !inRanges excluded c

/-- Puts a letter together with what follows it. `between` holds, backwards, the marks behind it
that stay; `last` is the class of the last of them. -/
def composeFrom (letter : Char) (between : List Char) (last : Nat) : List Char → List Char
  | [] => letter :: between.reverse
  | c :: cs =>
    let k := markClass c
    let reached := between.isEmpty || last < k
    match if reached then composed? letter c else none with
    | some d => composeFrom d between last cs
    | none =>
      if k = 0 then letter :: between.reverse ++ composeFrom c [] 0 cs
      else composeFrom letter (c :: between) k cs

/-- A text whose letters and marks are put together. -/
def compose : List Char → List Char
  | [] => []
  | c :: cs => composeFrom c [] 0 cs

end Normal

/-- A text in a normal form. -/
def normalize (form : NormalForm) (s : String) : String :=
  let parts := Normal.orderMarks (s.toList.flatMap (Normal.partsOf form.compatible 8))
  String.ofList (if form.composed then Normal.compose parts else parts)

end MarkupQuery.Text
