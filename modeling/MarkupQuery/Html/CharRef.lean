import MarkupQuery.Html.CharRef.LowerNamesFirst
import MarkupQuery.Html.CharRef.LowerNamesSecond
import MarkupQuery.Html.CharRef.UpperNames
import MarkupQuery.Html.Issue

/-!
# Character references

`CharRef.read` resolves what stands behind an ampersand. A reference gives its code point by number
or is one of the names of HTML; of the names the longest that fits is taken. Text that was read
ahead in vain is given back and read again as text, and an ampersand that begins no reference stands
for itself.
-/

namespace MarkupQuery.Html.CharRef

/-- The references that begin with a letter. -/
def beginningWith : Char → List (String × String)
  | 'A' => referencesUpperA
  | 'B' => referencesUpperB
  | 'C' => referencesUpperC
  | 'D' => referencesUpperD
  | 'E' => referencesUpperE
  | 'F' => referencesUpperF
  | 'G' => referencesUpperG
  | 'H' => referencesUpperH
  | 'I' => referencesUpperI
  | 'J' => referencesUpperJ
  | 'K' => referencesUpperK
  | 'L' => referencesUpperL
  | 'M' => referencesUpperM
  | 'N' => referencesUpperN
  | 'O' => referencesUpperO
  | 'P' => referencesUpperP
  | 'Q' => referencesUpperQ
  | 'R' => referencesUpperR
  | 'S' => referencesUpperS
  | 'T' => referencesUpperT
  | 'U' => referencesUpperU
  | 'V' => referencesUpperV
  | 'W' => referencesUpperW
  | 'X' => referencesUpperX
  | 'Y' => referencesUpperY
  | 'Z' => referencesUpperZ
  | 'a' => referencesLowerA
  | 'b' => referencesLowerB
  | 'c' => referencesLowerC
  | 'd' => referencesLowerD
  | 'e' => referencesLowerE
  | 'f' => referencesLowerF
  | 'g' => referencesLowerG
  | 'h' => referencesLowerH
  | 'i' => referencesLowerI
  | 'j' => referencesLowerJ
  | 'k' => referencesLowerK
  | 'l' => referencesLowerL
  | 'm' => referencesLowerM
  | 'n' => referencesLowerN
  | 'o' => referencesLowerO
  | 'p' => referencesLowerP
  | 'q' => referencesLowerQ
  | 'r' => referencesLowerR
  | 's' => referencesLowerS
  | 't' => referencesLowerT
  | 'u' => referencesLowerU
  | 'v' => referencesLowerV
  | 'w' => referencesLowerW
  | 'x' => referencesLowerX
  | 'y' => referencesLowerY
  | 'z' => referencesLowerZ
  | _ => []

/-- What was found behind an ampersand. -/
structure Reading where
  /-- How many characters were read. -/
  consumed : Nat
  /-- Those of them that are to be read again. -/
  givenBack : List Char := []
  /-- The characters referred to; none if the ampersand stands for itself. -/
  text : List Char := []
  issues : List Issue := []

/-! ## References by number -/

/-- The characters that the code points from U+0080 to U+009F stand for. -/
def c1Replacements : List Nat :=
  [0x20AC, 0x81, 0x201A, 0x192, 0x201E, 0x2026, 0x2020, 0x2021, 0x2C6, 0x2030, 0x160, 0x2039, 0x152,
   0x8D, 0x17D, 0x8F, 0x90, 0x2018, 0x2019, 0x201C, 0x201D, 0x2022, 0x2013, 0x2014, 0x2DC, 0x2122,
   0x161, 0x203A, 0x153, 0x9D, 0x17E, 0x178]

/-- Whether a code point is a control character or no character at all. -/
def irregular (n : Nat) : Bool :=
  (0x1 ≤ n && n ≤ 0x8) || n = 0xB || (0xD ≤ n && n ≤ 0x1F) || n = 0x7F ||
    (0xFDD0 ≤ n && n ≤ 0xFDEF) || n % 0x10000 = 0xFFFE || n % 0x10000 = 0xFFFF

/-- The character for a number, and whether the number is one that may stand in a reference. -/
def ofNumber (n : Nat) : Char × Bool :=
  if n = 0 || 0x10FFFF < n || (0xD800 ≤ n && n ≤ 0xDFFF) then ('\ufffd', false)
  else if 0x80 ≤ n && n ≤ 0x9F then (Char.ofNat (c1Replacements.getD (n - 0x80) n), false)
  else (Char.ofNat n, !irregular n)

/-- The value of a digit in base ten or sixteen. -/
def digit? (hex : Bool) (c : Char) : Option Nat :=
  if '0' ≤ c ∧ c ≤ '9' then some (c.toNat - '0'.toNat)
  else if hex ∧ 'a' ≤ c ∧ c ≤ 'f' then some (c.toNat - 'a'.toNat + 10)
  else if hex ∧ 'A' ≤ c ∧ c ≤ 'F' then some (c.toNat - 'A'.toNat + 10)
  else none

/-- The reading that ends with a number. -/
def numberRead (n consumed : Nat) (issues : List Issue) : Reading :=
  let (c, regular) := ofNumber n
  { consumed := consumed, text := [c],
    issues := if regular then issues else issues ++ [.numericInvalid] }

/-- Reads digits. `opening` is what stood before them, `n` their value so far. -/
def readDigits (hex : Bool) (opening : List Char) (count n : Nat) : List Char → Reading
  | [] =>
    if count = 0 then
      { consumed := opening.length, givenBack := opening, issues := [.numericWithoutDigits] }
    else numberRead n (opening.length + count) [.numericCutOff]
  | c :: cs =>
    match digit? hex c with
    | some d => readDigits hex opening (count + 1) (n * (if hex then 16 else 10) + d) cs
    | none =>
      if count = 0 then
        { consumed := opening.length, givenBack := opening, issues := [.numericWithoutDigits] }
      else if c = ';' then numberRead n (opening.length + count + 1) []
      else numberRead n (opening.length + count) [.numericUnterminated]

/-- Reads a reference by number behind its number sign. -/
def readNumber : List Char → Reading
  | [] => { consumed := 1, givenBack := ['#'], issues := [.hashCutOff] }
  | c :: cs =>
    if c = 'x' ∨ c = 'X' then readDigits true ['#', c] 0 0 cs
    else readDigits false ['#'] 0 0 (c :: cs)

/-! ## References by name -/

/-- Whether a character may stand in a name. -/
def nameChar (c : Char) : Bool :=
  c.isAlphanum

/-- Reads on behind letters that begin no name, up to the first other character. `letters` is what
was read, backwards. -/
def readUnknown (letters : List Char) : List Char → Reading
  | [] => { consumed := letters.length, givenBack := letters.reverse }
  | c :: cs =>
    if nameChar c then readUnknown (c :: letters) cs
    else
      { consumed := letters.length + 1, givenBack := (c :: letters).reverse,
        issues := if c = ';' then [.unknownReference] else [] }

/-- The reading that ends with a name of `length` characters, after `letters` were read. A name
without a semicolon is no reference in the value of an attribute if a letter, a digit or an equals
sign follows. -/
def nameRead (inAttribute : Bool) (length : Nat) (text : List Char) (letters : List Char) :
    Reading :=
  let after := letters.drop length
  let kept (issues : List Issue) : Reading :=
    { consumed := letters.length, givenBack := after, text := text, issues := issues }
  let refused : Reading := { consumed := letters.length, givenBack := letters }
  if letters[length - 1]? = some ';' then kept []
  else match after with
    | c :: _ =>
      if inAttribute && (c = '=' || nameChar c) then refused
      else kept [.referenceUnterminated]
    | [] => kept [.referenceUnterminated]

/-- The ends of the names that go on with a character. -/
def continuations (c : Char) (names : List (List Char × String)) : List (List Char × String) :=
  names.filterMap fun (letters, text) =>
    match letters with
    | d :: rest => if c = d then some (rest, text) else none
    | [] => none

/-- Reads a reference by name. `letters` is what was read, backwards; `names` holds the ends of the
names that begin with it, and `found` the longest complete name so far. -/
def readName (inAttribute : Bool) (letters : List Char) (names : List (List Char × String))
    (found : Option (Nat × String)) : List Char → Reading
  | [] => match found with
    | some (length, text) => nameRead inAttribute length text.toList letters.reverse
    | none => { consumed := letters.length, givenBack := letters.reverse }
  | c :: cs =>
    let letters := c :: letters
    let names := continuations c names
    match names with
    | [] => match found with
      | some (length, text) => nameRead inAttribute length text.toList letters.reverse
      | none =>
        if nameChar c then readUnknown letters cs
        else
          { consumed := letters.length, givenBack := letters.reverse,
            issues := if c = ';' ∧ 1 < letters.length then [.unknownReference] else [] }
    | names =>
      let found := match names.find? fun (rest, _) => rest.isEmpty with
        | some (_, text) => some (letters.length, text)
        | none => found
      readName inAttribute letters names found cs

/-- Resolves what stands behind an ampersand. -/
def read (inAttribute : Bool) : List Char → Reading
  | [] => { consumed := 0 }
  | c :: cs =>
    if c = '#' then
      readNumber cs
    else if nameChar c then
      let names := (beginningWith c).map fun (letters, text) => (letters.toList, text)
      readName inAttribute [] names none (c :: cs)
    else { consumed := 0 }

end MarkupQuery.Html.CharRef
