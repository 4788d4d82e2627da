/-!
# The input of the lexer

Characters still to be read, in chunks: text that was read ahead and given back stands as a chunk of
its own, and a run of plain characters (`Input.run`) never crosses from one chunk to the next. Line
ends are normalized on the way: a carriage return reads as a line feed, and a line feed right after
it is skipped. No chunk is empty.
-/

namespace MarkupQuery.Html

/-- The state of the input. -/
structure Input where
  chunks : List (List Char)
  /-- The last character was a carriage return. -/
  afterReturn : Bool := false
  /-- A character that is to be read again. -/
  again : Option Char := none

namespace Input

/-- Gives characters back, as a chunk of their own. -/
def giveBack (i : Input) : List Char → Input
  | [] => i
  | c :: cs => { i with chunks := (c :: cs) :: i.chunks }

/-- The input that holds a text. -/
def ofList (text : List Char) : Input :=
  giveBack { chunks := [] } text

/-- The next character as it stands, without normalization. -/
def raw? (i : Input) : Option (Char × Input) :=
  match i.chunks with
  | (c :: d :: cs) :: rest => some (c, { i with chunks := (d :: cs) :: rest })
  | [c] :: rest => some (c, { i with chunks := rest })
  | _ => none

/-- The next character, not taken out. -/
def peek? (i : Input) : Option Char :=
  match i.again with
  | some c => some c
  | none => i.raw?.map (·.1)

/-- Takes out the character that `peek?` shows. -/
def discard (i : Input) : Input :=
  match i.again with
  | some _ => { i with again := none }
  | none => match i.raw? with
    | some (_, rest) => rest
    | none => i

/-- The normal form of a character just taken out. -/
def normalize (c : Char) (i : Input) : Char × Input :=
  if c = '\r' then ('\n', { i with afterReturn := true }) else (c, i)

/-- The next character, normalized. -/
def next? (i : Input) : Option (Char × Input) :=
  match i.again with
  | some c => some (c, { i with again := none })
  | none =>
    i.raw?.bind fun (c, rest) =>
      if rest.afterReturn then
        let rest := { rest with afterReturn := false }
        if c = '\n' then rest.raw?.map fun (d, rest) => normalize d rest
        else some (normalize c rest)
      else some (normalize c rest)

/-- A single character, or a run of plain ones. -/
inductive Piece
  | char (c : Char)
  | run (text : List Char)

/-- The next piece of text: a run of characters that are not special, as long as its chunk allows,
or one character. Right after a carriage return, or where a character is read again, the piece is
one character in any case. -/
def piece? (i : Input) (special : Char → Bool) : Option (Piece × Input) :=
  if i.again.isSome || i.afterReturn then i.next?.map fun (c, rest) => (.char c, rest)
  else match i.chunks with
    | (c :: cs) :: rest =>
      if special c then i.next?.map fun (c, rest) => (.char c, rest)
      else
        let text := (c :: cs).takeWhile fun d => !special d
        let left := (c :: cs).dropWhile fun d => !special d
        some (.run text, { i with chunks := rest }.giveBack left)
    | _ => none

/-- All characters still to be read, as they stand. -/
def remaining (i : Input) : List Char :=
  match i.chunks with
  | [] => []
  | [text] => text
  | chunks => chunks.flatten

/-- The input behind its next characters. -/
def drop (i : Input) : Nat → Input
  | 0 => i
  | n + 1 => match i.raw? with
    | some (_, rest) => rest.drop n
    | none => i

/-- The input behind a given word, if the word stands next. With `anyCase` the word is in small
letters and capitals of the input match them. -/
def eat? (i : Input) (word : List Char) (anyCase : Bool) : Option Input :=
  let here := i.remaining.take word.length
  let here := if anyCase then here.map Char.toLower else here
  if here = word then some (i.drop word.length) else none

/-- Forgets a carriage return, together with the line feed that completes it. -/
def settle (i : Input) : Input :=
  if i.afterReturn then
    let i := { i with afterReturn := false }
    if i.peek? = some '\n' then i.discard else i
  else i

/-- Drops a byte order mark that stands next. -/
def dropMark (i : Input) : Input :=
  match i.raw? with
  | some (c, rest) => if c = '\ufeff' then rest else i
  | none => i

end Input

end MarkupQuery.Html
