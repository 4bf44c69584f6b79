/-!
# Positions in a YAML text

The text ahead with the line and column it starts at, and the character classes
that the syntax is made of.  Indentation is compared with columns, so every
step keeps the column; a carriage return and line feed count as one break.
-/

namespace ApiDiscovery.Yaml

def isAllowed (c : Char) : Bool :=
  let n := c.toNat
  n == 0x09 || n == 0x0A || n == 0x0D || (0x20 ≤ n && n ≤ 0x7E) || n == 0x85 ||
    (0xA0 ≤ n && n ≤ 0xFFFD) || 0x10000 ≤ n

def isBlank (c : Char) : Bool := c == ' ' || c == '\t'

def isBreak (c : Char) : Bool :=
  c == '\r' || c == '\n' || c == '\x85' || c == '\u2028' || c == '\u2029'

def atBlankOrEnd : List Char → Bool
  | [] => true
  | c :: _ => isBlank c || isBreak c

def atBreakOrEnd : List Char → Bool
  | [] => true
  | c :: _ => isBreak c

def isNameChar (c : Char) : Bool := c.isAlphanum || c == '_' || c == '-'

/-- The text ahead, and where it starts; `index` counts the characters before it. -/
structure Cursor where
  text : List Char
  index : Nat := 0
  line : Nat := 0
  column : Nat := 0
deriving Repr

namespace Cursor

def skip (cursor : Cursor) : Cursor :=
  { cursor with
    text := cursor.text.tail, index := cursor.index + 1, column := cursor.column + 1 }

def skipBy (count : Nat) (cursor : Cursor) : Cursor :=
  { cursor with
    text := cursor.text.drop count, index := cursor.index + count
    column := cursor.column + count }

/-- Past a line break, if there is one, with the break as content has it. -/
def skipBreak (cursor : Cursor) : List Char × Cursor :=
  match cursor.text with
  | '\r' :: '\n' :: rest => (['\n'], ⟨rest, cursor.index + 2, cursor.line + 1, 0⟩)
  | c :: rest =>
      if c = '\u2028' ∨ c = '\u2029' then ([c], ⟨rest, cursor.index + 1, cursor.line + 1, 0⟩)
      else if isBreak c then (['\n'], ⟨rest, cursor.index + 1, cursor.line + 1, 0⟩)
      else ([], cursor)
  | [] => ([], cursor)

/-- The characters ahead that satisfy a condition, none of which ends a line, and what follows. -/
def takeWhile (condition : Char → Bool) (cursor : Cursor) : List Char × Cursor :=
  let taken := cursor.text.takeWhile condition
  (taken, cursor.skipBy taken.length)

def skipLine (cursor : Cursor) : Cursor := (cursor.takeWhile (!isBreak ·)).2

/-- A document mark, three times the same character and then a blank, stands here on a new line. -/
def atMark (cursor : Cursor) (mark : Char) : Bool :=
  cursor.column == 0 && cursor.text.take 3 == [mark, mark, mark] &&
    atBlankOrEnd (cursor.text.drop 3)

def atAnyMark (cursor : Cursor) : Bool := cursor.atMark '-' || cursor.atMark '.'

end Cursor

end ApiDiscovery.Yaml
