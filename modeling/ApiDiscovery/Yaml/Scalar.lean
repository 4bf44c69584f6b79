import ApiDiscovery.Text.Percent
import ApiDiscovery.Yaml.Cursor

/-!
# Scalars

The five ways to write a text: plain, in single or double quotes, and as a
literal or folded block.  Outside literal blocks a line break between two lines
becomes a space and further breaks are kept.  Every reading gives the content
and the position behind it, or nothing where the syntax is broken; the bounds on
the loops are one more than the characters ahead.
-/

namespace ApiDiscovery.Yaml

/-! ## Blanks between pieces of content -/

/-- White space met inside a scalar: blanks on the line, the first break and the later ones. -/
structure Gap where
  blanks : List Char := []
  firstBreak : List Char := []
  laterBreaks : List Char := []
  broken : Bool := false

/-- What a gap contributes to the content around it. -/
def Gap.content (gap : Gap) : List Char :=
  if gap.broken then
    if gap.firstBreak = ['\n'] then
      if gap.laterBreaks.isEmpty then [' '] else gap.laterBreaks
    else gap.firstBreak ++ gap.laterBreaks
  else gap.blanks

/--
The white space ahead added to a gap.  After a break a tab left of the given
column is refused.
-/
def gapAhead (leastColumn : Nat) : Nat → Gap → Cursor → Option (Gap × Cursor)
  | 0, _, _ => none
  | bound + 1, gap, cursor =>
      match cursor.text with
      | [] => some (gap, cursor)
      | c :: _ =>
          if isBlank c then
            if gap.broken then
              if c = '\t' ∧ cursor.column < leastColumn then none
              else gapAhead leastColumn bound gap cursor.skip
            else gapAhead leastColumn bound { gap with blanks := gap.blanks ++ [c] } cursor.skip
          else if isBreak c then
            let (written, next) := cursor.skipBreak
            if gap.broken then
              gapAhead leastColumn bound
                { gap with laterBreaks := gap.laterBreaks ++ written } next
            else
              gapAhead leastColumn bound
                { gap with blanks := [], firstBreak := written, broken := true } next
          else some (gap, cursor)

/-! ## Quoted scalars -/

def namedEscape? (c : Char) : Option Char :=
  if c = '0' then some '\x00'
  else if c = 'a' then some '\x07'
  else if c = 'b' then some '\x08'
  else if c = 't' ∨ c = '\t' then some '\t'
  else if c = 'n' then some '\n'
  else if c = 'v' then some '\x0b'
  else if c = 'f' then some '\x0c'
  else if c = 'r' then some '\r'
  else if c = 'e' then some '\x1b'
  else if c = ' ' then some ' '
  else if c = '"' then some '"'
  else if c = '/' then some '/'
  else if c = '\\' then some '\\'
  else if c = 'N' then some '\x85'
  else if c = '_' then some '\xa0'
  else if c = 'L' then some '\u2028'
  else if c = 'P' then some '\u2029'
  else none

def escapeWidth? (c : Char) : Option Nat :=
  if c = 'x' then some 2 else if c = 'u' then some 4 else if c = 'U' then some 8 else none

def hexadecimal? (digits : List Char) : Option Nat :=
  digits.foldlM (fun value c => (Text.Percent.digitValue? c).map (value * 16 + ·)) 0

def escapeAhead (cursor : Cursor) : Option (Char × Cursor) :=
  match cursor.text with
  | _ :: c :: rest =>
      match namedEscape? c, escapeWidth? c with
      | some meant, _ => some (meant, cursor.skipBy 2)
      | none, some width =>
          if rest.length < width then none
          else
            match hexadecimal? (rest.take width) with
            | none => none
            | some code =>
                if 0x10FFFF < code ∨ (0xD800 ≤ code ∧ code ≤ 0xDFFF) then none
                else some (Char.ofNat code, cursor.skipBy (2 + width))
      | none, none => none
  | _ => none

/--
Content on one line of a quoted scalar, up to a blank, a break, the closing
quote or an escaped break; the flag tells the last of these.
-/
def quotedLine (quote : Char) : Nat → Cursor → Option (List Char × Bool × Cursor)
  | 0, _ => none
  | bound + 1, cursor =>
      match cursor.text with
      | [] => some ([], false, cursor)
      | c :: rest =>
          if isBlank c || isBreak c then some ([], false, cursor)
          else if quote = '\'' ∧ c = '\'' ∧ rest.head? = some '\'' then
            (quotedLine quote bound (cursor.skipBy 2)).map fun (more, after) => ('\'' :: more, after)
          else if c = quote then some ([], false, cursor)
          else if quote = '"' ∧ c = '\\' then
            match rest with
            | [] => none
            | d :: _ =>
                if isBreak d then some ([], true, cursor.skip.skipBreak.2)
                else
                  match escapeAhead cursor with
                  | none => none
                  | some (meant, next) =>
                      (quotedLine quote bound next).map fun (more, after) => (meant :: more, after)
          else
            (quotedLine quote bound cursor.skip).map fun (more, after) => (c :: more, after)

def quotedFrom (quote : Char) : Nat → Cursor → Option (List Char × Cursor)
  | 0, _ => none
  | bound + 1, cursor =>
      if cursor.atAnyMark || cursor.text.isEmpty then none
      else
        match quotedLine quote (cursor.text.length + 1) cursor with
        | none => none
        | some (line, escapedBreak, behindLine) =>
            if behindLine.text.head? = some quote ∧ !escapedBreak then
              some (line, behindLine.skip)
            else
              match gapAhead 0 (behindLine.text.length + 1) { broken := escapedBreak } behindLine with
              | none => none
              | some (gap, next) =>
                  (quotedFrom quote bound next).map fun (more, after) =>
                    (line ++ gap.content ++ more, after)

def quotedScalar (quote : Char) (cursor : Cursor) : Option (List Char × Cursor) :=
  quotedFrom quote (cursor.text.length + 1) cursor.skip

/-! ## Plain scalars -/

def isFlowIndicator (c : Char) : Bool :=
  c == ',' || c == '[' || c == ']' || c == '\x7b' || c == '\x7d'

/-- Content of a plain scalar up to a blank, a break or an indicator that ends it. -/
def plainLine (inFlow : Bool) : List Char → Option (List Char)
  | [] => some []
  | c :: rest =>
      if isBlank c || isBreak c then some []
      else if inFlow && c == ':' && rest.head?.any (fun d => isFlowIndicator d || d == '?') then none
      else if (c == ':' && atBlankOrEnd rest) || (inFlow && isFlowIndicator c) then some []
      else (plainLine inFlow rest).map (c :: ·)

/--
A plain scalar from a piece of content on.  The gap before the piece counts only
if the piece is not empty; the flag tells whether the scalar ended behind a line
break.
-/
def plainFrom (inFlow : Bool) (leastColumn : Nat) :
    Nat → Gap → Cursor → Option (List Char × Bool × Cursor)
  | 0, _, _ => none
  | bound + 1, before, cursor =>
      if cursor.atAnyMark || cursor.text.head? == some '#' then some ([], before.broken, cursor)
      else
        match plainLine inFlow cursor.text with
        | none => none
        | some [] => some ([], before.broken, cursor)
        | some (c :: line) =>
            let behind := cursor.skipBy (line.length + 1)
            match gapAhead leastColumn (behind.text.length + 1) {} behind with
            | none => none
            | some (gap, next) =>
                if next.index = behind.index then
                  some (before.content ++ c :: line, false, next)
                else if !inFlow && next.column < leastColumn then
                  some (before.content ++ c :: line, gap.broken, next)
                else
                  (plainFrom inFlow leastColumn bound gap next).map fun (more, after) =>
                    (before.content ++ c :: line ++ more, after)

def plainScalar (inFlow : Bool) (leastColumn : Nat) (cursor : Cursor) :
    Option (List Char × Bool × Cursor) :=
  plainFrom inFlow leastColumn (cursor.text.length + 1) {} cursor

/-! ## Block scalars -/

/-- What becomes of the line breaks that end a block. -/
inductive Chomping where
  | strip
  | clip
  | keep
deriving DecidableEq, Repr

def chomping? (c : Char) : Option Chomping :=
  if c = '-' then some .strip else if c = '+' then some .keep else none

/-- The header of a block behind its indicator: chomping and explicit indentation, in either order. -/
def blockHeader (cursor : Cursor) : Option (Chomping × Option Nat × Cursor) :=
  let digit? (c : Char) : Option Nat := if c.isDigit then some (c.toNat - 48) else none
  match cursor.text with
  | [] => some (.clip, none, cursor)
  | c :: rest =>
      match chomping? c, digit? c with
      | some chomping, _ =>
          match rest.head?.bind digit? with
          | none => some (chomping, none, cursor.skip)
          | some 0 => none
          | some increment => some (chomping, some increment, cursor.skipBy 2)
      | none, some 0 => none
      | none, some increment =>
          match rest.head?.bind chomping? with
          | none => some (.clip, some increment, cursor.skip)
          | some chomping => some (chomping, some increment, cursor.skipBy 2)
      | none, none => some (.clip, none, cursor)

/--
The indentation and the empty lines ahead.  An indentation of zero is still
unknown: then all spaces are taken and the widest line is remembered.
-/
def blockBreaks (indent : Nat) :
    Nat → Nat → List Char → Cursor → Option (Nat × List Char × Cursor)
  | 0, _, _, _ => none
  | bound + 1, widest, breaks, cursor =>
      let spaces := (cursor.text.takeWhile (· == ' ')).length
      let next :=
        cursor.skipBy (if indent = 0 then spaces else min spaces (indent - cursor.column))
      let widest := max widest next.column
      match next.text with
      | [] => some (widest, breaks, next)
      | c :: _ =>
          if c = '\t' ∧ (indent = 0 ∨ next.column < indent) then none
          else if isBreak c then
            let (written, after) := next.skipBreak
            blockBreaks indent bound widest (breaks ++ written) after
          else some (widest, breaks, next)

/-- The lines of a block at a known indentation, with the state between two lines. -/
def blockLines (folded : Bool) (indent : Nat) (chomping : Chomping) :
    Nat → (leading trailing : List Char) → (leadingBlank : Bool) → Cursor →
      Option (List Char × Cursor)
  | 0, _, _, _, _ => none
  | bound + 1, leading, trailing, leadingBlank, cursor =>
      if cursor.column ≠ indent ∨ cursor.text.isEmpty then
        let tail :=
          match chomping with
          | .strip => []
          | .clip => leading
          | .keep => leading ++ trailing
        some (tail, cursor)
      else
        let blank := cursor.text.head?.any isBlank
        let joint :=
          if folded && leading == ['\n'] && !leadingBlank && !blank then
            if trailing.isEmpty then [' '] else trailing
          else leading ++ trailing
        let (line, behind) := cursor.takeWhile (!isBreak ·)
        let (written, next) := behind.skipBreak
        match blockBreaks indent (next.text.length + 1) 0 [] next with
        | none => none
        | some (_, breaks, after) =>
            (blockLines folded indent chomping bound written breaks blank after).map
              fun (more, last) => (joint ++ line ++ more, last)

/-- A block at its indicator, inside a collection indented by `parent` less one. -/
def blockScalar (folded : Bool) (parent : Nat) (cursor : Cursor) : Option (List Char × Cursor) :=
  match blockHeader cursor.skip with
  | none => none
  | some (chomping, increment, behind) =>
      let behindBlanks := (behind.takeWhile isBlank).2
      let lineEnd :=
        if behindBlanks.text.head? = some '#' then behindBlanks.skipLine else behindBlanks
      if !atBreakOrEnd lineEnd.text then none
      else
        let start := lineEnd.skipBreak.2
        let known := increment.elim 0 fun n => (parent - 1) + n
        match blockBreaks known (start.text.length + 1) 0 [] start with
        | none => none
        | some (widest, breaks, first) =>
            let indent := if known = 0 then max (max widest parent) 1 else known
            blockLines folded indent chomping (first.text.length + 1) [] breaks false first

end ApiDiscovery.Yaml
