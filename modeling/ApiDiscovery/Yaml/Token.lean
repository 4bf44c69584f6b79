import ApiDiscovery.Text.Utf8
import ApiDiscovery.Yaml.Scalar

/-!
# Tokens of a YAML text

Indentation and keys made explicit.  A key is only recognised at the colon
behind it, so the place where one may have begun is remembered, one for each
open flow collection, and the tokens that announce it are put in there
afterwards.  Such a place lapses at the end of its line and after 1024
characters; where a key was certain, that is an error.
-/

namespace ApiDiscovery.Yaml

/-- The tokens; the end of the list is the end of the stream. -/
inductive Token where
  | versionDirective (major minor : Nat)
  | tagDirective (handle lead : List Char)
  | documentStart
  | documentEnd
  | blockSequenceStart
  | blockMappingStart
  | blockEnd
  | flowSequenceStart
  | flowSequenceEnd
  | flowMappingStart
  | flowMappingEnd
  | blockEntry
  | flowEntry
  | key
  | value
  | alias (name : List Char)
  | anchor (name : List Char)
  | tag (handle rest : List Char)
  | scalar (plain : Bool) (content : List Char)
deriving DecidableEq, Repr

/-- A place where a key may have begun: the number of tokens before it, and its position. -/
structure KeyPlace where
  tokenCount : Nat
  required : Bool
  index : Nat
  line : Nat
  column : Nat

/--
The state between two tokens.  `indents` are the open block collections, the
innermost first, each with its column; `keyPlaces` holds one entry for the block
level and one for each open flow collection, the innermost first.
-/
structure Lexer where
  cursor : Cursor
  tokens : Array Token := #[]
  indents : List Nat := []
  keyPlaces : List (Option KeyPlace) := [none]
  keyAllowed : Bool := true

namespace Lexer

def inFlow (lexer : Lexer) : Bool := 1 < lexer.keyPlaces.length

/-- The least column of content in the innermost block collection. -/
def leastColumn (lexer : Lexer) : Nat := lexer.indents.head?.elim 0 (· + 1)

def push (token : Token) (lexer : Lexer) : Lexer :=
  { lexer with tokens := lexer.tokens.push token }

def skipBy (count : Nat) (lexer : Lexer) : Lexer :=
  { lexer with cursor := lexer.cursor.skipBy count }

/-! ## Indentation -/

/-- A block collection opened at a column to the right of the innermost one, its token at a place. -/
def openBlock (column place : Nat) (token : Token) (lexer : Lexer) : Lexer :=
  if lexer.inFlow || column < lexer.leastColumn then lexer
  else
    { lexer with
      indents := column :: lexer.indents
      tokens := lexer.tokens.insertIdxIfInBounds place token }

def closeBlocksDownTo (column : Nat) (lexer : Lexer) : Lexer :=
  if lexer.inFlow then lexer
  else
    let closed := lexer.indents.takeWhile (column < ·)
    { lexer with
      indents := lexer.indents.drop closed.length
      tokens := lexer.tokens ++ (closed.map fun _ => Token.blockEnd).toArray }

def closeBlocks (lexer : Lexer) : Lexer :=
  if lexer.inFlow then lexer
  else
    { lexer with
      indents := []
      tokens := lexer.tokens ++ (lexer.indents.map fun _ => Token.blockEnd).toArray }

/-! ## Places of keys -/

/-- The innermost place given up; an error if a key was certain there. -/
def dropKeyPlace (lexer : Lexer) : Option Lexer :=
  match lexer.keyPlaces with
  | some place :: outer =>
      if place.required then none else some { lexer with keyPlaces := none :: outer }
  | _ => some lexer

/-- The current position remembered as one where a key may begin, if one may. -/
def markKeyPlace (lexer : Lexer) : Option Lexer :=
  if lexer.keyAllowed then
    lexer.dropKeyPlace.map fun dropped =>
      let cursor := dropped.cursor
      let required := !dropped.inFlow && dropped.indents.head? == some cursor.column
      { dropped with
        keyPlaces :=
          some ⟨dropped.tokens.size, required, cursor.index, cursor.line, cursor.column⟩ ::
            dropped.keyPlaces.tail }
  else some lexer

/-- Places on earlier lines or too far back given up; an error if a key was certain at one. -/
def dropLapsed (lexer : Lexer) : Option Lexer :=
  let lapsed (place : KeyPlace) : Bool :=
    place.line < lexer.cursor.line || place.index + 1024 < lexer.cursor.index
  let lapse : Option KeyPlace → Option (Option KeyPlace)
    | none => some none
    | some place => if lapsed place then (if place.required then none else some none)
        else some (some place)
  (lexer.keyPlaces.mapM lapse).map fun places => { lexer with keyPlaces := places }

/-! ## Between tokens -/

/-- Blanks, comments and line breaks passed over; a break may be followed by a key. -/
def skipToToken : Nat → Lexer → Lexer
  | 0, lexer => lexer
  | bound + 1, lexer =>
      let isSkipped (c : Char) : Bool :=
        c == ' ' || ((lexer.inFlow || !lexer.keyAllowed) && c == '\t')
      let behindBlanks := (lexer.cursor.takeWhile isSkipped).2
      let behindComment :=
        if behindBlanks.text.head? = some '#' then behindBlanks.skipLine else behindBlanks
      if behindComment.text.head?.any isBreak then
        skipToToken bound
          { lexer with
            cursor := behindComment.skipBreak.2
            keyAllowed := lexer.keyAllowed || !lexer.inFlow }
      else { lexer with cursor := behindComment }

/-! ## Directives -/

def versionNumber (cursor : Cursor) : Option (Nat × Cursor) :=
  let (digits, next) := cursor.takeWhile Char.isDigit
  if digits.isEmpty ∨ 9 < digits.length then none
  else some (digits.foldl (fun value c => value * 10 + (c.toNat - 48)) 0, next)

/-- Characters of a tag; the flag admits the flow indicators too. -/
def isTagChar (verbatim : Bool) (c : Char) : Bool :=
  isNameChar c || ";/?:@&=+$.!~*'()%".toList.contains c ||
    (verbatim && (c == ',' || c == '[' || c == ']'))

/-- The octets of escapes in a tag, as characters, if they are well formed. -/
def unescapeTag (written : List Char) : Option (List Char) :=
  let rec isWellFormed : List Char → Bool
    | '%' :: a :: b :: rest =>
        (Text.Percent.digitValue? a).isSome && (Text.Percent.digitValue? b).isSome &&
          isWellFormed rest
    | '%' :: _ => false
    | _ :: rest => isWellFormed rest
    | [] => true
  if isWellFormed written then Text.Percent.decode written else none

/-- A tag text of at least one character, counting those already known to begin it. -/
def tagText (verbatim : Bool) (known : List Char) (cursor : Cursor) :
    Option (List Char × Cursor) :=
  let (written, next) := cursor.takeWhile (isTagChar verbatim)
  if known.isEmpty && written.isEmpty then none
  else (unescapeTag written).map fun text => (known.tail ++ text, next)

/-- A tag handle: an exclamation mark, name characters and perhaps another mark. -/
def tagHandle (cursor : Cursor) : Option (List Char × Cursor) :=
  match cursor.text with
  | '!' :: _ =>
      let (name, next) := cursor.skip.takeWhile isNameChar
      if next.text.head? = some '!' then some ('!' :: name ++ ['!'], next.skip)
      else some ('!' :: name, next)
  | _ => none

def directive (cursor : Cursor) : Option (Token × Cursor) := do
  let (name, behindName) := cursor.skip.takeWhile isNameChar
  let isEnd := atBlankOrEnd behindName.text
  if name.isEmpty || !isEnd then none
  let start := (behindName.takeWhile isBlank).2
  let (token, behind) ←
    if name = ['Y', 'A', 'M', 'L'] then do
      let (major, behindMajor) ← versionNumber start
      if behindMajor.text.head? ≠ some '.' then none
      let (minor, behindMinor) ← versionNumber behindMajor.skip
      some (Token.versionDirective major minor, behindMinor)
    else if name = ['T', 'A', 'G'] then do
      let (handle, behindHandle) ← tagHandle start
      if handle ≠ ['!'] ∧ (handle.length = 1 ∨ handle.getLast? ≠ some '!') then none
      if !behindHandle.text.head?.any isBlank then none
      let (lead, behindLead) ← tagText true [] (behindHandle.takeWhile isBlank).2
      if !atBlankOrEnd behindLead.text then none
      some (Token.tagDirective handle lead, behindLead)
    else none
  let behindBlanks := (behind.takeWhile isBlank).2
  let lineEnd :=
    if behindBlanks.text.head? = some '#' then behindBlanks.skipLine else behindBlanks
  if atBreakOrEnd lineEnd.text then some (token, lineEnd.skipBreak.2) else none

/-! ## Node properties -/

def anchorName (cursor : Cursor) : Option (List Char × Cursor) :=
  let (name, next) := cursor.skip.takeWhile isNameChar
  let endsWell := atBlankOrEnd next.text ||
    next.text.head?.any fun c => "?:,]\x7d%@`".toList.contains c
  if name.isEmpty || !endsWell then none else some (name, next)

def tag (inFlow : Bool) (cursor : Cursor) : Option (Token × Cursor) := do
  let (token, next) ←
    if cursor.text.tail.head? = some '<' then do
      let (text, behind) ← tagText true [] (cursor.skipBy 2)
      if behind.text.head? ≠ some '>' then none
      some (Token.tag [] text, behind.skip)
    else do
      let (handle, behindHandle) ← tagHandle cursor
      if 1 < handle.length ∧ handle.getLast? = some '!' then
        let (text, behind) ← tagText false [] behindHandle
        some (Token.tag handle text, behind)
      else
        let (text, behind) ← tagText false handle behindHandle
        if text.isEmpty then some (Token.tag [] ['!'], behind)
        else some (Token.tag ['!'] text, behind)
  if atBlankOrEnd next.text || (inFlow && next.text.head? == some ',') then some (token, next)
  else none

/-! ## One token -/

def openFlow (token : Token) (lexer : Lexer) : Option Lexer :=
  lexer.markKeyPlace.map fun marked =>
    ({ marked with keyPlaces := none :: marked.keyPlaces, keyAllowed := true }.push token).skipBy 1

def closeFlow (token : Token) (lexer : Lexer) : Option Lexer :=
  lexer.dropKeyPlace.map fun dropped =>
    let places := if dropped.inFlow then dropped.keyPlaces.tail else dropped.keyPlaces
    ({ dropped with keyPlaces := places, keyAllowed := false }.push token).skipBy 1

def blockEntry (lexer : Lexer) : Option Lexer :=
  if !lexer.inFlow && !lexer.keyAllowed then none
  else
    let opened := lexer.openBlock lexer.cursor.column lexer.tokens.size .blockSequenceStart
    opened.dropKeyPlace.map fun dropped =>
      ({ dropped with keyAllowed := true }.push .blockEntry).skipBy 1

def explicitKey (lexer : Lexer) : Option Lexer :=
  if !lexer.inFlow && !lexer.keyAllowed then none
  else
    let opened := lexer.openBlock lexer.cursor.column lexer.tokens.size .blockMappingStart
    opened.dropKeyPlace.map fun dropped =>
      ({ dropped with keyAllowed := !dropped.inFlow }.push .key).skipBy 1

/-- The colon of a value: what stood at the remembered place was a key, or the key is empty. -/
def value (lexer : Lexer) : Option Lexer :=
  match lexer.keyPlaces with
  | some place :: outer =>
      let announced : Lexer :=
        { lexer with tokens := lexer.tokens.insertIdxIfInBounds place.tokenCount .key }
      let opened := announced.openBlock place.column place.tokenCount .blockMappingStart
      some (({ opened with keyPlaces := none :: outer, keyAllowed := false }.push .value).skipBy 1)
  | _ =>
      if !lexer.inFlow && !lexer.keyAllowed then none
      else
        let opened := lexer.openBlock lexer.cursor.column lexer.tokens.size .blockMappingStart
        some (({ opened with keyAllowed := !opened.inFlow }.push .value).skipBy 1)

/-- A token of its own behind the mark of a key's possible place. -/
def single (scan : Cursor → Option (Token × Cursor)) (lexer : Lexer) : Option Lexer := do
  let marked ← lexer.markKeyPlace
  let (token, next) ← scan marked.cursor
  some ({ marked with cursor := next, keyAllowed := false }.push token)

/-- A plain scalar; one that ends behind a line break may be followed by a key. -/
def plain (lexer : Lexer) : Option Lexer := do
  let marked ← lexer.markKeyPlace
  let (content, broken, next) ← plainScalar marked.inFlow marked.leastColumn marked.cursor
  some ({ marked with cursor := next, keyAllowed := broken }.push (.scalar true content))

def block (folded : Bool) (lexer : Lexer) : Option Lexer := do
  let dropped ← lexer.dropKeyPlace
  let (content, next) ← blockScalar folded dropped.leastColumn dropped.cursor
  some ({ dropped with cursor := next, keyAllowed := true }.push (.scalar false content))

/-- A directive or document mark, before which all blocks end. -/
def betweenDocuments (scan : Cursor → Option (Token × Cursor)) (lexer : Lexer) :
    Option Lexer := do
  let dropped ← lexer.closeBlocks.dropKeyPlace
  let (token, next) ← scan dropped.cursor
  some ({ dropped with cursor := next, keyAllowed := false }.push token)

/-- Characters that cannot begin a plain scalar whatever follows. -/
def isIndicator (c : Char) : Bool := "-?:,[]\x7b\x7d#&*!|>'\"%@`".toList.contains c

def token (c : Char) (rest : List Char) (lexer : Lexer) : Option Lexer :=
  let cursor := lexer.cursor
  if cursor.column = 0 ∧ c = '%' then lexer.betweenDocuments directive
  else if cursor.atMark '-' then
    lexer.betweenDocuments fun cursor => some (.documentStart, cursor.skipBy 3)
  else if cursor.atMark '.' then
    lexer.betweenDocuments fun cursor => some (.documentEnd, cursor.skipBy 3)
  else if c = '[' then lexer.openFlow .flowSequenceStart
  else if c = '\x7b' then lexer.openFlow .flowMappingStart
  else if c = ']' then lexer.closeFlow .flowSequenceEnd
  else if c = '\x7d' then lexer.closeFlow .flowMappingEnd
  else if c = ',' then
    lexer.dropKeyPlace.map fun dropped =>
      ({ dropped with keyAllowed := true }.push .flowEntry).skipBy 1
  else if c = '-' ∧ atBlankOrEnd rest then lexer.blockEntry
  else if c = '?' ∧ (lexer.inFlow ∨ atBlankOrEnd rest) then lexer.explicitKey
  else if c = ':' ∧ (lexer.inFlow ∨ atBlankOrEnd rest) then lexer.value
  else if c = '*' then
    lexer.single fun cursor => (anchorName cursor).map fun (name, next) => (.alias name, next)
  else if c = '&' then
    lexer.single fun cursor => (anchorName cursor).map fun (name, next) => (.anchor name, next)
  else if c = '!' then lexer.single (tag lexer.inFlow)
  else if c = '|' ∧ !lexer.inFlow then lexer.block false
  else if c = '>' ∧ !lexer.inFlow then lexer.block true
  else if c = '\'' ∨ c = '"' then
    lexer.single fun cursor =>
      (quotedScalar c cursor).map fun (content, next) => (.scalar false content, next)
  else if (!isBlank c && !isIndicator c) || (c == '-' && !rest.head?.any isBlank) ||
      (!lexer.inFlow && (c == '?' || c == ':') && !atBlankOrEnd rest) then lexer.plain
  else none

/-- All tokens.  Every one takes a character, so the bound is not reached. -/
def run : Nat → Lexer → Option (Array Token)
  | 0, _ => none
  | bound + 1, lexer =>
      match (skipToToken (lexer.cursor.text.length + 1) lexer).dropLapsed with
      | none => none
      | some ready =>
          match ready.cursor.text with
          | [] => ready.closeBlocks.dropKeyPlace.map (·.tokens)
          | c :: rest =>
              match (ready.closeBlocksDownTo ready.cursor.column).token c rest with
              | none => none
              | some next => run bound next

end Lexer

/-- The tokens of a text; a byte order mark may stand before them. -/
def tokens? (text : List Char) : Option (List Token) :=
  if text.all isAllowed then
    let start : Cursor := ⟨text, 0, 0, 0⟩
    let behindMark := if text.head? = some '\uFEFF' then start.skip else start
    (Lexer.run (text.length + 1) { cursor := behindMark }).map Array.toList
  else none

end ApiDiscovery.Yaml
