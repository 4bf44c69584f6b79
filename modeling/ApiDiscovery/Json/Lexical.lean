import ApiDiscovery.Json.Fault
import ApiDiscovery.Text.Percent

/-!
# The lexical layer of JSON

Readers take the text ahead and give what they read together with the text
behind it.  Blanks, fixed words, strings, numbers and the punctuation of lists
and objects are read here; every typed or untyped reading of a document is built
from these.  A value that nobody keeps is read less carefully: its strings may
hold unpaired surrogates and its numbers may exceed every range.
-/

namespace ApiDiscovery.Json

variable {α : Type}

/-- Reads a leading part of a text and gives the rest. -/
abbrev Reader (α : Type) := List Char → Except Fault (α × List Char)

inductive Care where
  | kept
  | ignored
deriving DecidableEq, Repr

def isSpace (c : Char) : Bool := c == ' ' || c == '\n' || c == '\t' || c == '\r'

def skipSpace : List Char → List Char
  | [] => []
  | c :: rest => if isSpace c then skipSpace rest else c :: rest

def word : List Char → List Char → Except Fault (List Char)
  | [], text => .ok text
  | _ :: _, [] => .error (.before .endInValue [])
  | w :: letters, c :: rest =>
      if c = w then word letters rest else .error (.on .expectedIdent (c :: rest))

/-! ## Strings -/

def shortEscape? (c : Char) : Option Char :=
  if c = '"' then some '"'
  else if c = '\\' then some '\\'
  else if c = '/' then some '/'
  else if c = 'b' then some '\x08'
  else if c = 'f' then some '\x0c'
  else if c = 'n' then some '\n'
  else if c = 'r' then some '\r'
  else if c = 't' then some '\t'
  else none

def isLeading (unit : Nat) : Bool := 0xD800 ≤ unit && unit < 0xDC00

def isTrailing (unit : Nat) : Bool := 0xDC00 ≤ unit && unit < 0xE000

def pairedChar (leading trailing : Nat) : Char :=
  Char.ofNat (0x10000 + (leading - 0xD800) * 0x400 + (trailing - 0xDC00))

/--
Where a string stands between two characters: in plain text, after a backslash,
inside the four octets of a code unit, or between the halves of a pair.  The
leading half already read accompanies the last three.
-/
inductive StringMode where
  | plain
  | escape
  | unit (leading : Option Nat) (octets value : Nat) (isHexadecimal : Bool)
  | paired (leading : Nat)
  | pairedEscape (leading : Nat)
deriving DecidableEq, Repr

def StringMode.afterUnit (care : Care) (leading : Option Nat) (value unread : Nat) :
    Except Fault (Option Char × StringMode) :=
  match care, leading with
  | .ignored, _ => .ok (none, .plain)
  | .kept, some first =>
      if isTrailing value then .ok (some (pairedChar first value), .plain)
      else .error ⟨.loneSurrogate, unread⟩
  | .kept, none =>
      if isTrailing value then .error ⟨.loneSurrogate, unread⟩
      else if isLeading value then .ok (none, .paired value)
      else .ok (some (Char.ofNat value), .plain)

/-- One character more of a string, the quote and the plain characters apart. -/
def StringMode.step (care : Care) (mode : StringMode) (c : Char) (rest : List Char) :
    Except Fault (Option Char × StringMode) :=
  match mode with
  | .plain =>
      if c.toNat < 0x20 then
        match care with
        | .kept => .error (.on .controlCharacter (c :: rest))
        | .ignored => .error (.before .controlCharacter (c :: rest))
      else if c = '\\' then .ok (none, .escape)
      else .ok (some c, .plain)
  | .escape =>
      if c = 'u' then .ok (none, .unit none 0 0 true)
      else
        match shortEscape? c with
        | some meant => .ok (some meant, .plain)
        | none => .error (.on .invalidEscape (c :: rest))
  | .unit leading octets value isHexadecimal =>
      let read := octets + c.utf8Size
      let digit := Text.Percent.digitValue? c
      let value := value * 16 + digit.getD 0
      let isHexadecimal := isHexadecimal && digit.isSome
      if read < 4 then .ok (none, .unit leading read value isHexadecimal)
      else
        let unread := Text.Utf8.octetCount rest + (read - 4)
        if isHexadecimal then StringMode.afterUnit care leading value unread
        else .error ⟨.invalidEscape, unread⟩
  | .paired leading =>
      if c = '\\' then .ok (none, .pairedEscape leading)
      else .error (.on .brokenSurrogatePair (c :: rest))
  | .pairedEscape leading =>
      if c = 'u' then .ok (none, .unit (some leading) 0 0 true)
      else .error (.on .brokenSurrogatePair (c :: rest))

def stringFrom (care : Care) : StringMode → Reader (List Char)
  | _, [] => .error (.before .endInString [])
  | mode, c :: rest =>
      if mode = .plain ∧ c = '"' then .ok ([], rest)
      else
        match mode.step care c rest with
        | .error fault => .error fault
        | .ok (none, next) => stringFrom care next rest
        | .ok (some meant, next) =>
            match stringFrom care next rest with
            | .error fault => .error fault
            | .ok (more, after) => .ok (meant :: more, after)

def readString (care : Care) : Reader String := fun text =>
  (stringFrom care .plain text).map fun (content, rest) => (String.ofList content, rest)

/-! ## Numbers -/

def significandLimit : Nat := Nat.pow 2 64

def exponentLimit : Nat := Nat.pow 2 31

def digitValue (c : Char) : Nat := c.toNat - '0'.toNat

/-- The text after its leading digits, and how many there are. -/
def skipDigits : List Char → Nat × List Char
  | [] => (0, [])
  | c :: rest =>
      if c.isDigit then ((skipDigits rest).1 + 1, (skipDigits rest).2) else (0, c :: rest)

/--
Digits appended to a number for as long as it stays below a limit: the number,
how many digits went into it, and the text behind them.
-/
def collect (limit : Nat) : Nat → Nat → List Char → Nat × Nat × List Char
  | value, count, [] => (value, count, [])
  | value, count, c :: rest =>
      if c.isDigit then
        let larger := value * 10 + digitValue c
        if larger < limit then collect limit larger (count + 1) rest
        else (value, count, c :: rest)
      else (value, count, c :: rest)

def floating (negative : Bool) (significand : Nat) (exponent : Int) : Reader Number :=
  fun rest =>
    match Binary64.ofDecimal significand exponent with
    | some magnitude => .ok (.floating ⟨negative, magnitude⟩, rest)
    | none => .error (.before .numberOutOfRange rest)

/-- An exponent, whose letter has been read, and with it the number. -/
def exponentPart (negative : Bool) (significand : Nat) (already : Int) : Reader Number :=
  fun text =>
    let (isNegative, digits) :=
      match text with
      | '+' :: rest => (false, rest)
      | '-' :: rest => (true, rest)
      | _ => (false, text)
    match digits with
    | [] => .error (.before .endInValue [])
    | c :: rest =>
        if c.isDigit then
          let (exponent, _, after) := collect exponentLimit 0 0 (c :: rest)
          match after with
          | d :: beyond =>
              if d.isDigit then
                if significand ≠ 0 ∧ !isNegative then
                  .error (.before .numberOutOfRange beyond)
                else .ok (.floating ⟨negative, 0⟩, (skipDigits beyond).2)
              else
                floating negative significand
                  (if isNegative then already - exponent else already + exponent) after
          | [] =>
              floating negative significand
                (if isNegative then already - exponent else already + exponent) after
        else .error (.on .invalidNumber (c :: rest))

def afterDigits (negative : Bool) (significand : Nat) (exponent : Int) : Reader Number :=
  fun text =>
    match text with
    | 'e' :: rest => exponentPart negative significand exponent rest
    | 'E' :: rest => exponentPart negative significand exponent rest
    | _ => floating negative significand exponent text

/-- A fraction, whose point has been read; digits past the limit of the significand are dropped. -/
def fractionPart (negative : Bool) (significand : Nat) (exponent : Int) : Reader Number :=
  fun text =>
    let (longer, count, after) := collect significandLimit significand 0 text
    let (dropped, rest) := skipDigits after
    if count + dropped = 0 then
      match rest with
      | [] => .error (.on .endInValue [])
      | _ :: _ => .error (.on .invalidNumber rest)
    else afterDigits negative longer (exponent - count) rest

/-- The integer of a sign and a significand, floating point where 64 bits do not hold it. -/
def wholeNumber (negative : Bool) (significand : Nat) : Number :=
  if negative then
    if significand = 0 ∨ Nat.pow 2 63 < significand then
      .floating ⟨true, Binary64.ofNat significand⟩
    else .integer (-significand)
  else .integer significand

/-- What follows the integer digits; digits past the limit of the significand only raise the exponent. -/
def afterWhole (negative : Bool) (significand : Nat) : Reader Number := fun text =>
  let (dropped, rest) := skipDigits text
  match rest with
  | '.' :: fraction => fractionPart negative significand dropped fraction
  | 'e' :: exponent => exponentPart negative significand dropped exponent
  | 'E' :: exponent => exponentPart negative significand dropped exponent
  | _ =>
      if dropped = 0 then .ok (wholeNumber negative significand, rest)
      else floating negative significand dropped rest

def readNumber (negative : Bool) : Reader Number
  | [] => .error (.before .endInValue [])
  | c :: rest =>
      if c = '0' then
        match rest with
        | d :: _ =>
            if d.isDigit then .error (.on .invalidNumber rest) else afterWhole negative 0 rest
        | [] => afterWhole negative 0 rest
      else if c.isDigit then
        let (significand, _, after) := collect significandLimit 0 0 (c :: rest)
        afterWhole negative significand after
      else .error (.on .invalidNumber (c :: rest))

/-- The text after an exponent that nobody keeps, whose letter has been read. -/
def skipExponent (text : List Char) : Except Fault (List Char) :=
  let digits :=
    match text with
    | '+' :: rest => rest
    | '-' :: rest => rest
    | _ => text
  if (skipDigits digits).1 = 0 then .error (.on .invalidNumber digits)
  else .ok (skipDigits digits).2

def skipAfterWhole (text : List Char) : Except Fault (List Char) :=
  match text with
  | '.' :: fraction =>
      let (count, rest) := skipDigits fraction
      if count = 0 then .error (.on .invalidNumber fraction)
      else
        match rest with
        | 'e' :: exponent => skipExponent exponent
        | 'E' :: exponent => skipExponent exponent
        | _ => .ok rest
  | 'e' :: exponent => skipExponent exponent
  | 'E' :: exponent => skipExponent exponent
  | _ => .ok text

def skipNumber : List Char → Except Fault (List Char)
  | [] => .error (.on .invalidNumber [])
  | c :: rest =>
      if c = '0' then
        match rest with
        | d :: _ => if d.isDigit then .error (.on .invalidNumber rest) else skipAfterWhole rest
        | [] => .ok []
      else if c.isDigit then skipAfterWhole (skipDigits rest).2
      else .error (.on .invalidNumber (c :: rest))

/-! ## Lists and objects -/

/-- What comes next in a list or an object: the text of a part, or the text after the close. -/
inductive Next where
  | part (text : List Char)
  | close (rest : List Char)
deriving DecidableEq, Repr

/-- What comes next in a list.  Before the first item there is no comma. -/
def nextItem (care : Care) (first : Bool) (text : List Char) : Except Fault Next :=
  match skipSpace text with
  | [] => .error (.on .endInList [])
  | c :: rest =>
      if c = ']' then .ok (.close rest)
      else if first then .ok (.part (c :: rest))
      else if c = ',' then
        match care with
        | .ignored => .ok (.part rest)
        | .kept =>
            match skipSpace rest with
            | [] => .error (.on .endInValue [])
            | d :: more =>
                if d = ']' then .error (.on .trailingComma (d :: more))
                else .ok (.part (d :: more))
      else .error (.on .expectedListSeparator (c :: rest))

def nextName (care : Care) (first : Bool) (text : List Char) : Except Fault Next :=
  match skipSpace text with
  | [] => .error (.on .endInObject [])
  | c :: rest =>
      if c = '\x7d' then .ok (.close rest)
      else if first then
        if c = '"' then .ok (.part rest) else .error (.on .keyNotString (c :: rest))
      else if c = ',' then
        match skipSpace rest with
        | [] =>
            match care with
            | .kept => .error (.on .endInValue [])
            | .ignored => .error (.on .endInObject [])
        | d :: more =>
            if d = '"' then .ok (.part more)
            else if d = '\x7d' ∧ care = .kept then .error (.on .trailingComma (d :: more))
            else .error (.on .keyNotString (d :: more))
      else .error (.on .expectedObjectSeparator (c :: rest))

def colon (text : List Char) : Except Fault (List Char) :=
  match skipSpace text with
  | [] => .error (.on .endInObject [])
  | c :: rest => if c = ':' then .ok rest else .error (.on .expectedColon (c :: rest))

/--
The items of a list whose bracket has been read.  Every item takes a character,
so the bound, one more than the length of the text, is never reached.
-/
def readItems (care : Care) (item : Reader α) : Nat → Bool → Reader (List α)
  | 0, _, text => .error (.on .endInList text)
  | bound + 1, first, text =>
      match nextItem care first text with
      | .error fault => .error fault
      | .ok (.close rest) => .ok ([], rest)
      | .ok (.part itemText) =>
          match item itemText with
          | .error fault => .error fault
          | .ok (value, rest) =>
              match readItems care item bound false rest with
              | .error fault => .error fault
              | .ok (values, after) => .ok (value :: values, after)

/-- The members of an object whose brace has been read, each value read with its name known. -/
def readMembers (care : Care) (value : String → Reader α) : Nat → Bool → Reader (List (String × α))
  | 0, _, text => .error (.on .endInObject text)
  | bound + 1, first, text =>
      match nextName care first text with
      | .error fault => .error fault
      | .ok (.close rest) => .ok ([], rest)
      | .ok (.part nameText) =>
          match readString care nameText with
          | .error fault => .error fault
          | .ok (name, afterName) =>
              match colon afterName with
              | .error fault => .error fault
              | .ok valueText =>
                  match value name valueText with
                  | .error fault => .error fault
                  | .ok (content, rest) =>
                      match readMembers care value bound false rest with
                      | .error fault => .error fault
                      | .ok (more, after) => .ok ((name, content) :: more, after)

end ApiDiscovery.Json
