import ApiDiscovery.Binary64.Shortest
import ApiDiscovery.Json.Basic

/-!
# Compact JSON text

Values written without spaces.  Inside strings only the quote, the backslash
and the control characters below U+0020 are escaped.  Floating point is written
with the fewest digits that read back, positionally for moderate exponents and
always with a fraction there, so that it is never mistaken for an integer.
-/

namespace ApiDiscovery.Json

structure FloatLayout where
  leastPositional : Int
  greatestPositional : Int

/-- Exponents from -5 to 15 are written positionally. -/
def floatLayout : FloatLayout := ⟨-5, 15⟩

/-- Digits with the point after the leading one, when more than one is left. -/
def pointAfterFirst : List Char → List Char
  | [] => []
  | [digit] => [digit]
  | digit :: rest => digit :: '.' :: rest

/-- Digits with the point where the exponent of the leading digit puts it. -/
def positional (digits : List Char) (leading : Int) : List Char :=
  match leading with
  | .ofNat exponent =>
      let whole := digits.take (exponent + 1)
      let padding := List.replicate (exponent + 1 - whole.length) '0'
      let fraction := digits.drop (exponent + 1)
      whole ++ padding ++ '.' :: (if fraction.isEmpty then ['0'] else fraction)
  | .negSucc zeros => '0' :: '.' :: List.replicate zeros '0' ++ digits

/-- Digits in scientific notation, the sign of the exponent always written. -/
def scientific (digits : List Char) (leading : Int) : List Char :=
  pointAfterFirst digits ++ 'e' :: (if leading < 0 then '-' else '+') ::
    Nat.toDigits 10 leading.natAbs

def floatText (value : Binary64) : List Char :=
  let sign := if value.negative then ['-'] else []
  if value.magnitude = 0 then sign ++ ['0', '.', '0']
  else
    let decimal := Binary64.shortest value.magnitude
    let leading := decimal.leading
    if floatLayout.leastPositional ≤ leading ∧ leading ≤ floatLayout.greatestPositional then
      sign ++ positional decimal.digits leading
    else sign ++ scientific decimal.digits leading

def integerText (value : Int) : List Char :=
  if value < 0 then '-' :: Nat.toDigits 10 value.natAbs else Nat.toDigits 10 value.natAbs

def Number.text : Number → List Char
  | .integer value => integerText value
  | .floating value => floatText value

def escapedChar (c : Char) : List Char :=
  if c = '"' then ['\\', '"']
  else if c = '\\' then ['\\', '\\']
  else if c = '\x08' then ['\\', 'b']
  else if c = '\x0c' then ['\\', 'f']
  else if c = '\n' then ['\\', 'n']
  else if c = '\r' then ['\\', 'r']
  else if c = '\t' then ['\\', 't']
  else if c.toNat < 0x20 then
    ['\\', 'u', '0', '0', Nat.digitChar (c.toNat / 16), Nat.digitChar (c.toNat % 16)]
  else [c]

def stringText (text : List Char) : List Char :=
  '"' :: text.flatMap escapedChar ++ ['"']

mutual

def text : Json → List Char
  | .null => ['n', 'u', 'l', 'l']
  | .boolean true => ['t', 'r', 'u', 'e']
  | .boolean false => ['f', 'a', 'l', 's', 'e']
  | .number value => value.text
  | .string value => stringText value.toList
  | .array [] => ['[', ']']
  | .array (item :: rest) => '[' :: (text item ++ moreItems rest)
  | .object [] => ['\x7b', '\x7d']
  | .object ((name, value) :: rest) =>
      '\x7b' :: (stringText name.toList ++ ':' :: (text value ++ moreMembers rest))

def moreItems : List Json → List Char
  | [] => [']']
  | item :: rest => ',' :: (text item ++ moreItems rest)

def moreMembers : List (String × Json) → List Char
  | [] => ['\x7d']
  | (name, value) :: rest =>
      ',' :: (stringText name.toList ++ ':' :: (text value ++ moreMembers rest))

end

def compact (value : Json) : String := String.ofList (text value)

end ApiDiscovery.Json
