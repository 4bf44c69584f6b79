import ApiDiscovery.Text.Percent
import ApiDiscovery.Text.Pieces
import ApiDiscovery.Url.Punycode

/-!
# Hosts

A host is a name, four octets in dots or eight pieces in brackets.  It is
brought into the one form in which it is sent: percent-decoded, in ASCII and in
small letters, numbers in decimal, the longest run of zero pieces left out.
-/

namespace ApiDiscovery.Url

open Text

def isForbiddenInHost (c : Char) : Bool :=
  "\x00\t\n\r #/:<>?@[\\]^|".toList.contains c

def isForbiddenInName (c : Char) : Bool :=
  isForbiddenInHost c || c.toNat < 0x20 || c == '%' || c == '\x7f'

/-! ## Four octets in dots -/

/-- The digits of a number and its base: `0x` leads sixteen, a zero eight. -/
def baseOf : List Char → Nat × List Char
  | '0' :: 'x' :: digits => (16, digits)
  | '0' :: 'X' :: digits => (16, digits)
  | '0' :: c :: digits => (8, c :: digits)
  | digits => (10, digits)

/-- The number that digits of a base spell; no digits spell zero. -/
def numberInBase (base : Nat) (digits : List Char) : Option Nat :=
  digits.foldlM (fun value c =>
    match Percent.digitValue? c with
    | some digit => if digit < base then some (value * base + digit) else none
    | none => none) 0

def part (text : List Char) : Option Nat :=
  if text.isEmpty then none else numberInBase (baseOf text).1 (baseOf text).2

/-- The labels of a host name, a final empty one left out. -/
def labels (name : List Char) : List (List Char) :=
  let all := splitAll '.' name
  if 1 < all.length ∧ all.getLast? = some [] then all.dropLast else all

/-- The last label is a number, so the whole has to be an address. -/
def endsInNumber (name : List Char) : Bool :=
  match (labels name).getLast? with
  | none => false
  | some last => !last.isEmpty && (last.all Char.isDigit || (part last).isSome)

/-- The 32 bits of an address of one to four numbers, the last one filling up. -/
def dottedAddress (name : List Char) : Option Nat :=
  let all := labels name
  if 4 < all.length then none
  else
    match all.mapM part with
    | none => none
    | some numbers =>
        let leading := numbers.dropLast
        let last := numbers.getLast?.getD 0
        if leading.any (255 < ·) || Nat.pow 256 (5 - numbers.length) ≤ last then none
        else
          some (leading.zipIdx.foldl (fun sum (number, place) =>
            sum + number * Nat.pow 256 (3 - place)) last)

def dottedText (address : Nat) : List Char :=
  joinWith ['.'] ([3, 2, 1, 0].map fun place => Nat.toDigits 10 (address / Nat.pow 256 place % 256))

/-! ## Eight pieces in brackets -/

def piece (text : List Char) : Option Nat :=
  if text.isEmpty ∨ 4 < text.length then none else numberInBase 16 text

def octet (text : List Char) : Option Nat :=
  if text.isEmpty ∨ 3 < text.length ∨ (text.head? = some '0' ∧ text ≠ ['0']) then none
  else
    match numberInBase 10 text with
    | some value => if value < 256 then some value else none
    | none => none

/-- The pieces between colons, the last of which may be an address in dots. -/
def pieces (text : List Char) : Option (List Nat) :=
  if text.isEmpty then some []
  else
    let written := splitAll ':' text
    match written.getLast? with
    | none => some []
    | some last =>
        if last.contains '.' then
          match written.dropLast.mapM piece, (splitAll '.' last).mapM octet with
          | some leading, some [a, b, c, d] => some (leading ++ [a * 256 + b, c * 256 + d])
          | _, _ => none
        else written.mapM piece

def splitGap : List Char → Option (List Char × List Char)
  | ':' :: ':' :: rest => some ([], rest)
  | c :: rest => (splitGap rest).map fun (before, after) => (c :: before, after)
  | [] => none

def bracketedAddress (text : List Char) : Option (List Nat) :=
  match splitGap text with
  | none =>
      match pieces text with
      | some all => if all.length = 8 then some all else none
      | none => none
  | some (before, after) =>
      if before.contains '.' then none
      else
        match pieces before, pieces after with
        | some left, some right =>
            if 7 < left.length + right.length then none
            else some (left ++ List.replicate (8 - left.length - right.length) 0 ++ right)
        | _, _ => none

def zerosAhead : List Nat → Nat
  | 0 :: rest => zerosAhead rest + 1
  | _ => 0

/-- The first of the longest runs of at least two zeros: where it starts and how long it is. -/
def longestZeros (all : List Nat) : Option (Nat × Nat) :=
  let runs := (List.range all.length).map fun start => (start, zerosAhead (all.drop start))
  let best := runs.foldl (fun best run => if best.2 < run.2 then run else best) (0, 0)
  if best.2 < 2 then none else some best

def bracketedText (all : List Nat) : List Char :=
  let shown (some : List Nat) : List Char := joinWith [':'] (some.map (Nat.toDigits 16 ·))
  let inner :=
    match longestZeros all with
    | none => shown all
    | some (start, length) =>
        shown (all.take start) ++ [':', ':'] ++ shown (all.drop (start + length))
  '[' :: inner ++ [']']

/-! ## Names -/

/-- A letter in its small form: Latin, Greek and Cyrillic capitals of the basic ranges. -/
def small (c : Char) : Char :=
  let n := c.toNat
  if ('A'.toNat ≤ n ∧ n ≤ 'Z'.toNat) ∨ (0xC0 ≤ n ∧ n ≤ 0xDE ∧ n ≠ 0xD7) ∨
      (0x391 ≤ n ∧ n ≤ 0x3A9) ∨ (0x410 ≤ n ∧ n ≤ 0x42F) then Char.ofNat (n + 32)
  else if 0x400 ≤ n ∧ n ≤ 0x40F then Char.ofNat (n + 80)
  else c

/-- The full stops of other scripts count as dots. -/
def dot (c : Char) : Char := if c == '\u3002' || c == '\uFF0E' || c == '\uFF61' then '.' else c

def asciiLabel (label : List Char) : List Char :=
  if label.all (·.toNat < 0x80) then label else "xn--".toList ++ Punycode.encode label

def hostName (written : List Char) : Option (List Char) :=
  let decoded := Utf8.decodeLossy (Percent.octets written)
  let name := joinWith ['.'] ((splitAll '.' (decoded.map (small ∘ dot))).map asciiLabel)
  if name.isEmpty || name.any isForbiddenInName then none
  else if endsInNumber name then (dottedAddress name).map dottedText
  else some name

def specialHost (written : List Char) : Option (List Char) :=
  match written with
  | '[' :: rest =>
      if rest.getLast? = some ']' then (bracketedAddress rest.dropLast).map bracketedText
      else none
  | _ => hostName written

end ApiDiscovery.Url
