import ApiDiscovery.Text.Utf8

/-!
# Percent-encoding

Letters, digits and `-`, `_`, `.`, `~` stand for themselves; every other
character is written octet by octet as `%` and two upper-case hexadecimal
digits.  `decode` reads such a text back.
-/

namespace ApiDiscovery.Text.Percent

def isUnreserved (c : Char) : Bool :=
  c.isAlphanum || c == '-' || c == '_' || c == '.' || c == '~'

def upperDigit (n : Nat) : Char :=
  if n < 10 then Char.ofNat (48 + n) else Char.ofNat (55 + n)

def triple (octet : UInt8) : List Char :=
  ['%', upperDigit (octet.toNat / 16), upperDigit (octet.toNat % 16)]

def encodeChar (c : Char) : List Char :=
  if isUnreserved c then [c] else (String.utf8EncodeChar c).flatMap triple

def encode (text : List Char) : List Char := text.flatMap encodeChar

def digitValue? (c : Char) : Option Nat :=
  if '0' ≤ c ∧ c ≤ '9' then some (c.toNat - 48)
  else if 'A' ≤ c ∧ c ≤ 'F' then some (c.toNat - 55)
  else if 'a' ≤ c ∧ c ≤ 'f' then some (c.toNat - 87)
  else none

/-- The octets that an encoded text spells out; a `%` without two digits stands for itself. -/
def octets : List Char → List UInt8
  | [] => []
  | '%' :: a :: b :: rest =>
      match digitValue? a, digitValue? b with
      | some high, some low => UInt8.ofNat (16 * high + low) :: octets rest
      | _, _ => String.utf8EncodeChar '%' ++ octets (a :: b :: rest)
  | c :: rest => String.utf8EncodeChar c ++ octets rest

/-- The text that an encoded text spells out, if its octets are UTF-8. -/
def decode (text : List Char) : Option (List Char) := Utf8.decode (octets text)

end ApiDiscovery.Text.Percent
