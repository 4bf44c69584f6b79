import ApiDiscovery.Text.Printable

/-!
# Quoted text

Text shown between double quotes, on one line, with every character visible.
Quotes and backslashes take a backslash; NUL, tab, carriage return and line
feed have short forms; any other character that cannot be shown on its own is
written by its code point.
-/

namespace ApiDiscovery.Text.Quoted

def hexadecimal (n : Nat) : List Char := Nat.toDigits 16 n

def codePoint (c : Char) : List Char :=
  ['\\', 'u', '\x7b'] ++ hexadecimal c.toNat ++ ['\x7d']

def showChar (c : Char) : List Char :=
  if c = '\x00' then ['\\', '0']
  else if c = '\t' then ['\\', 't']
  else if c = '\r' then ['\\', 'r']
  else if c = '\n' then ['\\', 'n']
  else if c = '\\' ∨ c = '"' then ['\\', c]
  else if Printable.extendsGrapheme c || !Printable.isPrintable c then codePoint c
  else [c]

def quoted (text : String) : String :=
  String.ofList ('"' :: text.toList.flatMap showChar ++ ['"'])

end ApiDiscovery.Text.Quoted
