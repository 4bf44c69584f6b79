import ApiDiscovery.Json.Printer

/-!
# Indented JSON text

Values written over several lines, two spaces for each level and a space behind
every colon; empty lists and objects stay on one line.
-/

namespace ApiDiscovery.Json

def indentation (level : Nat) : List Char := List.replicate (2 * level) ' '

mutual

/-- A value at a level, its first line not indented. -/
def prettyText (level : Nat) : Json → List Char
  | .array (item :: rest) =>
      ['[', '\n'] ++ indentation (level + 1) ++ prettyText (level + 1) item ++
        prettyItems level rest
  | .object ((name, value) :: rest) =>
      ['\x7b', '\n'] ++ indentation (level + 1) ++ stringText name.toList ++ [':', ' '] ++
        prettyText (level + 1) value ++ prettyMembers level rest
  | .array [] => ['[', ']']
  | .object [] => ['\x7b', '\x7d']
  | .null => text .null
  | .boolean flag => text (.boolean flag)
  | .number value => text (.number value)
  | .string value => stringText value.toList

def prettyItems (level : Nat) : List Json → List Char
  | [] => '\n' :: indentation level ++ [']']
  | item :: rest =>
      [',', '\n'] ++ indentation (level + 1) ++ prettyText (level + 1) item ++
        prettyItems level rest

def prettyMembers (level : Nat) : List (String × Json) → List Char
  | [] => '\n' :: indentation level ++ ['\x7d']
  | (name, value) :: rest =>
      [',', '\n'] ++ indentation (level + 1) ++ stringText name.toList ++ [':', ' '] ++
        prettyText (level + 1) value ++ prettyMembers level rest

end

def pretty (value : Json) : String := String.ofList (prettyText 0 value)

end ApiDiscovery.Json
