import ApiDiscovery.Json.Lexical

/-!
# Reading JSON values

`parse` reads a whole text as one value.  At most 127 lists and objects may be
nested around a value that is kept; a value that is passed over may nest to any
depth, which its length bounds.
-/

namespace ApiDiscovery.Json

variable {α : Type}

def nestingLimit : Nat := 127

/-- A value inside which that many levels of lists and objects may be opened. -/
def readValue (levels : Nat) : Reader Json := fun text =>
  match skipSpace text with
  | [] => .error (.on .endInValue [])
  | c :: rest =>
      if c = 'n' then (word ['u', 'l', 'l'] rest).map (.null, ·)
      else if c = 't' then (word ['r', 'u', 'e'] rest).map (.boolean true, ·)
      else if c = 'f' then (word ['a', 'l', 's', 'e'] rest).map (.boolean false, ·)
      else if c = '-' then (readNumber true rest).map fun (n, after) => (.number n, after)
      else if c.isDigit then
        (readNumber false (c :: rest)).map fun (n, after) => (.number n, after)
      else if c = '"' then (readString .kept rest).map fun (s, after) => (.string s, after)
      else if c = '[' then
        match levels with
        | 0 => .error (.on .tooDeep (c :: rest))
        | inner + 1 =>
            (readItems .kept (readValue inner) (rest.length + 1) true rest).map fun (xs, after) =>
              (.array xs, after)
      else if c = '\x7b' then
        match levels with
        | 0 => .error (.on .tooDeep (c :: rest))
        | inner + 1 =>
            (readMembers .kept (fun _ => readValue inner) (rest.length + 1) true rest).map
              fun (ms, after) => (ofMembers ms, after)
      else .error (.on .expectedValue (c :: rest))

def passOverWithin : Nat → Reader Unit
  | 0, text => .error (.on .expectedValue text)
  | levels + 1, text =>
      match skipSpace text with
      | [] => .error (.on .endInValue [])
      | c :: rest =>
          if c = 'n' then (word ['u', 'l', 'l'] rest).map ((), ·)
          else if c = 't' then (word ['r', 'u', 'e'] rest).map ((), ·)
          else if c = 'f' then (word ['a', 'l', 's', 'e'] rest).map ((), ·)
          else if c = '-' then (skipNumber rest).map ((), ·)
          else if c.isDigit then (skipNumber (c :: rest)).map ((), ·)
          else if c = '"' then (readString .ignored rest).map fun (_, after) => ((), after)
          else if c = '[' then
            (readItems .ignored (passOverWithin levels) (rest.length + 1) true rest).map
              fun (_, after) => ((), after)
          else if c = '\x7b' then
            (readMembers .ignored (fun _ => passOverWithin levels) (rest.length + 1) true rest).map
              fun (_, after) => ((), after)
          else .error (.on .expectedValue (c :: rest))

/-- Passes over a value; it cannot nest deeper than the text is long. -/
def passOver : Reader Unit := fun text => passOverWithin (text.length + 1) text

/-- A reading that has to account for the whole text. -/
def complete (reader : Reader α) (text : List Char) : Except Fault α :=
  match reader text with
  | .error fault => .error fault
  | .ok (result, rest) =>
      match skipSpace rest with
      | [] => .ok result
      | c :: more => .error (.on .trailingCharacters (c :: more))

theorem complete_eq_ok {reader : Reader α} {text : List Char} {content : α}
    (read : complete reader text = .ok content) : ∃ rest, reader text = .ok (content, rest) := by
  rw [complete] at read
  split at read
  · cases read
  · next result rest done =>
      split at read
      · cases read
        exact ⟨rest, done⟩
      · cases read

def parse (text : String) : Except Error Json :=
  match complete (readValue nestingLimit) text.toList with
  | .ok result => .ok result
  | .error fault => .error (fault.locate text.toList)

end ApiDiscovery.Json
