import ApiDiscovery.Json.Reader

/-!
# Reading typed data straight from text

The same records, tables and texts as from values, read in one pass without a
value in between.  Here a repeated field is an error rather than overwritten, and
what is passed over is read less carefully.  A record or a table to which no
further level of nesting is left is given no fields to read.
-/

namespace ApiDiscovery.Json.Stream

variable {σ α : Type}

/--
The fault of a value that is not what was expected.  A scalar is read first,
and what is wrong with it comes before its being the wrong one.
-/
def refuse (expected : Expected) (text : List Char) : Fault :=
  let wrong (found : Found) (rest : List Char) : Fault :=
    .before (.mismatch (.wrongType found expected)) rest
  match text with
  | [] => .on .endInValue []
  | c :: rest =>
      if c = 'n' then
        match word ['u', 'l', 'l'] rest with
        | .error fault => fault
        | .ok after => wrong .null after
      else if c = 't' then
        match word ['r', 'u', 'e'] rest with
        | .error fault => fault
        | .ok after => wrong (.boolean true) after
      else if c = 'f' then
        match word ['a', 'l', 's', 'e'] rest with
        | .error fault => fault
        | .ok after => wrong (.boolean false) after
      else if c = '-' then
        match readNumber true rest with
        | .error fault => fault
        | .ok (value, after) => wrong (.number value) after
      else if c.isDigit then
        match readNumber false (c :: rest) with
        | .error fault => fault
        | .ok (value, after) => wrong (.number value) after
      else if c = '"' then
        match readString .kept rest with
        | .error fault => fault
        | .ok (value, after) => wrong (.string value) after
      else if c = '[' then wrong .sequence (c :: rest)
      else if c = '\x7b' then wrong .map (c :: rest)
      else .on .expectedValue (c :: rest)

def readText (expected : Expected) : Reader String := fun text =>
  match skipSpace text with
  | '"' :: rest => readString .kept rest
  | other => .error (refuse expected other)

def readText? (expected : Expected) : Reader (Option String) := fun text =>
  match skipSpace text with
  | 'n' :: rest => (word ['u', 'l', 'l'] rest).map (none, ·)
  | other => (readText expected other).map fun (content, rest) => (some content, rest)

structure Field (σ : Type) where
  name : String
  read : σ → Reader σ

def closeList (text : List Char) : Except Fault (List Char) :=
  match skipSpace text with
  | [] => .error (.on .endInList [])
  | c :: rest =>
      if c = ']' then .ok rest
      else if c = ',' then
        match skipSpace rest with
        | ']' :: more => .error (.on .trailingComma (']' :: more))
        | other => .error (.on .trailingCharacters other)
      else .error (.on .trailingCharacters (c :: rest))

def readItems (first : Bool) : List (Field σ) → σ → Reader σ
  | [], record, text => (closeList text).map (record, ·)
  | field :: fields, record, text =>
      match nextItem .kept first text with
      | .error fault => .error fault
      | .ok (.close rest) => .ok (record, rest)
      | .ok (.part itemText) =>
          match field.read record itemText with
          | .error fault => .error fault
          | .ok (next, rest) => readItems false fields next rest

/-- The fault of a field given twice, noticed behind its second name and a closing brace there. -/
def repeated (name : String) (text : List Char) : Fault :=
  match skipSpace text with
  | '\x7d' :: rest => .before (.mismatch (.repeatedField name)) rest
  | other => .before (.mismatch (.repeatedField name)) other

/--
The fields of a record by name, those already seen being given.  Every member
takes a character, so the bound, one more than the length of the text, is never
reached.
-/
def readMembers (fields : List (Field σ)) : Nat → Bool → List String → σ → Reader σ
  | 0, _, _, _, text => .error (.on .endInObject text)
  | bound + 1, first, seen, record, text =>
      match nextName .kept first text with
      | .error fault => .error fault
      | .ok (.close rest) => .ok (record, rest)
      | .ok (.part nameText) =>
          match readString .kept nameText with
          | .error fault => .error fault
          | .ok (name, afterName) =>
              match fields.find? fun field => field.name == name with
              | none =>
                  match colon afterName with
                  | .error fault => .error fault
                  | .ok valueText =>
                      match passOver valueText with
                      | .error fault => .error fault
                      | .ok (_, rest) => readMembers fields bound false seen record rest
              | some field =>
                  if seen.contains name then .error (repeated name afterName)
                  else
                    match colon afterName with
                    | .error fault => .error fault
                    | .ok valueText =>
                        match field.read record valueText with
                        | .error fault => .error fault
                        | .ok (next, rest) =>
                            readMembers fields bound false (name :: seen) next rest

/-- A record given by an object or an array; `none` when no level of nesting is left. -/
def readRecord (title : String) (fields : Option (List (Field σ))) (start : σ) : Reader σ :=
  fun text =>
    match skipSpace text with
    | '[' :: rest =>
        match fields with
        | none => .error (.on .tooDeep ('[' :: rest))
        | some fields => readItems true fields start rest
    | '\x7b' :: rest =>
        match fields with
        | none => .error (.on .tooDeep ('\x7b' :: rest))
        | some fields => readMembers fields (rest.length + 1) true [] start rest
    | other => .error (refuse (.record title) other)

/-- Named entries, the last one of a repeated name winning; `none` when no level is left. -/
def readTable (entry : Option (Reader α)) : Reader (NameTable α) := fun text =>
  match skipSpace text with
  | '\x7b' :: rest =>
      match entry with
      | none => .error (.on .tooDeep ('\x7b' :: rest))
      | some entry =>
          (Json.readMembers .kept (fun _ => entry) (rest.length + 1) true rest).map
            fun (pairs, after) => (NameTable.ofList pairs, after)
  | other => .error (refuse .map other)

end ApiDiscovery.Json.Stream
