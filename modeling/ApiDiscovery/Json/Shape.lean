import ApiDiscovery.Json.Fault

/-!
# Reading typed data from values

A record is given by an object or, position by position, by an array.  Members
that are not fields are passed over; fields that are not given keep what the
start value holds.  The members of an object are visited in the order of their
names, so of two wrong ones the first in that order is reported.
-/

namespace ApiDiscovery.Json

variable {σ α : Type}

def unexpected (expected : Expected) (value : Json) : Mismatch :=
  .wrongType (found value) expected

def toText? (expected : Expected) : Json → Except Mismatch (Option String)
  | .null => .ok none
  | .string text => .ok (some text)
  | other => .error (unexpected expected other)

def toText : Json → Except Mismatch String
  | .string text => .ok text
  | other => .error (unexpected .string other)

def toFlag? : Json → Except Mismatch (Option Bool)
  | .null => .ok none
  | .boolean flag => .ok (some flag)
  | other => .error (unexpected .boolean other)

def toList? (item : Json → Except Mismatch α) : Json → Except Mismatch (Option (List α))
  | .null => .ok none
  | .array items => (items.mapM item).map some
  | other => .error (unexpected .sequence other)

/-- A field of a record: its name, and how its value enters the record. -/
structure Field (σ : Type) where
  name : String
  store : Json → σ → Except Mismatch σ

def storeMembers (fields : List (Field σ)) : List (String × Json) → σ → Except Mismatch σ
  | [], record => .ok record
  | (name, value) :: rest, record =>
      match fields.find? fun field => field.name == name with
      | none => storeMembers fields rest record
      | some field =>
          match field.store value record with
          | .error mismatch => .error mismatch
          | .ok next => storeMembers fields rest next

def storeItems : List (Field σ) → List Json → σ → Except Mismatch σ
  | field :: fields, value :: values, record =>
      match field.store value record with
      | .error mismatch => .error mismatch
      | .ok next => storeItems fields values next
  | _, _, record => .ok record

/--
A record given by an object or an array.  `excess` is the mismatch of an array
longer than the fields, of the number of fields and of items.
-/
def toRecord (title : String) (excess : Nat → Nat → Mismatch) (fields : List (Field σ))
    (start : σ) : Json → Except Mismatch σ
  | .object members => storeMembers fields members start
  | .array items =>
      match storeItems fields items start with
      | .error mismatch => .error mismatch
      | .ok record =>
          if fields.length < items.length then .error (excess fields.length items.length)
          else .ok record
  | other => .error (unexpected (.record title) other)

/-- The excess of an array that is a whole document or stands directly in a listing. -/
def excessOfArray (_ count : Nat) : Mismatch := .tooMany count

/-- The excess of an array beneath the root of an API description. -/
def excessOfSequence (limit count : Nat) : Mismatch := .moreThan limit count

end ApiDiscovery.Json
