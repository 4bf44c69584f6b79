import ApiDiscovery.Binary64.Basic
import ApiDiscovery.NameTable

/-!
# JSON values

Numbers are integers of 64 bits or binary floating point; the members of an
object form a name table, so equal objects are equal terms whatever order their
members were written in.
-/

namespace ApiDiscovery

namespace Json

/-- A JSON number: an integer of at most 64 bits, or floating point. -/
inductive Number where
  | integer (value : Int)
  | floating (value : Binary64)
deriving DecidableEq, Repr, Inhabited

end Json

inductive Json where
  | null
  | boolean (value : Bool)
  | number (value : Json.Number)
  | string (value : String)
  | array (items : List Json)
  | object (members : List (String × Json))
deriving Repr, Inhabited

namespace Json

/-- The object of a list of members, the last one of a repeated name winning. -/
def ofMembers (members : List (String × Json)) : Json := .object (NameTable.ofList members)

def ofText? : Option String → Json
  | none => .null
  | some text => .string text

def member? (name : String) : Json → Option Json
  | .object members => NameTable.get? members name
  | _ => none

end Json

end ApiDiscovery
