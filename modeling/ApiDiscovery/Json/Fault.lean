import ApiDiscovery.Json.Printer
import ApiDiscovery.Text.Quoted
import ApiDiscovery.Text.Utf8

/-!
# JSON errors

What can be wrong with a JSON text or with the shape of a JSON value.  While a
text is read, a fault carries the number of octets still unread, which needs no
knowledge of what came before; the line and column are worked out once, when
the fault is reported.
-/

namespace ApiDiscovery.Json

inductive Found where
  | null
  | boolean (value : Bool)
  | number (value : Number)
  | string (value : String)
  | sequence
  | map
deriving DecidableEq, Repr

inductive Expected where
  | string
  | path
  | boolean
  | sequence
  | map
  | record (title : String)
deriving DecidableEq, Repr

inductive Mismatch where
  | wrongType (found : Found) (expected : Expected)
  | repeatedField (name : String)
  | tooMany (count : Nat)
  | moreThan (limit count : Nat)
deriving DecidableEq, Repr

inductive Cause where
  | endInValue
  | endInList
  | endInObject
  | endInString
  | expectedColon
  | expectedListSeparator
  | expectedObjectSeparator
  | expectedIdent
  | expectedValue
  | keyNotString
  | trailingComma
  | trailingCharacters
  | invalidNumber
  | numberOutOfRange
  | invalidEscape
  | controlCharacter
  | loneSurrogate
  | brokenSurrogatePair
  | tooDeep
  | mismatch (shape : Mismatch)
deriving DecidableEq, Repr

def found : Json → Found
  | .null => .null
  | .boolean value => .boolean value
  | .number value => .number value
  | .string value => .string value
  | .array _ => .sequence
  | .object _ => .map

def Found.describe : Found → String
  | .null => "null"
  | .boolean true => "boolean `true`"
  | .boolean false => "boolean `false`"
  | .number (.integer value) =>
      "integer `" ++ String.ofList (integerText value) ++ "`"
  | .number (.floating value) =>
      "floating point `" ++ String.ofList (floatText value) ++ "`"
  | .string value => "string " ++ Text.Quoted.quoted value
  | .sequence => "sequence"
  | .map => "map"

def Expected.describe : Expected → String
  | .string => "a string"
  | .path => "path string"
  | .boolean => "a boolean"
  | .sequence => "a sequence"
  | .map => "a map"
  | .record title => "struct " ++ title

def Mismatch.message : Mismatch → String
  | .wrongType found expected =>
      "invalid type: " ++ found.describe ++ ", expected " ++ expected.describe
  | .repeatedField name => "duplicate field `" ++ name ++ "`"
  | .tooMany count =>
      "invalid length " ++ toString count ++ ", expected fewer elements in array"
  | .moreThan limit count =>
      "invalid length " ++ toString count ++ ", expected " ++ toString limit ++
        " elements in sequence"

def Cause.message : Cause → String
  | .endInValue => "EOF while parsing a value"
  | .endInList => "EOF while parsing a list"
  | .endInObject => "EOF while parsing an object"
  | .endInString => "EOF while parsing a string"
  | .expectedColon => "expected `:`"
  | .expectedListSeparator => "expected `,` or `]`"
  | .expectedObjectSeparator => "expected `,` or `\x7d`"
  | .expectedIdent => "expected ident"
  | .expectedValue => "expected value"
  | .keyNotString => "key must be a string"
  | .trailingComma => "trailing comma"
  | .trailingCharacters => "trailing characters"
  | .invalidNumber => "invalid number"
  | .numberOutOfRange => "number out of range"
  | .invalidEscape => "invalid escape"
  | .controlCharacter =>
      "control character (\\u0000-\\u001F) found while parsing a string"
  | .loneSurrogate => "lone leading surrogate in hex escape"
  | .brokenSurrogatePair => "unexpected end of hex escape"
  | .tooDeep => "recursion limit exceeded"
  | .mismatch shape => shape.message

/-- A fault met while reading a text: its cause, and how many octets were still unread. -/
structure Fault where
  cause : Cause
  unread : Nat
deriving DecidableEq, Repr

/-- A fault found after everything before the rest was read. -/
def Fault.before (cause : Cause) (rest : List Char) : Fault :=
  ⟨cause, Text.Utf8.octetCount rest⟩

/-- A fault blamed on the next octet, which counts as read if there is one. -/
def Fault.on (cause : Cause) (rest : List Char) : Fault :=
  ⟨cause, Text.Utf8.octetCount rest - 1⟩

/-- A position in a text: a line counted from 1 and the octets read on it. -/
structure Place where
  line : Nat
  column : Nat
deriving DecidableEq, Repr

def Place.advance (place : Place) (octets : Nat) : List Char → Place
  | [] => place
  | c :: rest =>
      if octets = 0 then place
      else if c = '\n' then Place.advance ⟨place.line + 1, 0⟩ (octets - 1) rest
      else if octets < c.utf8Size then ⟨place.line, place.column + octets⟩
      else Place.advance ⟨place.line, place.column + c.utf8Size⟩ (octets - c.utf8Size) rest

/-- What is wrong with a JSON text or value, and where if it was a text. -/
structure Error where
  cause : Cause
  place : Option Place
deriving DecidableEq, Repr

def Fault.locate (fault : Fault) (text : List Char) : Error :=
  ⟨fault.cause,
    some (Place.advance ⟨1, 0⟩ (Text.Utf8.octetCount text - fault.unread) text)⟩

def Mismatch.toError (shape : Mismatch) : Error := ⟨.mismatch shape, none⟩

def Error.message (error : Error) : String :=
  match error.place with
  | none => error.cause.message
  | some place =>
      error.cause.message ++ " at line " ++ toString place.line ++ " column " ++
        toString place.column

end ApiDiscovery.Json
