import ApiDiscovery.Error
import ApiDiscovery.Json.Shape
import ApiDiscovery.Json.Stream
import ApiDiscovery.Options.Basic
import ApiDiscovery.Yaml.Node

/-!
# Options from files and texts

An options file is a YAML mapping, which a JSON object is too.  Names that are
no options are passed over; a repeated option is an error.  In YAML every scalar
is a text, except that a plain null or nothing leaves the option open.
-/

namespace ApiDiscovery.Options

open Json

def Field.expected (field : Field) : Expected := if field.isPath then .path else .string

def shapeName : String := "GenerateOptions"

/-! ## JSON -/

def ofJson : Json → Except Mismatch Options :=
  toRecord shapeName excessOfArray
    (Field.all.map fun field =>
      ⟨field.key, fun value options => (toText? field.expected value).map (options.set field)⟩)
    {}

def streamFields : List (Stream.Field Options) :=
  Field.all.map fun field =>
    ⟨field.key, fun options text =>
      (Stream.readText? field.expected text).map fun (content, rest) =>
        (options.set field content, rest)⟩

def parse (text : String) : Except GenerateError Options :=
  match complete (Stream.readRecord shapeName (some streamFields) {}) text.toList with
  | .ok options => .ok options
  | .error fault => .error (.badOptions (.badText (fault.locate text.toList)))

/-! ## YAML -/

def isNullText (content : List Char) : Bool :=
  ["~", "null", "Null", "NULL"].any fun word => word.toList == content

def nullTag : List Char := "tag:yaml.org,2002:null".toList

def contentOfNode : Yaml.Node → Option (Option String)
  | .scalar ⟨false, _, content⟩ => some (some (String.ofList content))
  | .scalar ⟨true, none, content⟩ =>
      if content.isEmpty || isNullText content then some none
      else some (some (String.ofList content))
  | .scalar ⟨true, some tag, content⟩ =>
      if tag = nullTag then if isNullText content then some none else none
      else some (some (String.ofList content))
  | _ => none

/-- The pairs of a mapping entered into options, those fields given that already were. -/
def ofPairs : List (Yaml.Node × Yaml.Node) → List Field → Options → Option Options
  | [], _, options => some options
  | (.scalar name, node) :: rest, seen, options =>
      match Field.ofKey? (String.ofList name.content) with
      | none => ofPairs rest seen options
      | some field =>
          if seen.contains field then none
          else
            match contentOfNode node with
            | none => none
            | some content => ofPairs rest (field :: seen) (options.set field content)
  | _, _, _ => none

/-- The options that a YAML document spells; a document without content leaves all open. -/
def ofNode : Option Yaml.Node → Option Options
  | none => some {}
  | some (.mapping pairs) => ofPairs pairs [] {}
  | some (.scalar ⟨true, _, []⟩) => some {}
  | some _ => none

def load (files : Files) (path : String) : Except GenerateError Options :=
  match files.readText path with
  | .error fault => .error (.unreadable path fault)
  | .ok text =>
      match (Yaml.Node.parse? text.toList).bind ofNode with
      | none => .error (.badOptions (.badFile path))
      | some options => .ok options

end ApiDiscovery.Options
