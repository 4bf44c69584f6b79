import ApiDiscovery.Activity
import ApiDiscovery.Document.Basic
import ApiDiscovery.Error
import ApiDiscovery.Json.Reader
import ApiDiscovery.Text.Percent
import ApiDiscovery.Text.Pieces
import ApiDiscovery.Text.Quoted

/-!
# Callable methods

A declared method becomes callable once its verb and path are known and it is
bound to an address and perhaps a key.  A call puts each argument in place of
the first placeholder of its name or else behind the question mark, where the
key always comes first.
-/

namespace ApiDiscovery

structure Binding where
  apiKey : Option String
  baseUrl : String
deriving DecidableEq, Repr

def parameter (name : String) (value : List Char) : List Char := name.toList ++ '=' :: value

namespace Binding

/-- The parameters that are there before any argument: the key, as it is. -/
def parameters (binding : Binding) : List (List Char) :=
  match binding.apiKey with
  | none => []
  | some key => [parameter "key" key.toList]

/-- A binding in words, its key hidden. -/
def describe (binding : Binding) : String :=
  let key := if binding.apiKey.isSome then "Some(\"<redacted>\")" else "None"
  "BindingContext \x7b api_key: " ++ key ++ ", base_url: " ++
    Text.Quoted.quoted binding.baseUrl ++ ", .. \x7d"

end Binding

structure ApiMethod where
  label : String
  verb : String
  path : String
  binding : Binding
deriving DecidableEq, Repr

namespace ApiMethod

/-! ## Compilation -/

/-- The label of a method: a dollar sign and the word characters of its name. -/
def labelOf (name : String) : String :=
  String.ofList ('$' :: name.toList.filter fun c => c.isAlphanum || c == '_')

def isTokenChar (c : Char) : Bool := c.isAlphanum || "!#$%&'*+-.^_`|~".toList.contains c

def isToken (text : List Char) : Bool := !text.isEmpty && text.all isTokenChar

/-- A verb in ASCII capitals, if it is a token. -/
def verbOf? (verb : String) : Option String :=
  let capital := verb.toList.map Char.toUpper
  if isToken capital then some (String.ofList capital) else none

def compile (binding : Binding) (name : String) (declared : MethodDeclaration) :
    Except GenerateError ApiMethod :=
  match declared.httpMethod with
  | none => .error (.malformedMethod name .noVerb)
  | some written =>
      match verbOf? written with
      | none => .error (.malformedMethod name (.badVerb written))
      | some verb =>
          match declared.path with
          | none => .error (.malformedMethod name .noPath)
          | some path => .ok ⟨labelOf name, verb, path, binding⟩

def compiledEvent (method : ApiMethod) : Event :=
  ⟨.debug, "Compiled method",
    [("label", method.label), ("http_method", method.verb), ("path", method.path)]⟩

/-! ## Addresses -/

mutual

/-- An argument as text: strings as they are, lists with commas, all else as compact JSON. -/
def argumentText : Json → List Char
  | .string text => text.toList
  | .array items => argumentTexts items
  | .null => Json.text .null
  | .boolean flag => Json.text (.boolean flag)
  | .number value => Json.text (.number value)
  | .object members => Json.text (.object members)

def argumentTexts : List Json → List Char
  | [] => []
  | [item] => argumentText item
  | item :: next :: rest => argumentText item ++ ',' :: argumentTexts (next :: rest)

end

def placeholder (name : String) : List Char := '\x7b' :: name.toList ++ ['\x7d']

/-- A path under substitution, and the parameters behind the question mark so far. -/
structure Target where
  path : List Char
  parameters : List (List Char)

/-- One argument put in place of the first placeholder of its name, or else among the parameters. -/
def Target.give (target : Target) (name : String) (argument : Json) : Target :=
  let value := Text.Percent.encode (argumentText argument)
  match Text.replaceFirst (placeholder name) value target.path with
  | some path => { target with path }
  | none => { target with parameters := target.parameters ++ [parameter name value] }

def target (method : ApiMethod) (arguments : List (String × Json)) : Target :=
  arguments.foldl (fun target (name, argument) => target.give name argument)
    ⟨method.path.toList, method.binding.parameters⟩

/-- The address that a call asks.  The question mark is there even without parameters. -/
def requestUrl (method : ApiMethod) (arguments : List (String × Json)) : String :=
  let target := method.target arguments
  String.ofList
    (method.binding.baseUrl.toList ++ target.path ++
      '?' :: Text.joinWith ['&'] target.parameters)

/-! ## Calls -/

def callEvent (method : ApiMethod) (url : String) : Event :=
  ⟨.debug, "Calling method",
    [("label", method.label), ("http_method", method.verb), ("url", url)]⟩

/-- The value that a reply to a call gives: nothing received is null. -/
def valueOfReply (url : String) : Except String (Option String) → Except CallError Json
  | .error reason => .error (.unreachable url reason)
  | .ok none => .ok .null
  | .ok (some text) =>
      match Json.parse text with
      | .error error => .error (.badJson url error)
      | .ok value => .ok value

def call (network : Network) (method : ApiMethod) (arguments : List (String × Json))
    (body : Option Json) (sent : List Request) : Outcome CallError Json :=
  let url := method.requestUrl arguments
  let request : Request := ⟨method.verb, url, body⟩
  let reply := network sent request
  { requests := [request], log := method.callEvent url :: reply.log, rounds := reply.rounds
    result := valueOfReply url reply.received }

/-! ## Descriptions -/

def describe (method : ApiMethod) : String :=
  "ApiMethod \x7b label: " ++ Text.Quoted.quoted method.label ++ ", http_method: " ++
    method.verb ++ ", base_url: " ++ Text.Quoted.quoted method.binding.baseUrl ++ ", path: " ++
    Text.Quoted.quoted method.path ++ ", .. \x7d"

end ApiMethod

end ApiDiscovery
