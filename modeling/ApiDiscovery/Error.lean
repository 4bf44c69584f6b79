import ApiDiscovery.Files
import ApiDiscovery.Json.Fault

/-!
# Errors

What can go wrong while an API is generated from its documents, and while a
generated method is called.  Each is a cause with the document or address it
belongs to; the wording is in `message` alone.
-/

namespace ApiDiscovery

inductive MethodFault where
  | noVerb
  | badVerb (verb : String)
  | noPath
deriving DecidableEq, Repr

def MethodFault.message : MethodFault → String
  | .noVerb => "missing httpMethod"
  | .badVerb verb => "invalid HTTP method '" ++ verb ++ "'"
  | .noPath => "missing path"

inductive OptionsFault where
  | badFile (path : String)
  | badText (error : Json.Error)
deriving DecidableEq, Repr

/-- The fault in words.  Of a broken file nothing is said beyond its name. -/
def OptionsFault.message : OptionsFault → String
  | .badFile path => "Failed to parse options file " ++ path ++ ":"
  | .badText error => error.message

/-- Why nothing was generated; `source` is the file or address of the document at fault. -/
inductive GenerateError where
  | unreadable (source : String) (fault : ReadFault)
  | badJson (source : String) (error : Json.Error)
  | unreachable (source reason : String)
  | emptyDocument (source : String)
  | noDocument (source : String)
  | noItems (source : String)
  | malformedMethod (name : String) (fault : MethodFault)
  | badOptions (fault : OptionsFault)
deriving DecidableEq, Repr

def GenerateError.message : GenerateError → String
  | .unreadable source fault => "Failed to read " ++ source ++ ": " ++ fault.message
  | .badJson source error => "Failed to parse JSON from " ++ source ++ ": " ++ error.message
  | .unreachable source reason => "Request to " ++ source ++ " failed: " ++ reason
  | .emptyDocument source => "Empty document returned from " ++ source
  | .noDocument source => "Nothing returned from: " ++ source
  | .noItems source => "No items returned from: " ++ source
  | .malformedMethod name fault => "Malformed method '" ++ name ++ "': " ++ fault.message
  | .badOptions fault => "Invalid options: " ++ fault.message

/-- What caused the error, where that has words of its own. -/
def GenerateError.cause? : GenerateError → Option String
  | .unreadable _ fault => some fault.message
  | .badJson _ error => some error.message
  | _ => none

inductive CallError where
  | unreachable (url reason : String)
  | badJson (url : String) (error : Json.Error)
deriving DecidableEq, Repr

def CallError.message : CallError → String
  | .unreachable url reason => "Request to " ++ url ++ " failed: " ++ reason
  | .badJson url error => "Response from " ++ url ++ " is not valid JSON: " ++ error.message

def CallError.cause? : CallError → Option String
  | .unreachable _ _ => none
  | .badJson _ error => some error.message

end ApiDiscovery
