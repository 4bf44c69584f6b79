/-!
# Options

Where the discovery document is, and the key that every call carries.  Options
come in layers, a later layer covering an earlier one field by field.  Exactly
one source is resolved from them: a file before an address, and of the same
medium a single API before a listing.
-/

namespace ApiDiscovery

structure Options where
  serviceFile : Option String := none
  serviceUrl : Option String := none
  restFile : Option String := none
  restUrl : Option String := none
  apiKey : Option String := none
deriving DecidableEq, Repr, Inhabited

namespace Options

inductive Field where
  | serviceFile
  | serviceUrl
  | restFile
  | restUrl
  | apiKey
deriving DecidableEq, Repr

namespace Field

/-- The fields in positional order. -/
def all : List Field := [.serviceFile, .serviceUrl, .restFile, .restUrl, .apiKey]

def key : Field → String
  | .serviceFile => "discoveryServiceFile"
  | .serviceUrl => "discoveryServiceUrl"
  | .restFile => "discoveryRestFile"
  | .restUrl => "discoveryRestUrl"
  | .apiKey => "apiKey"

def isPath : Field → Bool
  | .serviceFile => true
  | .restFile => true
  | _ => false

def ofKey? (name : String) : Option Field := all.find? fun field => field.key == name

end Field

def get (options : Options) : Field → Option String
  | .serviceFile => options.serviceFile
  | .serviceUrl => options.serviceUrl
  | .restFile => options.restFile
  | .restUrl => options.restUrl
  | .apiKey => options.apiKey

def set (options : Options) (field : Field) (content : Option String) : Options :=
  match field with
  | .serviceFile => { options with serviceFile := content }
  | .serviceUrl => { options with serviceUrl := content }
  | .restFile => { options with restFile := content }
  | .restUrl => { options with restUrl := content }
  | .apiKey => { options with apiKey := content }

/-- The options covered by a later layer. -/
def merge (options later : Options) : Options where
  serviceFile := later.serviceFile <|> options.serviceFile
  serviceUrl := later.serviceUrl <|> options.serviceUrl
  restFile := later.restFile <|> options.restFile
  restUrl := later.restUrl <|> options.restUrl
  apiKey := later.apiKey <|> options.apiKey

/-! ## The resolved source -/

inductive Source where
  | file (path : String)
  | url (address : String)
deriving DecidableEq, Repr

def Source.name : Source → String
  | .file path => path
  | .url address => address

inductive DocumentKind where
  | listing
  | api
deriving DecidableEq, Repr

def defaultServiceUrl : String := "https://www.googleapis.com/discovery/v1/apis"

def resolve (options : Options) : Source × DocumentKind :=
  match options.restFile, options.serviceFile, options.restUrl with
  | some path, _, _ => (.file path, .api)
  | none, some path, _ => (.file path, .listing)
  | none, none, some address => (.url address, .api)
  | none, none, none => (.url (options.serviceUrl.getD defaultServiceUrl), .listing)

theorem get_merge (options later : Options) (field : Field) :
    (options.merge later).get field = (later.get field <|> options.get field) := by
  cases field <;> rfl

end Options

end ApiDiscovery
