import ApiDiscovery.Compile
import ApiDiscovery.Document.Decode
import ApiDiscovery.Fetch

/-!
# Generating an API

From options to callable methods.  A single API is fetched and compiled; of a
listing every API that is preferred and says where its document is, is fetched
and compiled concurrently with the others, and the first failure noticed fails
the whole.  Nothing is asked twice and nothing is generated in part.
-/

namespace ApiDiscovery

inductive Generated where
  | api (tree : ResourceTree ApiMethod)
  | directory (apis : NameTable (ResourceTree ApiMethod))

namespace Generated

def api? : Generated → Option (ResourceTree ApiMethod)
  | .api tree => some tree
  | .directory _ => none

def directory? : Generated → Option (NameTable (ResourceTree ApiMethod))
  | .api _ => none
  | .directory apis => some apis

/-- The method at a dotted path among several APIs, whose first component names the API. -/
def lookupIn (apis : NameTable (ResourceTree ApiMethod)) (path : String) : Option ApiMethod :=
  match Text.splitFirst '.' path.toList with
  | none => none
  | some (name, rest) =>
      match apis.get? (String.ofList name) with
      | none => none
      | some tree => tree.lookup (String.ofList rest)

def lookup (generated : Generated) (path : String) : Option ApiMethod :=
  match generated with
  | .api tree => tree.lookup path
  | .directory apis => lookupIn apis path

end Generated

namespace ApiListing

def skipEvent (entry : ListedApi) : Event :=
  if entry.preferred = some true then
    ⟨.warning, "Preferred API has no discoveryRestUrl, skipping", [("api", entry.name)]⟩
  else ⟨.debug, "Skipping non-preferred API", [("api", entry.name)]⟩

def skipEvents (entries : List ListedApi) : List Event :=
  (entries.filter fun entry => entry.expandableUrl.isNone).map skipEvent

def compileDocument (apiKey : Option String) (url : String) (document : Json) :
    Outcome GenerateError (ResourceTree ApiMethod) :=
  match ApiDescription.ofJson document with
  | .error mismatch => .fail (.badJson url mismatch.toError)
  | .ok api => api.compile apiKey

def entryLaunch (files : Files) (network : Network) (apiKey : Option String)
    (name url : String) : Launch GenerateError (String × ResourceTree ApiMethod) := fun sent =>
  (Fetch.fetch files network (.url url) sent).andThen fun document =>
    (compileDocument apiKey url document).map fun tree => (name, tree)

def entryLaunches (files : Files) (network : Network) (apiKey : Option String)
    (entries : List ListedApi) : List (Launch GenerateError (String × ResourceTree ApiMethod)) :=
  entries.filterMap fun entry =>
    entry.expandableUrl.map fun url => entryLaunch files network apiKey entry.name url

/--
The APIs of a listing under their names, the last one of a repeated name
winning.  How the group is watched depends on the number of all entries, those
passed over included.
-/
def expand (files : Files) (network : Network) (apiKey : Option String) (listing : ApiListing)
    (source : String) (sent : List Request) :
    Outcome GenerateError (NameTable (ResourceTree ApiMethod)) :=
  match listing.items with
  | none => .fail (.noItems source)
  | some entries =>
      ((FanOut.join (.ofSize entries.length) (entryLaunches files network apiKey entries) sent).map
        NameTable.ofList).logFirst (skipEvents entries)

end ApiListing

namespace Generate

def directoryEvent (source : String) (apis : NameTable (ResourceTree ApiMethod)) : Event :=
  ⟨.info, "Generated API directory", [("source", source), ("apis", toString apis.length)]⟩

def apiEvent (source : String) (tree : ResourceTree ApiMethod) : Event :=
  ⟨.info, "Generated API", [("source", source), ("methods", toString tree.methodCount)]⟩

def ofDocument (files : Files) (network : Network) (apiKey : Option String) (source : String)
    (kind : Options.DocumentKind) (document : Json) (sent : List Request) :
    Outcome GenerateError Generated :=
  match kind with
  | .listing =>
      match ApiListing.ofJson document with
      | .error mismatch => .fail (.badJson source mismatch.toError)
      | .ok listing =>
          ((listing.expand files network apiKey source sent).logLast fun apis =>
            [directoryEvent source apis]).map .directory
  | .api =>
      match ApiDescription.ofJson document with
      | .error mismatch => .fail (.badJson source mismatch.toError)
      | .ok api =>
          ((api.compile apiKey).logLast fun tree => [apiEvent source tree]).map .api

def run (files : Files) (network : Network) (options : Options) (sent : List Request) :
    Outcome GenerateError Generated :=
  let (source, kind) := options.resolve
  (Fetch.fetch? files network source sent).toOutcome.andThen sent fun document sentNow =>
    match document with
    | none => .fail (.noDocument source.name)
    | some document =>
        ofDocument files network options.apiKey source.name kind document sentNow

end Generate

end ApiDiscovery
