import ApiDiscovery.FanOut
import ApiDiscovery.Error
import ApiDiscovery.Json.Reader
import ApiDiscovery.Options.Basic
import ApiDiscovery.Text.Blank

/-!
# Fetching documents

A document comes from a file or from the network.  A file of nothing but white
space, a reply without a text and the JSON value null all mean that there is no
document; everything else has to be JSON.
-/

namespace ApiDiscovery.Fetch

def documentOfText (source text : String) : Except GenerateError (Option Json) :=
  match Json.parse text with
  | .error error => .error (.badJson source error)
  | .ok .null => .ok none
  | .ok document => .ok (some document)

def documentOfFile (files : Files) (path : String) : Except GenerateError (Option Json) :=
  match files.readText path with
  | .error fault => .error (.unreadable path fault)
  | .ok text => if Text.allBlank text.toList then .ok none else documentOfText path text

def documentOfReply (url : String) :
    Except String (Option String) → Except GenerateError (Option Json)
  | .error reason => .error (.unreachable url reason)
  | .ok none => .ok none
  | .ok (some text) => documentOfText url text

def fetchingEvent (source : Options.Source) : Event :=
  ⟨.debug, "Fetching discovery document", [("source", source.name)]⟩

def fetch? (files : Files) (network : Network) (source : Options.Source) :
    Launch GenerateError (Option Json) := fun sent =>
  match source with
  | .file path => { log := [fetchingEvent source], result := documentOfFile files path }
  | .url url =>
      let reply := network sent (.get url)
      { requests := [.get url], log := [fetchingEvent source], rounds := reply.rounds
        landing := reply.log, result := documentOfReply url reply.received }

def required (source : String) : Option Json → Except GenerateError Json
  | none => .error (.emptyDocument source)
  | some document => .ok document

def fetch (files : Files) (network : Network) (source : Options.Source) :
    Launch GenerateError Json := fun sent =>
  (fetch? files network source sent).andThen fun document =>
    .ofExcept (required source.name document)

end ApiDiscovery.Fetch
