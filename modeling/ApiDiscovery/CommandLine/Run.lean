import ApiDiscovery.CommandLine.Arguments
import ApiDiscovery.CommandLine.Report
import ApiDiscovery.Json.Pretty
import ApiDiscovery.Options.Load

/-!
# Running a command

Options are loaded and merged, the API is generated, and the command prints it
or calls one of its methods.  A method is only called once everything before
that has succeeded: the generation, the look-up and the reading of the body.
-/

namespace ApiDiscovery.CommandLine

structure World where
  files : Files
  network : Network
  environmentKey : Option String := none
  colours : Bool := false

def Invocation.options (invocation : Invocation) : Options where
  serviceFile := invocation.serviceFile
  serviceUrl := invocation.serviceUrl
  restFile := invocation.restFile
  restUrl := invocation.restUrl
  apiKey := invocation.apiKey

/-- The options of the file, covered by those of the command line. -/
def Invocation.mergedOptions (invocation : Invocation) (files : Files) :
    Except (String × GenerateError) Options :=
  match invocation.config with
  | none => .ok (Options.merge {} invocation.options)
  | some path =>
      match Options.load files path with
      | .error error => .error (path, error)
      | .ok loaded => .ok (loaded.merge invocation.options)

def failed (err : List Notice) (requests : List Request) (what : String)
    (causes : List String) : Report :=
  { code := 1, err := err ++ [.text (failureText what causes)], requests }

def textArguments (arguments : List (String × String)) : List (String × Json) :=
  arguments.map fun (name, value) => (name, .string value)

def bodyOf : Option String → Except Json.Error (Option Json)
  | none => .ok none
  | some text => (Json.parse text).map some

def callReport (world : World) (verbose : Bool) (err : List Notice) (sent : List Request)
    (generated : Generated) (path : String) (arguments : List (String × String))
    (body : Option String) : Report :=
  match generated.lookup path with
  | none => failed err sent ("No method '" ++ path ++ "' in the generated API") []
  | some method =>
      match bodyOf body with
      | .error error => failed err sent "Request body is not valid JSON" [error.message]
      | .ok body =>
          let given := textArguments arguments
          let announcement := paint world.colours .cyan "→" ++ " " ++
            paint world.colours .yellow method.verb ++ " " ++ method.requestUrl given ++ "\n"
          let outcome := method.call world.network given body sent
          let printed := err ++ .text announcement :: shown verbose outcome.log
          let requests := sent ++ outcome.requests
          match outcome.result with
          | .error error =>
              failed printed requests ("Call to " ++ path ++ " failed")
                (error.message :: error.cause?.toList)
          | .ok value => { code := 0, out := value.pretty ++ "\n", err := printed, requests }

def commandReport (world : World) (verbose : Bool) (err : List Notice) (sent : List Request)
    (generated : Generated) : Command → Report
  | .tree => { code := 0, out := treeReport world.colours generated, err, requests := sent }
  | .list =>
      match generated with
      | .api _ =>
          failed err sent "`list` needs a discovery service document, not a single API" []
      | .directory apis =>
          { code := 0, out := listReport world.colours apis, err, requests := sent }
  | .call path arguments body => callReport world verbose err sent generated path arguments body

def Invocation.run (invocation : Invocation) (world : World) : Report :=
  match invocation.mergedOptions world.files with
  | .error (path, error) =>
      failed [] [] ("Failed to load options from " ++ path) (error.message :: error.cause?.toList)
  | .ok options =>
      let source := options.resolve.1.name
      let announcement :=
        paint world.colours .cyan "→" ++ " Loading discovery document: " ++ source ++ "\n"
      let outcome := Generate.run world.files world.network options []
      let err := .text announcement :: shown invocation.verbose outcome.log
      match outcome.result with
      | .error error =>
          failed err outcome.requests ("Failed to generate API from " ++ source)
            (error.message :: error.cause?.toList)
      | .ok generated =>
          commandReport world invocation.verbose err outcome.requests generated invocation.command

def version : String := "discovery-client 0.2.0"

def usage : String :=
  "Usage: discovery-client [OPTIONS] <COMMAND>\n\n" ++
  "Commands:\n" ++
  "  tree                                  Print the compiled resource and method tree\n" ++
  "  list                                  List the APIs of a discovery service document\n" ++
  "  call <METHOD> [KEY=VALUE]... [--body <JSON>]  Call a generated method\n\n" ++
  "Options:\n" ++
  "  --config <FILE>, --service-file <FILE>, --service-url <URL>, --rest-file <FILE>,\n" ++
  "  --rest-url <URL>, --api-key <KEY>, -v, --verbose, -h, --help, -V, --version\n"

def run (world : World) (arguments : List String) : Report :=
  match parse arguments world.environmentKey with
  | .error .usage => { code := 2, err := [.text usage] }
  | .error .version => { code := 0, out := version ++ "\n" }
  | .error .help => { code := 0, out := usage }
  | .ok invocation => invocation.run world

end ApiDiscovery.CommandLine
