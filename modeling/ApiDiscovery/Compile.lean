import ApiDiscovery.FanOut
import ApiDiscovery.Method

/-!
# Compiling a resource tree

A declared tree becomes a tree of callable methods of the same shape, or fails
as a whole.  At every node the methods, each resource beneath it and these two
groups are joined concurrently; since no compilation waits for anything, the
join is over in its first round and sends nothing.
-/

namespace ApiDiscovery.ResourceTree

/-- A tree of callable methods is put together of the two halves of its root. -/
inductive Half where
  | methods (table : NameTable ApiMethod)
  | resources (table : NameTable (ResourceTree ApiMethod))

def install (tree : ResourceTree ApiMethod) : Half → ResourceTree ApiMethod
  | .methods table => .node table tree.resources
  | .resources table => .node tree.methods table

def methodLaunch (binding : Binding) (name : String) (declared : MethodDeclaration) :
    Launch GenerateError (String × ApiMethod) := fun _ =>
  match ApiMethod.compile binding name declared with
  | .error error => { result := .error error }
  | .ok method => { landing := [method.compiledEvent], result := .ok (name, method) }

def compileMethods (binding : Binding) (methods : NameTable MethodDeclaration) :
    Outcome GenerateError (NameTable ApiMethod) :=
  FanOut.join (.ofSize methods.length)
    (methods.map fun (name, declared) => methodLaunch binding name declared) []

def compileHalves (methods : Outcome GenerateError (NameTable ApiMethod))
    (resources : Outcome GenerateError (NameTable (ResourceTree ApiMethod))) :
    Outcome GenerateError (ResourceTree ApiMethod) :=
  (FanOut.join .asAWhole
    [(methods.map Half.methods).toLaunch, (resources.map Half.resources).toLaunch] []).map
      fun halves => halves.foldl install .empty

mutual

def compile (binding : Binding) :
    ResourceTree MethodDeclaration → Outcome GenerateError (ResourceTree ApiMethod)
  | .node methods resources =>
      compileHalves (compileMethods binding methods)
        (FanOut.join (.ofSize resources.length) (compileLaunches binding resources) [])

def compileLaunches (binding : Binding) :
    List (String × ResourceTree MethodDeclaration) →
      List (Launch GenerateError (String × ResourceTree ApiMethod))
  | [] => []
  | (name, tree) :: rest =>
      ((compile binding tree).map fun compiled => (name, compiled)).toLaunch ::
        compileLaunches binding rest

end

end ApiDiscovery.ResourceTree

namespace ApiDiscovery.ApiDescription

def noAddressEvent (api : ApiDescription) : Event :=
  ⟨.warning, "No baseUrl or rootUrl declared, binding an empty base URL",
    [("api", api.displayName)]⟩

def compiledEvent (api : ApiDescription) (tree : ResourceTree ApiMethod) : Event :=
  ⟨.debug, "Compiled API",
    [("api", api.displayName), ("methods", toString tree.methodCount)]⟩

/-- The binding of all methods of an API; without a declared address theirs is empty. -/
def binding (api : ApiDescription) (apiKey : Option String) : Binding :=
  ⟨apiKey, api.resolvedBaseUrl.getD ""⟩

def compile (apiKey : Option String) (api : ApiDescription) :
    Outcome GenerateError (ResourceTree ApiMethod) :=
  let warnings := if api.resolvedBaseUrl.isNone then [api.noAddressEvent] else []
  ((api.root.compile (api.binding apiKey)).logLast fun tree =>
    [api.compiledEvent tree]).logFirst warnings

end ApiDiscovery.ApiDescription
