import ApiDiscovery.Document.Basic
import ApiDiscovery.Json.Basic

/-!
# Documents as JSON values

The objects that spell a document out, with null for what is not declared.
Decoding such an object gives the document back.
-/

namespace ApiDiscovery

open Json

def MethodDeclaration.toJson (method : MethodDeclaration) : Json :=
  ofMembers [
    ("id", ofText? method.id),
    ("path", ofText? method.path),
    ("httpMethod", ofText? method.httpMethod),
    ("description", ofText? method.description)]

namespace ResourceTree

mutual

def toJson : ResourceTree MethodDeclaration → Json
  | .node methods resources =>
      ofMembers [
        ("methods", .object (methods.map fun (name, method) => (name, method.toJson))),
        ("resources", .object (resourcesToJson resources))]

def resourcesToJson : List (String × ResourceTree MethodDeclaration) → List (String × Json)
  | [] => []
  | (name, tree) :: rest => (name, toJson tree) :: resourcesToJson rest

end

end ResourceTree

/-- The object of an API: its own fields and those of its root resource side by side. -/
def ApiDescription.toJson (api : ApiDescription) : Json :=
  ofMembers [
    ("name", ofText? api.name),
    ("version", ofText? api.version),
    ("title", ofText? api.title),
    ("baseUrl", ofText? api.baseUrl),
    ("rootUrl", ofText? api.rootUrl),
    ("servicePath", ofText? api.servicePath),
    ("methods", .object (api.root.methods.map fun (name, method) => (name, method.toJson))),
    ("resources", .object (ResourceTree.resourcesToJson api.root.resources))]

def ListedApi.toJson (entry : ListedApi) : Json :=
  ofMembers [
    ("id", ofText? entry.id),
    ("name", .string entry.name),
    ("version", ofText? entry.version),
    ("title", ofText? entry.title),
    ("description", ofText? entry.description),
    ("preferred", (entry.preferred.map .boolean).getD .null),
    ("discoveryRestUrl", ofText? entry.documentUrl)]

def ApiListing.toJson (listing : ApiListing) : Json :=
  ofMembers [
    ("kind", ofText? listing.kind),
    ("discoveryVersion", ofText? listing.discoveryVersion),
    ("items", (listing.items.map fun items => .array (items.map ListedApi.toJson)).getD .null)]

end ApiDiscovery
