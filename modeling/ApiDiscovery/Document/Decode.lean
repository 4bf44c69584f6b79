import ApiDiscovery.Document.Basic
import ApiDiscovery.Json.Shape

/-!
# Documents from JSON values

`ApiDescription.ofJson` and `ApiListing.ofJson` accept exactly the values of the
documented shape.  An API description is one object that holds its own fields
and those of its root resource side by side; its own fields are looked at first.
-/

namespace ApiDiscovery

open Json

namespace MethodDeclaration

/-- The fields of a method in positional order. -/
def fields : List (Json.Field MethodDeclaration) := [
  ⟨"id", fun value method => (toText? .string value).map fun text => { method with id := text }⟩,
  ⟨"path", fun value method =>
    (toText? .string value).map fun text => { method with path := text }⟩,
  ⟨"httpMethod", fun value method =>
    (toText? .string value).map fun text => { method with httpMethod := text }⟩,
  ⟨"description", fun value method =>
    (toText? .string value).map fun text => { method with description := text }⟩]

def shapeName : String := "MethodDescriptor"

/-- A method from its object, or from an array of its fields. -/
def ofJson : Json → Except Mismatch MethodDeclaration :=
  toRecord shapeName excessOfSequence fields {}

end MethodDeclaration

namespace ResourceTree

def shapeName : String := "ResourceDescriptor"

def methodsOfMembers :
    List (String × Json) → Except Mismatch (List (String × MethodDeclaration))
  | [] => .ok []
  | (name, value) :: rest =>
      match MethodDeclaration.ofJson value with
      | .error mismatch => .error mismatch
      | .ok method =>
          match methodsOfMembers rest with
          | .error mismatch => .error mismatch
          | .ok methods => .ok ((name, method) :: methods)

def methodsOfJson : Json → Except Mismatch (List (String × MethodDeclaration))
  | .object members => methodsOfMembers members
  | other => .error (unexpected .map other)

mutual

/-- A resource from its object, or from an array of its methods and its resources. -/
def ofJson : Json → Except Mismatch (ResourceTree MethodDeclaration)
  | .object members => ofMembers members .empty
  | .array items => ofItems items
  | other => .error (unexpected (.record shapeName) other)

def ofItems : List Json → Except Mismatch (ResourceTree MethodDeclaration)
  | [] => .ok .empty
  | [methodsValue] => (methodsOfJson methodsValue).map (.node · [])
  | methodsValue :: resourcesValue :: rest =>
      match methodsOfJson methodsValue with
      | .error mismatch => .error mismatch
      | .ok methods =>
          match resourcesOfJson resourcesValue with
          | .error mismatch => .error mismatch
          | .ok resources =>
              if rest.isEmpty then .ok (.node methods resources)
              else .error (excessOfSequence 2 (rest.length + 2))

/-- A resource with the members of an object entered in order, the others passed over. -/
def ofMembers :
    List (String × Json) → ResourceTree MethodDeclaration →
      Except Mismatch (ResourceTree MethodDeclaration)
  | [], tree => .ok tree
  | (name, value) :: rest, tree =>
      if name = "methods" then
        match methodsOfJson value with
        | .error mismatch => .error mismatch
        | .ok methods => ofMembers rest (.node methods tree.resources)
      else if name = "resources" then
        match resourcesOfJson value with
        | .error mismatch => .error mismatch
        | .ok resources => ofMembers rest (.node tree.methods resources)
      else ofMembers rest tree

def resourcesOfJson : Json → Except Mismatch (List (String × ResourceTree MethodDeclaration))
  | .object members => resourcesOfMembers members
  | other => .error (unexpected .map other)

def resourcesOfMembers :
    List (String × Json) → Except Mismatch (List (String × ResourceTree MethodDeclaration))
  | [] => .ok []
  | (name, value) :: rest =>
      match ofJson value with
      | .error mismatch => .error mismatch
      | .ok tree =>
          match resourcesOfMembers rest with
          | .error mismatch => .error mismatch
          | .ok trees => .ok ((name, tree) :: trees)

end

end ResourceTree

namespace ApiDescription

def ownFields : List (Json.Field ApiDescription) := [
  ⟨"name", fun value api => (toText? .string value).map fun text => { api with name := text }⟩,
  ⟨"version", fun value api =>
    (toText? .string value).map fun text => { api with version := text }⟩,
  ⟨"title", fun value api => (toText? .string value).map fun text => { api with title := text }⟩,
  ⟨"baseUrl", fun value api =>
    (toText? .string value).map fun text => { api with baseUrl := text }⟩,
  ⟨"rootUrl", fun value api =>
    (toText? .string value).map fun text => { api with rootUrl := text }⟩,
  ⟨"servicePath", fun value api =>
    (toText? .string value).map fun text => { api with servicePath := text }⟩]

def shapeName : String := "RestDescription"

/-- An API description from its object; an array is refused. -/
def ofJson : Json → Except Mismatch ApiDescription
  | .object members =>
      match storeMembers ownFields members {} with
      | .error mismatch => .error mismatch
      | .ok own => (ResourceTree.ofMembers members .empty).map fun root => { own with root }
  | other => .error (unexpected (.record shapeName) other)

end ApiDescription

namespace ListedApi

def fields : List (Json.Field ListedApi) := [
  ⟨"id", fun value entry => (toText? .string value).map fun text => { entry with id := text }⟩,
  ⟨"name", fun value entry => (toText value).map fun text => { entry with name := text }⟩,
  ⟨"version", fun value entry =>
    (toText? .string value).map fun text => { entry with version := text }⟩,
  ⟨"title", fun value entry =>
    (toText? .string value).map fun text => { entry with title := text }⟩,
  ⟨"description", fun value entry =>
    (toText? .string value).map fun text => { entry with description := text }⟩,
  ⟨"preferred", fun value entry =>
    (toFlag? value).map fun flag => { entry with preferred := flag }⟩,
  ⟨"discoveryRestUrl", fun value entry =>
    (toText? .string value).map fun text => { entry with documentUrl := text }⟩]

def shapeName : String := "DirectoryEntry"

def ofJson : Json → Except Mismatch ListedApi :=
  toRecord shapeName excessOfArray fields {}

end ListedApi

namespace ApiListing

def fields : List (Json.Field ApiListing) := [
  ⟨"kind", fun value listing =>
    (toText? .string value).map fun text => { listing with kind := text }⟩,
  ⟨"discoveryVersion", fun value listing =>
    (toText? .string value).map fun text => { listing with discoveryVersion := text }⟩,
  ⟨"items", fun value listing =>
    (toList? ListedApi.ofJson value).map fun items => { listing with items := items }⟩]

def shapeName : String := "ServiceDirectory"

def ofJson : Json → Except Mismatch ApiListing :=
  toRecord shapeName excessOfArray fields {}

end ApiListing

end ApiDiscovery
