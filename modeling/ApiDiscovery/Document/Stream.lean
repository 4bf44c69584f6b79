import ApiDiscovery.Document.Decode
import ApiDiscovery.Json.Stream

/-!
# Resource trees straight from text

A resource tree read in one pass.  Wherever this reading and the reading
through a JSON value both give a tree, they give the same one.
-/

namespace ApiDiscovery

open Json

def storeText {σ : Type} (expected : Expected) (store : σ → Option String → σ) (record : σ) :
    Reader σ := fun text =>
  (Stream.readText? expected text).map fun (content, rest) => (store record content, rest)

namespace MethodDeclaration

def streamFields : List (Stream.Field MethodDeclaration) := [
  ⟨"id", storeText .string fun method text => { method with id := text }⟩,
  ⟨"path", storeText .string fun method text => { method with path := text }⟩,
  ⟨"httpMethod", storeText .string fun method text => { method with httpMethod := text }⟩,
  ⟨"description", storeText .string fun method text => { method with description := text }⟩]

/-- A method inside which that many levels may be opened. -/
def readWithin : Nat → Reader MethodDeclaration
  | 0 => Stream.readRecord shapeName none {}
  | _ + 1 => Stream.readRecord shapeName (some streamFields) {}

end MethodDeclaration

namespace ResourceTree

def readMethodsWithin : Nat → Reader (NameTable MethodDeclaration)
  | 0 => Stream.readTable none
  | levels + 1 => Stream.readTable (some (MethodDeclaration.readWithin levels))

def streamFields (methods : Reader (NameTable MethodDeclaration))
    (resources : Reader (NameTable (ResourceTree MethodDeclaration))) :
    List (Stream.Field (ResourceTree MethodDeclaration)) := [
  ⟨"methods", fun tree text =>
    (methods text).map fun (table, rest) => (.node table tree.resources, rest)⟩,
  ⟨"resources", fun tree text =>
    (resources text).map fun (table, rest) => (.node tree.methods table, rest)⟩]

mutual

def readWithin : Nat → Reader (ResourceTree MethodDeclaration)
  | 0 => Stream.readRecord shapeName none .empty
  | levels + 1 =>
      Stream.readRecord shapeName
        (some (streamFields (readMethodsWithin levels) (readResourcesWithin levels))) .empty

def readResourcesWithin : Nat → Reader (NameTable (ResourceTree MethodDeclaration))
  | 0 => Stream.readTable none
  | levels + 1 => Stream.readTable (some (readWithin levels))

end

def parse (text : String) : Except Json.Error (ResourceTree MethodDeclaration) :=
  match complete (readWithin nestingLimit) text.toList with
  | .ok tree => .ok tree
  | .error fault => .error (fault.locate text.toList)

end ResourceTree

end ApiDiscovery
