import ApiDiscovery.Proofs.Document.Parts
import ApiDiscovery.Proofs.Json.Ordered

/-!
# Members under unknown names

`strip` takes the members that are no fields away from an API description and,
at every depth, from its resources and its methods.  The stripped value is read
like the whole one: with the same result, or with the same mismatch.
-/

namespace ApiDiscovery

open Json

/-! ## Methods -/

namespace MethodDeclaration

def fieldNames : List String := ["id", "path", "httpMethod", "description"]

theorem contains_fieldNames : ∀ field ∈ fields, fieldNames.contains field.name := by
  simp [fields, fieldNames]

/-- The value of a method without members under unknown names. -/
def strip : Json → Json
  | .object members => .object (only fieldNames members)
  | other => other

@[simp] theorem ofJson_strip (value : Json) : ofJson (strip value) = ofJson value := by
  cases value with
  | object members => exact storeMembers_only contains_fieldNames members {}
  | null => rfl
  | boolean flag => rfl
  | number number => rfl
  | string text => rfl
  | array items => rfl

end MethodDeclaration

/-! ## Resources -/

namespace ResourceTree

def stripMethods : Json → Json
  | .object members => .object (NameTable.mapEntries MethodDeclaration.strip members)
  | other => other

@[simp] theorem methodsOfJson_stripMethods (value : Json) :
    methodsOfJson (stripMethods value) = methodsOfJson value := by
  rw [methodsOfJson_eq]
  cases value with
  | object members =>
      exact readEntries_mapEntries fun pair _ => MethodDeclaration.ofJson_strip pair.2
  | null => rfl
  | boolean flag => rfl
  | number number => rfl
  | string text => rfl
  | array items => rfl

mutual

/-- The value of a resource without members under unknown names at any depth. -/
def strip : Json → Json
  | .object members => .object (stripMembers members)
  | .array items => .array (stripItems items)
  | other => other

def stripMembers : List (String × Json) → List (String × Json)
  | [] => []
  | (name, value) :: rest =>
      if name = "methods" then (name, stripMethods value) :: stripMembers rest
      else if name = "resources" then (name, stripResources value) :: stripMembers rest
      else stripMembers rest

def stripItems : List Json → List Json
  | [] => []
  | [first] => [stripMethods first]
  | first :: second :: rest => stripMethods first :: stripResources second :: rest

def stripResources : Json → Json
  | .object members => .object (stripEach members)
  | other => other

def stripEach : List (String × Json) → List (String × Json)
  | [] => []
  | (name, value) :: rest => (name, strip value) :: stripEach rest

end

theorem stripEach_eq (members : List (String × Json)) :
    stripEach members = NameTable.mapEntries strip members := by
  induction members with
  | nil => rw [stripEach, NameTable.mapEntries, List.map_nil]
  | cons head rest ih =>
      rw [stripEach, ih]
      rfl

theorem ofMembers_stripMembers {members : List (String × Json)}
    (each : ∀ pair ∈ members, resourcesOfJson (stripResources pair.2) = resourcesOfJson pair.2)
    (tree : ResourceTree MethodDeclaration) :
    ofMembers (stripMembers members) tree = ofMembers members tree := by
  induction members generalizing tree with
  | nil => rw [stripMembers]
  | cons head rest ih =>
      obtain ⟨name, value⟩ := head
      obtain ⟨first, others⟩ := List.forall_mem_cons.1 each
      by_cases isMethods : name = "methods"
      · simp only [stripMembers, ofMembers, if_pos isMethods, methodsOfJson_stripMethods, ih others]
      · by_cases isResources : name = "resources"
        · simp only [stripMembers, ofMembers, if_neg isMethods, if_pos isResources, first,
            ih others]
        · simp only [stripMembers, ofMembers, if_neg isMethods, if_neg isResources, ih others]

theorem ofItems_stripItems {items : List Json}
    (each : ∀ item ∈ items, resourcesOfJson (stripResources item) = resourcesOfJson item) :
    ofItems (stripItems items) = ofItems items := by
  match items with
  | [] => rw [stripItems]
  | [first] => rw [stripItems, ofItems, ofItems, methodsOfJson_stripMethods]
  | first :: second :: rest =>
      have beneath := each second (by simp)
      rw [stripItems, ofItems, ofItems, methodsOfJson_stripMethods, beneath]

/-- At every depth a stripped resource is read like the whole one. -/
theorem strip_reads_alike (value : Json) :
    ofJson (strip value) = ofJson value ∧
      resourcesOfJson (stripResources value) = resourcesOfJson value := by
  induction value with
  | object members ih =>
      constructor
      · rw [strip, ofJson, ofJson, ofMembers_stripMembers fun pair member => (ih pair member).2]
      · rw [stripResources, resourcesOfJson_eq, stripEach_eq]
        exact readEntries_mapEntries fun pair member => (ih pair member).1
  | array items ih =>
      constructor
      · rw [strip, ofJson, ofJson, ofItems_stripItems fun item member => (ih item member).2]
      · rw [stripResources]
        simp
  | null => simp [strip, stripResources]
  | boolean flag => simp [strip, stripResources]
  | number number => simp [strip, stripResources]
  | string text => simp [strip, stripResources]

end ResourceTree

/-! ## API descriptions -/

namespace ApiDescription

def fieldNames : List String :=
  ["name", "version", "title", "baseUrl", "rootUrl", "servicePath", "methods", "resources"]

def stripField (name : String) (value : Json) : Json :=
  if name = "methods" then ResourceTree.stripMethods value
  else if name = "resources" then ResourceTree.stripResources value
  else value

/-- The value of an API description without members under unknown names at any depth. -/
def strip : Json → Json
  | .object members =>
      .object (only fieldNames (members.map fun pair => (pair.1, stripField pair.1 pair.2)))
  | other => other

theorem rootField_stripField : ∀ field ∈ ResourceTree.parts.map Json.Part.toField, ∀ value,
    field.store (stripField field.name value) = field.store value := by
  intro field member value
  obtain ⟨part, partMember, rfl⟩ := List.mem_map.1 member
  suffices same : part.read (stripField part.name value) = part.read value by
    funext tree
    exact congrArg (Except.map fun held => part.set held tree) same
  rcases List.mem_pair.1 partMember with rfl | rfl
  · have same := ResourceTree.methodsOfJson_stripMethods value
    rwa [ResourceTree.methodsOfJson_eq] at same
  · have same := (ResourceTree.strip_reads_alike value).2
    rwa [ResourceTree.resourcesOfJson_eq] at same

/-- A stripped API description is read like the whole one. -/
theorem ofJson_strip (value : Json) : ofJson (strip value) = ofJson value := by
  cases value with
  | object members =>
      have own : ∀ field ∈ ownFields, ∀ value,
          field.store (stripField field.name value) = field.store value := by
        simp [ownFields, stripField]
      have ownNamed : ∀ field ∈ ownFields, fieldNames.contains field.name := by
        simp [ownFields, fieldNames]
      have rootNamed : ∀ field ∈ ResourceTree.parts.map Json.Part.toField,
          fieldNames.contains field.name := by
        simp [ResourceTree.parts, Json.Part.toField, ResourceTree.methodsPart,
          ResourceTree.resourcesPart, fieldNames]
      rw [strip, ofJson, ofJson]
      simp only [ResourceTree.ofMembers_eq_storeMembers, storeMembers_only ownNamed,
        storeMembers_only rootNamed, storeMembers_map own, storeMembers_map rootField_stripField]
  | null => rfl
  | boolean flag => rfl
  | number number => rfl
  | string text => rfl
  | array items => rfl

end ApiDescription

end ApiDiscovery
