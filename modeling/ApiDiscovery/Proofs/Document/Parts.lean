import ApiDiscovery.Document.Decode
import ApiDiscovery.Proofs.Json.Record

/-!
# The parts of documents

The fields of methods, resources, APIs, entries and listings as parts of the
records they enter.  A resource is a record of two tables.  An API description
and its root resource are two records read from the members of one object.
-/

namespace ApiDiscovery

open Json

/-! ## Methods -/

namespace MethodDeclaration

def parts : List (Json.Part MethodDeclaration) := [
  .text "id" id fun text method => { method with id := text },
  .text "path" path fun text method => { method with path := text },
  .text "httpMethod" httpMethod fun text method => { method with httpMethod := text },
  .text "description" description fun text method => { method with description := text }]

theorem fields_eq : fields = parts.map Json.Part.toField := rfl

theorem lawful : Lawful (fun _ => ()) parts where
  independent := by simp [parts, Json.Part.independent_iff, Json.Part.text]
  get_set := by simp [parts, Json.Part.text]
  remainder_set := by simp
  ext := by
    intro first second _ same
    cases first
    cases second
    simpa [parts, Json.Part.text] using same

end MethodDeclaration

/-! ## Resources -/

namespace ResourceTree

theorem methodsOfMembers_eq (members : List (String × Json)) :
    methodsOfMembers members = readEntries MethodDeclaration.ofJson members := by
  induction members with
  | nil => rfl
  | cons head rest ih =>
      obtain ⟨name, value⟩ := head
      rw [methodsOfMembers, readEntries, ih]
      cases MethodDeclaration.ofJson value with
      | error mismatch => rfl
      | ok method => cases readEntries MethodDeclaration.ofJson rest <;> rfl

theorem methodsOfJson_eq : methodsOfJson = toTable MethodDeclaration.ofJson := by
  funext value
  cases value with
  | object members => exact methodsOfMembers_eq members
  | null => rfl
  | boolean flag => rfl
  | number number => rfl
  | string text => rfl
  | array items => rfl

theorem resourcesOfMembers_eq (members : List (String × Json)) :
    resourcesOfMembers members = readEntries ofJson members := by
  induction members with
  | nil => rw [resourcesOfMembers, readEntries]
  | cons head rest ih =>
      obtain ⟨name, value⟩ := head
      rw [resourcesOfMembers, readEntries, ih]
      cases ofJson value with
      | error mismatch => rfl
      | ok tree => cases readEntries ofJson rest <;> rfl

theorem resourcesOfJson_eq : resourcesOfJson = toTable ofJson := by
  funext value
  cases value with
  | object members =>
      rw [resourcesOfJson, toTable]
      exact resourcesOfMembers_eq members
  | null => rw [resourcesOfJson, toTable] <;> simp
  | boolean flag => rw [resourcesOfJson, toTable] <;> simp
  | number number => rw [resourcesOfJson, toTable] <;> simp
  | string text => rw [resourcesOfJson, toTable] <;> simp
  | array items => rw [resourcesOfJson, toTable] <;> simp

def methodsPart : Json.Part (ResourceTree MethodDeclaration) :=
  .table "methods" MethodDeclaration.ofJson methods fun table tree => .node table tree.resources

def resourcesPart : Json.Part (ResourceTree MethodDeclaration) :=
  .table "resources" ofJson resources fun table tree => .node tree.methods table

def parts : List (Json.Part (ResourceTree MethodDeclaration)) := [methodsPart, resourcesPart]

theorem lawful : Lawful (fun _ => ()) parts where
  independent := by
    simp [parts, Json.Part.independent_iff, Json.Part.table, methodsPart, resourcesPart, methods,
      resources]
  get_set := by simp [parts, Json.Part.table, methodsPart, resourcesPart, methods, resources]
  remainder_set := by simp
  ext := by
    intro first second _ same
    cases first
    cases second
    simpa [parts, Json.Part.table, methodsPart, resourcesPart, methods, resources] using same

theorem ofMembers_eq_storeMembers (members : List (String × Json))
    (tree : ResourceTree MethodDeclaration) :
    ofMembers members tree = storeMembers (parts.map Json.Part.toField) members tree := by
  induction members generalizing tree with
  | nil => rw [ofMembers, storeMembers]
  | cons head rest ih =>
      obtain ⟨name, value⟩ := head
      rw [ofMembers, methodsOfJson_eq, resourcesOfJson_eq]
      by_cases isMethods : name = "methods"
      · have stored :
            storeMembers (parts.map Json.Part.toField) (("methods", value) :: rest) tree =
            (toTable MethodDeclaration.ofJson value).bind fun table =>
              storeMembers (parts.map Json.Part.toField) rest (.node table tree.resources) :=
          lawful.storeMembers_cons (by simp [parts] : methodsPart ∈ parts) value rest tree
        rw [isMethods, if_pos rfl, stored]
        cases toTable MethodDeclaration.ofJson value with
        | error mismatch => rfl
        | ok table => exact ih _
      · by_cases isResources : name = "resources"
        · have stored :
              storeMembers (parts.map Json.Part.toField) (("resources", value) :: rest) tree =
              (toTable ofJson value).bind fun table =>
                storeMembers (parts.map Json.Part.toField) rest (.node tree.methods table) :=
            lawful.storeMembers_cons (by simp [parts] : resourcesPart ∈ parts) value rest tree
          rw [if_neg isMethods, isResources, if_pos rfl, stored]
          cases toTable ofJson value with
          | error mismatch => rfl
          | ok table => exact ih _
        · have unknown : ∀ part ∈ parts, part.name ≠ name := by
            simpa [parts, Json.Part.table, methodsPart, resourcesPart] using
              ⟨Ne.symm isMethods, Ne.symm isResources⟩
          rw [storeMembers_cons_of_forall_ne unknown, if_neg isMethods, if_neg isResources, ih]

theorem ofItems_eq_storeItems (items : List Json) :
    ofItems items =
      (storeItems (parts.map Json.Part.toField) items .empty).bind fun tree =>
        if 2 < items.length then .error (excessOfSequence 2 items.length) else .ok tree := by
  match items with
  | [] =>
      rw [ofItems]
      rfl
  | [first] =>
      rw [ofItems, methodsOfJson_eq]
      simp only [parts, List.map_cons, storeItems, Json.Part.toField, Json.Part.table, methodsPart]
      cases toTable MethodDeclaration.ofJson first with
      | error mismatch => rfl
      | ok methods => rfl
  | first :: second :: rest =>
      rw [ofItems, methodsOfJson_eq, resourcesOfJson_eq]
      simp only [parts, List.map_cons, List.map_nil, storeItems, Json.Part.toField, Json.Part.table,
        methodsPart, resourcesPart]
      cases toTable MethodDeclaration.ofJson first with
      | error mismatch => rfl
      | ok methods =>
          cases toTable ofJson second with
          | error mismatch => rfl
          | ok resources =>
              cases rest with
              | nil => rfl
              | cons third others => rfl

/-- A resource is read as a record of its methods and its resources. -/
theorem ofJson_eq_toRecord :
    ofJson = toRecord shapeName excessOfSequence (parts.map Json.Part.toField) .empty := by
  funext value
  cases value with
  | object members =>
      rw [ofJson, toRecord]
      exact ofMembers_eq_storeMembers members .empty
  | array items =>
      rw [ofJson, toRecord, ofItems_eq_storeItems]
      cases storeItems (parts.map Json.Part.toField) items .empty with
      | error mismatch => rfl
      | ok tree => rfl
  | null => rw [ofJson, toRecord] <;> simp
  | boolean flag => rw [ofJson, toRecord] <;> simp
  | number number => rw [ofJson, toRecord] <;> simp
  | string text => rw [ofJson, toRecord] <;> simp

end ResourceTree

/-! ## API descriptions -/

namespace ApiDescription

/-- The parts of an API beside its root resource. -/
def ownParts : List (Json.Part ApiDescription) := [
  .text "name" name fun text api => { api with name := text },
  .text "version" version fun text api => { api with version := text },
  .text "title" title fun text api => { api with title := text },
  .text "baseUrl" baseUrl fun text api => { api with baseUrl := text },
  .text "rootUrl" rootUrl fun text api => { api with rootUrl := text },
  .text "servicePath" servicePath fun text api => { api with servicePath := text }]

theorem ownFields_eq : ownFields = ownParts.map Json.Part.toField := rfl

theorem lawful : Lawful root ownParts where
  independent := by simp [ownParts, Json.Part.independent_iff, Json.Part.text]
  get_set := by simp [ownParts, Json.Part.text]
  remainder_set := by simp [ownParts, Json.Part.text]
  ext := by
    intro first second sameRoot same
    cases first
    cases second
    simp_all [ownParts, Json.Part.text]

theorem given_root_iff {part : Json.Part ApiDescription} (member : part ∈ ownParts)
    (api : ApiDescription) (root : ResourceTree MethodDeclaration) (given : Option Json) :
    part.Given {} { api with root } given ↔ part.Given {} api given := by
  have unchanged : part.get { api with root } = part.get api := by
    revert part
    simp [ownParts, Json.Part.text]
  cases given with
  | none => rw [Json.Part.Given, Json.Part.Given, unchanged]
  | some value => rw [Json.Part.Given, Json.Part.Given, unchanged]

/-- The members of one object give both the API's own parts and those of its root resource. -/
theorem ofJson_object_eq_ok_iff {members : List (String × Json)} (distinct : Distinct members)
    {api : ApiDescription} :
    ofJson (.object members) = .ok api ↔
      (∀ part ∈ ownParts, part.Given {} api (NameTable.get? members part.name)) ∧
        ∀ part ∈ ResourceTree.parts,
          part.Given .empty api.root (NameTable.get? members part.name) := by
  rw [ofJson, ownFields_eq, ResourceTree.ofMembers_eq_storeMembers]
  constructor
  · intro read
    cases stored : storeMembers (ownParts.map Json.Part.toField) members {} with
    | error mismatch =>
        rw [stored] at read
        cases read
    | ok own =>
        rw [stored] at read
        obtain ⟨root, rootStored, rfl⟩ := except_map_eq_ok_iff.1 read
        refine ⟨?_, ((ResourceTree.lawful.storeMembers_eq_ok_iff distinct).1 rootStored).1⟩
        intro part member
        rw [given_root_iff member]
        exact ((lawful.storeMembers_eq_ok_iff distinct).1 stored).1 part member
  · rintro ⟨given, rootGiven⟩
    -- The own fields are entered first, so what they make of the start has an empty root.
    have stored : storeMembers (ownParts.map Json.Part.toField) members {} =
        .ok { api with root := .empty } := by
      refine (lawful.storeMembers_eq_ok_iff distinct).2 ⟨?_, rfl⟩
      intro part member
      rw [given_root_iff member]
      exact given part member
    have rootStored : storeMembers (ResourceTree.parts.map Json.Part.toField) members .empty =
        .ok api.root :=
      (ResourceTree.lawful.storeMembers_eq_ok_iff distinct).2 ⟨rootGiven, rfl⟩
    rw [stored, rootStored]
    rfl

end ApiDescription

/-! ## Listings -/

namespace ListedApi

def parts : List (Json.Part ListedApi) := [
  .text "id" id fun text entry => { entry with id := text },
  ⟨"name", String, toText, name, fun text entry => { entry with name := text }⟩,
  .text "version" version fun text entry => { entry with version := text },
  .text "title" title fun text entry => { entry with title := text },
  .text "description" description fun text entry => { entry with description := text },
  ⟨"preferred", Option Bool, toFlag?, preferred,
    fun flag entry => { entry with preferred := flag }⟩,
  .text "discoveryRestUrl" documentUrl fun text entry => { entry with documentUrl := text }]

theorem lawful : Lawful (fun _ => ()) parts where
  independent := by simp [parts, Json.Part.independent_iff, Json.Part.text]
  get_set := by simp [parts, Json.Part.text]
  remainder_set := by simp
  ext := by
    intro first second _ same
    cases first
    cases second
    simpa [parts, Json.Part.text] using same

end ListedApi

namespace ApiListing

def parts : List (Json.Part ApiListing) := [
  .text "kind" kind fun text listing => { listing with kind := text },
  .text "discoveryVersion" discoveryVersion
    fun text listing => { listing with discoveryVersion := text },
  ⟨"items", Option (List ListedApi), toList? ListedApi.ofJson, items,
    fun items listing => { listing with items := items }⟩]

theorem lawful : Lawful (fun _ => ()) parts where
  independent := by simp [parts, Json.Part.independent_iff, Json.Part.text]
  get_set := by simp [parts, Json.Part.text]
  remainder_set := by simp
  ext := by
    intro first second _ same
    cases first
    cases second
    simpa [parts, Json.Part.text] using same

end ApiListing

end ApiDiscovery
