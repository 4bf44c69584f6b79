import ApiDiscovery.Document.Encode
import ApiDiscovery.Proofs.Document.Parts
import ApiDiscovery.Proofs.ResourceTree

/-!
# Writing documents and reading them back

Every part of a document is written under the name of its field, null where it
is not declared, and read back from there.  So an API description or a listing
comes back from its own value unchanged, and what was read from any value at all
is what is read from that value written anew.
-/

namespace ApiDiscovery

open Json

variable {σ ρ : Type}

/-! ## Records written member by member -/

namespace Json

/-- A member of the part's name is read as the part of the record. -/
def Part.WrittenIn (part : Part σ) (members : List (String × Json)) (record : σ) : Prop :=
  ∃ value, (part.name, value) ∈ members ∧ part.read value = .ok (part.get record)

theorem Part.WrittenIn.given {part : Part σ} {members : List (String × Json)} {record : σ}
    (written : part.WrittenIn members record) (distinct : Distinct members) (start : σ) :
    part.Given start record (NameTable.get? (NameTable.ofList members) part.name) := by
  obtain ⟨value, member, read⟩ := written
  have found : NameTable.get? (NameTable.ofList members) part.name = some value := by
    obtain ⟨before, after, rfl⟩ := List.append_of_mem member
    refine NameTable.get?_ofList_eq_some_iff.2 ⟨before, after, rfl, ?_⟩
    intro pair later
    have tail := (List.pairwise_append.1 distinct).2.1
    exact Ne.symm ((List.pairwise_cons.1 tail).1 pair later)
  rw [found]
  exact read

/-- A record of which every part is written under its name is read back. -/
theorem Lawful.toRecord_ofMembers {remainder : σ → ρ} {parts : List (Part σ)}
    (lawful : Lawful remainder parts) {title : String} {excess : Nat → Nat → Mismatch}
    {members : List (String × Json)} (distinct : Distinct members) {start record : σ}
    (each : ∀ part ∈ parts, part.WrittenIn members record)
    (kept : remainder record = remainder start) :
    toRecord title excess (parts.map Part.toField) start (ofMembers members) = .ok record := by
  refine (lawful.toRecord_eq_ok_iff ?_).2 ⟨_, rfl, ?_, kept⟩
  · intro inner same
    cases same
    exact distinct_of_ordered (NameTable.ordered_ofList members)
  · intro part member
    exact (each part member).given distinct start

@[simp] theorem toText?_ofText? (expected : Expected) (text : Option String) :
    toText? expected (ofText? text) = .ok text := by
  cases text with
  | none => rfl
  | some content => rfl

end Json

/-! ## API descriptions -/

theorem MethodDeclaration.ofJson_toJson (method : MethodDeclaration) :
    MethodDeclaration.ofJson method.toJson = .ok method := by
  refine lawful.toRecord_ofMembers ?_ ?_ rfl
  · simp [Distinct]
  · simp [parts, Json.Part.text, Json.Part.WrittenIn]

namespace ResourceTree

theorem resourcesToJson_eq (resources : NameTable (ResourceTree MethodDeclaration)) :
    resourcesToJson resources = resources.mapEntries toJson := by
  induction resources with
  | nil => rw [resourcesToJson, NameTable.mapEntries, List.map_nil]
  | cons head rest ih =>
      rw [resourcesToJson, ih]
      rfl

/-- Both tables of a resource are read back from their members if all its resources are. -/
theorem writtenIn {members : List (String × Json)} {tree : ResourceTree MethodDeclaration}
    (own : ("methods", .object (tree.methods.mapEntries MethodDeclaration.toJson)) ∈ members)
    (beneath : ("resources", .object (tree.resources.mapEntries toJson)) ∈ members)
    (each : ∀ pair ∈ tree.resources, ofJson pair.2.toJson = .ok pair.2) :
    ∀ part ∈ parts, part.WrittenIn members tree := by
  intro part member
  rcases List.mem_pair.1 member with rfl | rfl
  · exact ⟨_, own, toTable_mapEntries fun pair _ => pair.2.ofJson_toJson⟩
  · exact ⟨_, beneath, toTable_mapEntries each⟩

theorem ofJson_toJson (tree : ResourceTree MethodDeclaration) : ofJson tree.toJson = .ok tree := by
  induction tree with
  | node methods resources ih =>
      rw [ofJson_eq_toRecord, toJson, resourcesToJson_eq]
      refine lawful.toRecord_ofMembers ?_ (writtenIn ?_ ?_ ih) rfl
      · simp [Distinct]
      · exact List.mem_cons_self
      · exact List.mem_cons_of_mem _ List.mem_cons_self

end ResourceTree

theorem ApiDescription.ofJson_toJson (api : ApiDescription) :
    ApiDescription.ofJson api.toJson = .ok api := by
  rw [toJson, ofMembers, ResourceTree.resourcesToJson_eq,
    ofJson_object_eq_ok_iff (distinct_of_ordered (NameTable.ordered_ofList _))]
  constructor
  · intro part member
    refine Json.Part.WrittenIn.given ?_ (by simp [Distinct]) _
    revert part
    simp [ownParts, Json.Part.text, Json.Part.WrittenIn]
  · intro part member
    refine Json.Part.WrittenIn.given (ResourceTree.writtenIn ?_ ?_ ?_ part member)
      (by simp [Distinct]) _
    · simp [NameTable.mapEntries]
    · simp
    · exact fun pair _ => pair.2.ofJson_toJson

/-! ## Listings -/

theorem ListedApi.ofJson_toJson (entry : ListedApi) :
    ListedApi.ofJson entry.toJson = .ok entry := by
  have flag : toFlag? ((entry.preferred.map .boolean).getD .null) = .ok entry.preferred := by
    cases entry.preferred with
    | none => rfl
    | some preferred => rfl
  refine lawful.toRecord_ofMembers ?_ ?_ rfl
  · simp [Distinct]
  · simp [parts, Json.Part.text, Json.Part.WrittenIn, flag, toText]

theorem ApiListing.ofJson_toJson (listing : ApiListing) :
    ApiListing.ofJson listing.toJson = .ok listing := by
  have items : toList? ListedApi.ofJson ((listing.items.map fun items =>
      .array (items.map ListedApi.toJson)).getD .null) = .ok listing.items := by
    cases listing.items with
    | none => rfl
    | some entries =>
        have each : (entries.map ListedApi.toJson).mapM ListedApi.ofJson = .ok entries := by
          induction entries with
          | nil => rfl
          | cons entry rest ih =>
              rw [List.map_cons, List.mapM_cons, entry.ofJson_toJson, ih]
              rfl
        exact congrArg (Except.map some) each
  refine lawful.toRecord_ofMembers ?_ ?_ rfl
  · simp [Distinct]
  · simp [parts, Json.Part.text, Json.Part.WrittenIn, items]

/-! ## Any value -/

/--
Reading undoes writing, for all API descriptions and all listings; so whatever is
read from a value, in whatever form it is given there, is read again from the
value that is written for it.
-/
theorem reading_undoes_writing :
    (∀ api : ApiDescription, ApiDescription.ofJson api.toJson = .ok api) ∧
      (∀ listing : ApiListing, ApiListing.ofJson listing.toJson = .ok listing) ∧
      (∀ value, (ApiDescription.ofJson value).bind (fun api => ApiDescription.ofJson api.toJson) =
        ApiDescription.ofJson value) ∧
      ∀ value, (ApiListing.ofJson value).bind (fun listing => ApiListing.ofJson listing.toJson) =
        ApiListing.ofJson value := by
  refine ⟨ApiDescription.ofJson_toJson, ApiListing.ofJson_toJson, ?_, ?_⟩
  · intro value
    cases ApiDescription.ofJson value with
    | error mismatch => rfl
    | ok api => exact api.ofJson_toJson
  · intro value
    cases ApiListing.ofJson value with
    | error mismatch => rfl
    | ok listing => exact listing.ofJson_toJson

end ApiDiscovery
