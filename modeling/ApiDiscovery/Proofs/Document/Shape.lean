import ApiDiscovery.Proofs.Document.Unknown

/-!
# The documented shape

Which values spell an API description, and which description they spell, said
member by member: a text is a string, null or absent; a table is an object or
absent; methods and resources are objects, or arrays that give their fields by
position.  Exactly these values are read, and as the descriptions they spell.
Members under other names may hold anything: without them the same is read.
-/

namespace ApiDiscovery

open Json

variable {σ α : Type}

/-! ## What values spell -/

/-- A member that is absent, null or a string spells an optional text. -/
inductive SpellsText : Option Json → Option String → Prop where
  | absent : SpellsText none none
  | null : SpellsText (some .null) none
  | text (content : String) : SpellsText (some (.string content)) (some content)

/-- Members spell a table name by name. -/
inductive SpellsEntries (Spells : Json → α → Prop) :
    List (String × Json) → NameTable α → Prop where
  | nil : SpellsEntries Spells [] []
  | cons {value : Json} {entry : α} {members : List (String × Json)} {table : NameTable α}
      (name : String) (first : Spells value entry) (rest : SpellsEntries Spells members table) :
      SpellsEntries Spells ((name, value) :: members) ((name, entry) :: table)

/-- A member that is absent or an object spells a table; null does not. -/
inductive SpellsTable (Spells : Json → α → Prop) : Option Json → NameTable α → Prop where
  | absent : SpellsTable Spells none []
  | object {members : List (String × Json)} {table : NameTable α}
      (entries : SpellsEntries Spells members table) :
      SpellsTable Spells (some (.object members)) table

/-- The value is an object, or an array of at most four items, that spells a method. -/
def SpellsMethod (value : Json) (method : MethodDeclaration) : Prop :=
  ∃ members, givenBy ["id", "path", "httpMethod", "description"] value = some members ∧
    SpellsText (NameTable.get? members "id") method.id ∧
    SpellsText (NameTable.get? members "path") method.path ∧
    SpellsText (NameTable.get? members "httpMethod") method.httpMethod ∧
    SpellsText (NameTable.get? members "description") method.description

/-- The value is an object, or an array of at most two items, that spells a resource. -/
inductive SpellsResource : Json → ResourceTree MethodDeclaration → Prop where
  | node {value : Json} {members : List (String × Json)} {methods : NameTable MethodDeclaration}
      {resources : NameTable (ResourceTree MethodDeclaration)}
      (given : givenBy ["methods", "resources"] value = some members)
      (own : SpellsTable SpellsMethod (NameTable.get? members "methods") methods)
      (beneath : SpellsTable SpellsResource (NameTable.get? members "resources") resources) :
      SpellsResource value (.node methods resources)

/-- The value is an object that spells an API description, never an array. -/
inductive SpellsApi : Json → ApiDescription → Prop where
  | object {members : List (String × Json)} {api : ApiDescription}
      (name : SpellsText (NameTable.get? members "name") api.name)
      (version : SpellsText (NameTable.get? members "version") api.version)
      (title : SpellsText (NameTable.get? members "title") api.title)
      (baseUrl : SpellsText (NameTable.get? members "baseUrl") api.baseUrl)
      (rootUrl : SpellsText (NameTable.get? members "rootUrl") api.rootUrl)
      (servicePath : SpellsText (NameTable.get? members "servicePath") api.servicePath)
      (methods : SpellsTable SpellsMethod (NameTable.get? members "methods") api.root.methods)
      (resources :
        SpellsTable SpellsResource (NameTable.get? members "resources") api.root.resources) :
      SpellsApi (.object members) api

/-! ## Texts and tables -/

theorem spellsText_none_iff {text : Option String} : SpellsText none text ↔ text = none := by
  constructor
  · intro spelled
    cases spelled
    rfl
  · rintro rfl
    exact .absent

theorem spellsTable_none_iff {Spells : Json → α → Prop} {table : NameTable α} :
    SpellsTable Spells none table ↔ table = [] := by
  constructor
  · intro spelled
    cases spelled
    rfl
  · rintro rfl
    exact .absent

theorem toText?_eq_ok_iff {expected : Expected} {value : Json} {text : Option String} :
    toText? expected value = .ok text ↔ SpellsText (some value) text := by
  constructor
  · intro read
    cases value with
    | null =>
        cases read
        exact .null
    | string content =>
        cases read
        exact .text content
    | boolean flag => cases read
    | number number => cases read
    | array items => cases read
    | object members => cases read
  · intro spelled
    cases spelled with
    | null => rfl
    | text content => rfl

theorem given_text_iff {name : String} {get : σ → Option String} {set : Option String → σ → σ}
    {start record : σ} (unset : get start = none) {member : Option Json} :
    (Json.Part.text name get set).Given start record member ↔ SpellsText member (get record) := by
  cases member with
  | none => rw [spellsText_none_iff, ← unset]; rfl
  | some value => exact toText?_eq_ok_iff

theorem readEntries_eq_ok_iff {entry : Json → Except Mismatch α} {Spells : Json → α → Prop}
    {members : List (String × Json)}
    (each : ∀ pair ∈ members, ∀ content, entry pair.2 = .ok content ↔ Spells pair.2 content)
    {table : NameTable α} :
    readEntries entry members = .ok table ↔ SpellsEntries Spells members table := by
  induction members generalizing table with
  | nil =>
      constructor
      · intro read
        cases read
        exact .nil
      · intro spelled
        cases spelled
        rfl
  | cons head rest ih =>
      obtain ⟨name, value⟩ := head
      obtain ⟨first, others⟩ := List.forall_mem_cons.1 each
      rw [readEntries_cons_eq_ok_iff]
      constructor
      · rintro ⟨content, tail, read, readTail, rfl⟩
        exact .cons name ((first content).1 read) ((ih others).1 readTail)
      · intro spelled
        cases spelled with
        | cons _ spelledFirst spelledRest =>
            exact ⟨_, _, (first _).2 spelledFirst, (ih others).2 spelledRest, rfl⟩

/-- A table is read as it is spelled if its entries are. -/
theorem toTable_eq_ok_iff {entry : Json → Except Mismatch α} {Spells : Json → α → Prop}
    {value : Json}
    (each : ∀ members, value = .object members →
      ∀ pair ∈ members, ∀ content, entry pair.2 = .ok content ↔ Spells pair.2 content)
    {table : NameTable α} :
    toTable entry value = .ok table ↔ SpellsTable Spells (some value) table := by
  constructor
  · intro read
    cases value with
    | object members => exact .object ((readEntries_eq_ok_iff (each members rfl)).1 read)
    | null => cases read
    | boolean flag => cases read
    | number number => cases read
    | string text => cases read
    | array items => cases read
  · intro spelled
    cases spelled with
    | @object members _ entries => exact (readEntries_eq_ok_iff (each members rfl)).2 entries

theorem given_table_iff {name : String} {entry : Json → Except Mismatch α}
    {Spells : Json → α → Prop} {get : σ → NameTable α} {set : NameTable α → σ → σ}
    {start record : σ} (unset : get start = []) {member : Option Json}
    (each : ∀ value, member = some value → ∀ table,
      toTable entry value = .ok table ↔ SpellsTable Spells (some value) table) :
    (Json.Part.table name entry get set).Given start record member ↔
      SpellsTable Spells member (get record) := by
  cases member with
  | none => rw [spellsTable_none_iff, ← unset]; rfl
  | some value => exact each value rfl (get record)

/-! ## Exactly the spelled descriptions are read -/

theorem distinct_of_ordered_object {value : Json} (ordered : value.Ordered) :
    ∀ members, value = .object members → Distinct members := by
  rintro members rfl
  exact distinct_of_ordered (ordered_object_iff.1 ordered).1

theorem MethodDeclaration.ofJson_eq_ok_iff {value : Json} (ordered : value.Ordered)
    {method : MethodDeclaration} :
    MethodDeclaration.ofJson value = .ok method ↔ SpellsMethod value method := by
  rw [MethodDeclaration.ofJson, fields_eq,
    lawful.toRecord_eq_ok_iff (distinct_of_ordered_object ordered)]
  refine exists_congr fun members => and_congr_right fun given => ?_
  simp [parts, given_text_iff]

theorem methods_eq_ok_iff {value : Json} (ordered : value.Ordered)
    {table : NameTable MethodDeclaration} :
    toTable MethodDeclaration.ofJson value = .ok table ↔
      SpellsTable SpellsMethod (some value) table := by
  refine toTable_eq_ok_iff ?_
  rintro members rfl pair member method
  exact MethodDeclaration.ofJson_eq_ok_iff ((ordered_object_iff.1 ordered).2 pair member)

namespace ResourceTree

/-- The tables of a resource are read as they are spelled, given that its resources are. -/
theorem given_parts_iff {members : List (String × Json)}
    (ordered : ∀ pair ∈ members, pair.2.Ordered)
    (each : ∀ pair ∈ members, ∀ table,
      toTable ofJson pair.2 = .ok table ↔ SpellsTable SpellsResource (some pair.2) table)
    {tree : ResourceTree MethodDeclaration} :
    (∀ part ∈ parts, part.Given .empty tree (NameTable.get? members part.name)) ↔
      SpellsTable SpellsMethod (NameTable.get? members "methods") tree.methods ∧
        SpellsTable SpellsResource (NameTable.get? members "resources") tree.resources := by
  have own : methodsPart.Given .empty tree (NameTable.get? members "methods") ↔
      SpellsTable SpellsMethod (NameTable.get? members "methods") tree.methods :=
    given_table_iff rfl fun value found _ =>
      methods_eq_ok_iff (ordered _ (NameTable.mem_of_get? found))
  have beneath : resourcesPart.Given .empty tree (NameTable.get? members "resources") ↔
      SpellsTable SpellsResource (NameTable.get? members "resources") tree.resources :=
    given_table_iff rfl fun value found table => each _ (NameTable.mem_of_get? found) table
  rw [← own, ← beneath, parts, List.forall_mem_cons, List.forall_mem_singleton]
  rfl

theorem ofJson_eq_ok_iff_of_members {value : Json} (ordered : value.Ordered)
    (each : ∀ members, givenBy ["methods", "resources"] value = some members →
      ∀ pair ∈ members, ∀ table,
        toTable ofJson pair.2 = .ok table ↔ SpellsTable SpellsResource (some pair.2) table)
    {tree : ResourceTree MethodDeclaration} :
    ofJson value = .ok tree ↔ SpellsResource value tree := by
  have inside : ∀ members, givenBy ["methods", "resources"] value = some members →
      ∀ pair ∈ members, pair.2.Ordered := by
    intro members given
    refine forall_of_givenBy given ?_ ?_
    · rintro items rfl
      exact ordered_array_iff.1 ordered
    · rintro inner rfl
      exact (ordered_object_iff.1 ordered).2
  rw [ofJson_eq_toRecord, lawful.toRecord_eq_ok_iff (distinct_of_ordered_object ordered)]
  constructor
  · rintro ⟨members, given, parts, -⟩
    cases tree with
    | node methods resources =>
        obtain ⟨own, beneath⟩ :=
          (given_parts_iff (inside members given) (each members given)).1 parts
        exact .node given own beneath
  · intro spelled
    cases spelled with
    | @node _ members _ _ given own beneath =>
        exact ⟨members, given,
          (given_parts_iff (inside members given) (each members given)).2 ⟨own, beneath⟩, rfl⟩

/-- At every depth resources are read as they are spelled. -/
theorem ofJson_eq_ok_iff {value : Json} (ordered : value.Ordered) :
    (∀ tree, ofJson value = .ok tree ↔ SpellsResource value tree) ∧
      ∀ table, toTable ofJson value = .ok table ↔
        SpellsTable SpellsResource (some value) table := by
  -- A resource holds a table, and the table holds resources: both halves are needed of the parts.
  induction value using Json.induction_on_parts with
  | step value items members =>
      constructor
      · intro tree
        refine ofJson_eq_ok_iff_of_members ordered fun inner given => ?_
        refine forall_of_givenBy (P := fun part => ∀ table,
          toTable ofJson part = .ok table ↔ SpellsTable SpellsResource (some part) table)
          given ?_ ?_
        · rintro list rfl item member
          exact (items list rfl item member (ordered_array_iff.1 ordered item member)).2
        · rintro list rfl pair member
          exact (members list rfl pair member ((ordered_object_iff.1 ordered).2 pair member)).2
      · intro table
        refine toTable_eq_ok_iff ?_
        rintro list rfl pair member
        exact (members list rfl pair member ((ordered_object_iff.1 ordered).2 pair member)).1

end ResourceTree

namespace ApiDescription

theorem given_ownParts_iff {members : List (String × Json)} {api : ApiDescription} :
    (∀ part ∈ ownParts, part.Given {} api (NameTable.get? members part.name)) ↔
      SpellsText (NameTable.get? members "name") api.name ∧
        SpellsText (NameTable.get? members "version") api.version ∧
        SpellsText (NameTable.get? members "title") api.title ∧
        SpellsText (NameTable.get? members "baseUrl") api.baseUrl ∧
        SpellsText (NameTable.get? members "rootUrl") api.rootUrl ∧
        SpellsText (NameTable.get? members "servicePath") api.servicePath := by
  simp [ownParts, given_text_iff]

/-- An API description is read from a value exactly if the value spells it. -/
theorem ofJson_eq_ok_iff {value : Json} (ordered : value.Ordered) {api : ApiDescription} :
    ofJson value = .ok api ↔ SpellsApi value api := by
  cases value with
  | object members =>
      obtain ⟨names, inside⟩ := ordered_object_iff.1 ordered
      have each := fun pair member => (ResourceTree.ofJson_eq_ok_iff (inside pair member)).2
      rw [ofJson_object_eq_ok_iff (distinct_of_ordered names), given_ownParts_iff,
        ResourceTree.given_parts_iff inside each]
      constructor
      · rintro ⟨⟨name, version, title, baseUrl, rootUrl, servicePath⟩, methods, resources⟩
        exact .object name version title baseUrl rootUrl servicePath methods resources
      · intro spelled
        cases spelled with
        | object name version title baseUrl rootUrl servicePath methods resources =>
            exact ⟨⟨name, version, title, baseUrl, rootUrl, servicePath⟩, methods, resources⟩
  | null => exact ⟨nofun, nofun⟩
  | boolean flag => exact ⟨nofun, nofun⟩
  | number number => exact ⟨nofun, nofun⟩
  | string text => exact ⟨nofun, nofun⟩
  | array items => exact ⟨nofun, nofun⟩

/--
A value is read exactly if it has the documented shape, and as the description it
spells; two values that are the same without members under unknown names are
read alike, to equal descriptions or with the same mismatch.  That the members of
every object are in the order of their names holds of all values read from texts.
-/
theorem ofJson_exact :
    (∀ value : Json, value.Ordered →
        ∀ api, ofJson value = .ok api ↔ SpellsApi value api) ∧
      ∀ first second : Json, strip first = strip second → ofJson first = ofJson second := by
  constructor
  · intro value ordered api
    exact ofJson_eq_ok_iff ordered
  · intro first second same
    rw [← ofJson_strip first, same, ofJson_strip second]

/-- A description with fields by position, and the same value under unknown names throughout. -/
def terseDocument (unknown : Json) : Json :=
  .object [
    ("methods", .object [("get", .array [.null, .string "m/{id}", .string "GET"])]),
    ("name", .null),
    ("parameters", unknown),
    ("resources", .object [
      ("files", .array [.object [("list", .object [
        ("httpMethod", .string "GET"), ("parameters", unknown), ("path", .string "files")])]]),
      ("inner", .object [("kind", unknown), ("resources", .object [])])]),
    ("version", .string "v1")]

def terseApi : ApiDescription where
  version := some "v1"
  root := .node [("get", { path := some "m/{id}", httpMethod := some "GET" })] [
    ("files", .node [("list", { path := some "files", httpMethod := some "GET" })] []),
    ("inner", .empty)]

theorem ofJson_exact_terseDocument :
    (terseDocument .null).Ordered ∧ SpellsApi (terseDocument .null) terseApi ∧
      strip (terseDocument .null) = strip (terseDocument (.boolean true)) ∧
      ofJson (terseDocument (.boolean true)) = .ok terseApi := by
  have ordered : (terseDocument .null).Ordered := by decide
  have read : ofJson (terseDocument .null) = .ok terseApi := by rfl
  have same : strip (terseDocument .null) = strip (terseDocument (.boolean true)) := by rfl
  have alike := ofJson_exact.2 _ _ same
  exact ⟨ordered, (ofJson_exact.1 _ ordered _).1 read, same, alike.symm.trans read⟩

end ApiDescription

end ApiDiscovery
