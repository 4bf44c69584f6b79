import ApiDiscovery.Options.Basic
import Mathlib.Data.List.Induction

/-!
# Layers of options

Layers of options may be merged in any grouping: of every field the last layer
that sets it counts.  The source is that of the first field by rank that any
layer sets, early or late, and the public listing is read only if no layer sets
a source at all.
-/

namespace ApiDiscovery.Options

/-! ## Merging -/

/-- Options are known by the contents of their fields. -/
theorem eq_of_get_eq {options other : Options}
    (same : ∀ field, options.get field = other.get field) : options = other := by
  obtain ⟨serviceFile, serviceUrl, restFile, restUrl, apiKey⟩ := options
  obtain rfl : serviceFile = other.serviceFile := same .serviceFile
  obtain rfl : serviceUrl = other.serviceUrl := same .serviceUrl
  obtain rfl : restFile = other.restFile := same .restFile
  obtain rfl : restUrl = other.restUrl := same .restUrl
  obtain rfl : apiKey = other.apiKey := same .apiKey
  rfl

theorem get_empty (field : Field) : ({} : Options).get field = none := by
  cases field <;> rfl

theorem merge_assoc (first second third : Options) :
    (first.merge second).merge third = first.merge (second.merge third) := by
  apply eq_of_get_eq
  intro field
  simp only [get_merge, Option.orElse_eq_orElse, Option.orElse_eq_or, Option.or_assoc]

theorem empty_merge (options : Options) : merge {} options = options := by
  apply eq_of_get_eq
  intro field
  rw [get_merge, get_empty, Option.orElse_eq_orElse, Option.orElse_eq_or, Option.or_none]

theorem merge_empty (options : Options) : options.merge {} = options := by
  apply eq_of_get_eq
  intro field
  rw [get_merge, get_empty, Option.orElse_eq_orElse, Option.orElse_eq_or, Option.none_or]

instance : Std.Associative merge := ⟨merge_assoc⟩

def mergeAll (layers : List Options) : Options := layers.foldl merge {}

theorem mergeAll_append (earlier later : List Options) :
    mergeAll (earlier ++ later) = (mergeAll earlier).merge (mergeAll later) := calc
  mergeAll (earlier ++ later) = later.foldl merge (mergeAll earlier) := List.foldl_append
  _ = later.foldl merge ((mergeAll earlier).merge {}) := by rw [merge_empty]
  _ = (mergeAll earlier).merge (mergeAll later) := List.foldl_assoc

/-- Layers merged two by two in some grouping, which may leave groups without a layer. -/
inductive Grouping : List Options → Type where
  | empty : Grouping []
  | layer (options : Options) : Grouping [options]
  | merge {earlier later : List Options} (first : Grouping earlier) (second : Grouping later) :
      Grouping (earlier ++ later)

def Grouping.merged {layers : List Options} : Grouping layers → Options
  | .empty => {}
  | .layer options => options
  | .merge first second => first.merged.merge second.merged

theorem Grouping.merged_eq {layers : List Options} (grouping : Grouping layers) :
    grouping.merged = mergeAll layers := by
  induction grouping with
  | empty => rfl
  | layer options => exact (empty_merge options).symm
  | merge first second ihFirst ihSecond => rw [merged, ihFirst, ihSecond, mergeAll_append]

/-! ## Fields -/

variable {layers : List Options} {field : Field} {value : String}

/-- The last layer that sets the field sets it to this value. -/
def LastSets (layers : List Options) (field : Field) (value : String) : Prop :=
  ∃ before layer after, layers = before ++ layer :: after ∧ layer.get field = some value ∧
    ∀ later ∈ after, later.get field = none

def LeavesOpen (layers : List Options) (field : Field) : Prop :=
  ∀ layer ∈ layers, layer.get field = none

/-- The layers are searched from the last to the first. -/
theorem get_mergeAll (layers : List Options) (field : Field) :
    (mergeAll layers).get field = layers.reverse.findSome? fun layer => layer.get field := by
  induction layers using List.reverseRecOn with
  | nil => exact get_empty field
  | append_singleton layers last ih =>
      rw [mergeAll_append, get_merge, ih, List.reverse_append, List.reverse_singleton,
        List.singleton_append, List.findSome?_cons, mergeAll, List.foldl_cons, List.foldl_nil,
        empty_merge]
      cases last.get field with
      | none => rfl
      | some value => rfl

theorem get_mergeAll_eq_some_iff :
    (mergeAll layers).get field = some value ↔ LastSets layers field value := by
  rw [get_mergeAll, List.findSome?_eq_some_iff]
  constructor
  · rintro ⟨after, layer, before, split, sets, others⟩
    refine ⟨before.reverse, layer, after.reverse, ?_, sets, ?_⟩
    · rw [← List.reverse_reverse layers, split]
      simp
    · intro later member
      exact others later (List.mem_reverse.1 member)
  · rintro ⟨before, layer, after, rfl, sets, others⟩
    refine ⟨after.reverse, layer, before.reverse, by simp, sets, ?_⟩
    intro later member
    exact others later (List.mem_reverse.1 member)

theorem get_mergeAll_eq_none_iff :
    (mergeAll layers).get field = none ↔ LeavesOpen layers field := by
  simp only [get_mergeAll, List.findSome?_eq_none_iff, List.mem_reverse, LeavesOpen]

/-! ## Sources -/

namespace Field

/-- The fields that a source is taken from, each only if none before it is set. -/
def ranked : List Field := [.restFile, .serviceFile, .restUrl, .serviceUrl]

def isRest : Field → Bool
  | .restFile => true
  | .restUrl => true
  | _ => false

def source (field : Field) (value : String) : Source :=
  if field.isPath then .file value else .url value

def kind (field : Field) : DocumentKind := if field.isRest then .api else .listing

end Field

def chosen? (options : Options) : Option (Field × String) :=
  Field.ranked.findSome? fun field => (options.get field).map fun value => (field, value)

/-- The source by rank; without one the listing at this address. -/
def resolveOr (fallback : String) (options : Options) : Source × DocumentKind :=
  match options.chosen? with
  | none => (.url fallback, .listing)
  | some (field, value) => (field.source value, field.kind)

/-- What options resolve to goes by rank, the public listing standing in for a source. -/
theorem resolve_eq_resolveOr (options : Options) :
    options.resolve = options.resolveOr defaultServiceUrl := by
  obtain ⟨serviceFile, serviceUrl, restFile, restUrl, apiKey⟩ := options
  cases restFile <;> cases serviceFile <;> cases restUrl <;> cases serviceUrl <;> rfl

/-- Of the fields that any layer sets this one is first by rank, and this is its last value. -/
def Chosen (layers : List Options) (field : Field) (value : String) : Prop :=
  ∃ before after, Field.ranked = before ++ field :: after ∧
    (∀ better ∈ before, LeavesOpen layers better) ∧ LastSets layers field value

theorem chosen?_mergeAll_eq_some_iff :
    (mergeAll layers).chosen? = some (field, value) ↔ Chosen layers field value := by
  rw [chosen?, List.findSome?_eq_some_iff]
  constructor
  · rintro ⟨before, known, after, split, found, others⟩
    obtain ⟨content, sets, same⟩ := Option.map_eq_some_iff.1 found
    cases same
    refine ⟨before, after, split, ?_, get_mergeAll_eq_some_iff.1 sets⟩
    intro better member
    exact get_mergeAll_eq_none_iff.1 (Option.map_eq_none_iff.1 (others better member))
  · rintro ⟨before, after, split, others, sets⟩
    refine ⟨before, field, after, split, ?_, ?_⟩
    · rw [get_mergeAll_eq_some_iff.2 sets]
      rfl
    · intro better member
      rw [get_mergeAll_eq_none_iff.2 (others better member)]
      rfl

theorem chosen?_mergeAll_eq_none_iff :
    (mergeAll layers).chosen? = none ↔ ∀ field ∈ Field.ranked, LeavesOpen layers field := by
  simp only [chosen?, List.findSome?_eq_none_iff, Option.map_eq_none_iff, get_mergeAll_eq_none_iff]

theorem exists_chosen_iff :
    (∃ field value, Chosen layers field value) ↔
      ¬ ∀ field ∈ Field.ranked, LeavesOpen layers field := by
  simp only [← chosen?_mergeAll_eq_some_iff, ← chosen?_mergeAll_eq_none_iff]
  cases (mergeAll layers).chosen? with
  | none => simp
  | some pair =>
      obtain ⟨field, value⟩ := pair
      simp

theorem resolve_of_chosen (chosen : Chosen layers field value) :
    (mergeAll layers).resolve = (field.source value, field.kind) := by
  rw [resolve_eq_resolveOr, resolveOr, chosen?_mergeAll_eq_some_iff.2 chosen]

/-- Options resolve to whatever listing stands in for a source exactly if none is chosen. -/
theorem resolveOr_eq_fallback_iff {options : Options} :
    (∀ fallback, options.resolveOr fallback = (.url fallback, .listing)) ↔
      options.chosen? = none := by
  unfold resolveOr
  cases options.chosen? with
  | none => simp
  | some pair =>
      constructor
      · intro every
        have same : Source.url "one" = .url "other" :=
          congrArg Prod.fst ((every "one").symm.trans (every "other"))
        exact absurd (Source.url.inj same) (by decide)
      · intro impossible
        cases impossible

theorem isSome_get_mergeAll_iff :
    ((mergeAll layers).get field).isSome ↔ ∃ layer ∈ layers, (layer.get field).isSome := by
  rw [get_mergeAll, List.findSome?_isSome_iff]
  simp only [List.mem_reverse]

/-- A file is read exactly if one of the two files is set. -/
theorem exists_resolve_file_iff {options : Options} :
    (∃ path, options.resolve.1 = .file path) ↔
      options.restFile.isSome ∨ options.serviceFile.isSome := by
  obtain ⟨serviceFile, serviceUrl, restFile, restUrl, apiKey⟩ := options
  unfold resolve
  cases restFile <;> cases serviceFile <;> cases restUrl <;> simp

/-- The document of a single API is read exactly if a field that holds one is chosen. -/
theorem resolve_eq_api_iff :
    (mergeAll layers).resolve.2 = .api ↔
      ∃ field value, Chosen layers field value ∧ field.isRest := by
  simp only [← chosen?_mergeAll_eq_some_iff, resolve_eq_resolveOr, resolveOr]
  cases (mergeAll layers).chosen? with
  | none => simp
  | some pair =>
      obtain ⟨field, value⟩ := pair
      cases field <;> simp [Field.kind, Field.isRest]

/--
Layers merge to the same options in every grouping, in which each field has the
value of the last layer that sets it.  The source is the last value of the first
field by rank that any layer sets, and that field tells how its document is
understood; if there is no such field, the public listing stands in for it.
-/
theorem layers_resolve_by_rank (layers : List Options) :
    (∀ grouping : Grouping layers, grouping.merged = mergeAll layers) ∧
    (∀ first second third : Options,
      (first.merge second).merge third = first.merge (second.merge third)) ∧
    (∀ options : Options, merge {} options = options ∧ options.merge {} = options) ∧
    (∀ field value, (mergeAll layers).get field = some value ↔ LastSets layers field value) ∧
    ((∃ path, (mergeAll layers).resolve.1 = .file path) ↔
      ∃ layer ∈ layers, layer.restFile.isSome ∨ layer.serviceFile.isSome) ∧
    ((mergeAll layers).resolve.2 = .api ↔
      ∃ field value, Chosen layers field value ∧ field.isRest) ∧
    ((∃ field value, Chosen layers field value) ↔
      ¬ ∀ field ∈ Field.ranked, LeavesOpen layers field) ∧
    (∀ field value, Chosen layers field value →
      (mergeAll layers).resolve = (field.source value, field.kind)) ∧
    (mergeAll layers).resolve = (mergeAll layers).resolveOr defaultServiceUrl ∧
    ((∀ fallback, (mergeAll layers).resolveOr fallback = (.url fallback, .listing)) ↔
      ∀ field ∈ Field.ranked, LeavesOpen layers field) := by
  refine ⟨Grouping.merged_eq, merge_assoc, ?_, ?_, ?_, resolve_eq_api_iff, exists_chosen_iff, ?_,
    resolve_eq_resolveOr _, ?_⟩
  · exact fun options => ⟨empty_merge options, merge_empty options⟩
  · exact fun field value => get_mergeAll_eq_some_iff
  · rw [exists_resolve_file_iff]
    change ((mergeAll layers).get .restFile).isSome ∨
      ((mergeAll layers).get .serviceFile).isSome ↔ _
    rw [isSome_get_mergeAll_iff, isSome_get_mergeAll_iff, ← exists_or]
    refine exists_congr fun layer => ?_
    rw [← and_or_left]
    rfl
  · exact fun field value => resolve_of_chosen
  · rw [resolveOr_eq_fallback_iff, chosen?_mergeAll_eq_none_iff]

/-- A file set early wins over an address set late, and a late file over an early one. -/
example : (mergeAll [{ restUrl := some "https://x/rest", serviceFile := some "old" },
      { serviceFile := some "new" }, { restUrl := some "https://y/rest" }]).resolve =
    (.file "new", .listing) := by decide

end ApiDiscovery.Options
