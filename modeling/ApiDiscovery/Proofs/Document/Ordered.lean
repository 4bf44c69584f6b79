import ApiDiscovery.Proofs.Document.Shape
import ApiDiscovery.Proofs.Document.Streaming
import ApiDiscovery.Proofs.ResourceTree

/-!
# Decoded trees are ordered

Tables keep the order of the objects that they are read from, and the objects of
a parsed value are in the order of their names; a table read straight from text
is put in this order.  So on either way from a text to a resource tree the names
increase at every node.
-/

namespace ApiDiscovery

open Json

/-! ## Trees from values -/

section

variable {α : Type} {Spells : Json → α → Prop}

theorem SpellsEntries.aligned {members : List (String × Json)} {table : NameTable α}
    (entries : SpellsEntries Spells members table) :
    NameTable.Aligned (fun _ value entry => Spells value entry) members table := by
  induction entries with
  | nil => exact .nil
  | cons name first rest ih => exact .cons ⟨rfl, first⟩ ih

theorem SpellsTable.ordered {given : Option Json} {table : NameTable α}
    (spelled : SpellsTable Spells given table)
    (ordered : ∀ value, given = some value → value.Ordered) : table.Ordered := by
  cases spelled with
  | absent => exact .nil
  | object entries =>
      rw [NameTable.ordered_iff, entries.aligned.names_eq]
      exact NameTable.ordered_iff.1 (ordered_object_iff.1 (ordered _ rfl)).1

end

namespace ResourceTree

/-- The trees and the tables of trees that an ordered value spells are ordered at every depth. -/
theorem ordered_of_spells {value : Json} (ordered : value.Ordered) :
    (∀ tree, SpellsResource value tree → tree.Ordered) ∧
      ∀ table, SpellsTable SpellsResource (some value) table → ∀ pair ∈ table, pair.2.Ordered := by
  -- As for the reading itself, a resource holds a table and the table holds resources.
  induction value using Json.induction_on_parts with
  | step value items members =>
      constructor
      · intro tree spelled
        cases spelled with
        | @node _ inner methods resources given own beneath =>
            have inside : ∀ pair ∈ inner, pair.2.Ordered ∧
                ∀ table, SpellsTable SpellsResource (some pair.2) table →
                  ∀ entry ∈ table, entry.2.Ordered := by
              refine forall_of_givenBy (P := fun part => part.Ordered ∧
                ∀ table, SpellsTable SpellsResource (some part) table →
                  ∀ entry ∈ table, entry.2.Ordered) given ?_ ?_
              · rintro list rfl item member
                have part := ordered_array_iff.1 ordered item member
                exact ⟨part, (items list rfl item member part).2⟩
              · rintro list rfl pair member
                have part := (ordered_object_iff.1 ordered).2 pair member
                exact ⟨part, (members list rfl pair member part).2⟩
            refine ordered_node_iff.2 ⟨?_, ?_, ?_⟩
            · exact own.ordered fun value found => (inside _ (NameTable.mem_of_get? found)).1
            · exact beneath.ordered fun value found => (inside _ (NameTable.mem_of_get? found)).1
            · cases found : NameTable.get? inner "resources" with
              | none => exact spellsTable_none_iff.1 (found ▸ beneath) ▸ List.forall_mem_nil _
              | some value =>
                  exact (inside _ (NameTable.mem_of_get? found)).2 _ (found ▸ beneath)
      · intro table spelled pair member
        cases spelled with
        | @object list _ entries =>
            obtain ⟨inner, found, spelled⟩ := entries.aligned.of_mem_right member
            have part := (ordered_object_iff.1 ordered).2 _ found
            exact (members list rfl _ found part).1 _ spelled

theorem ordered_of_ofJson {value : Json} (ordered : value.Ordered)
    {tree : ResourceTree MethodDeclaration} (decoded : ofJson value = .ok tree) : tree.Ordered :=
  (ordered_of_spells ordered).1 tree (((ofJson_eq_ok_iff ordered).1 tree).1 decoded)

end ResourceTree

/-- The tree of an API whose description is parsed from text is ordered. -/
theorem ApiDescription.root_ordered {text : String} {value : Json} {api : ApiDescription}
    (parsed : Json.parse text = .ok value) (described : ofJson value = .ok api) :
    api.root.Ordered :=
  ResourceTree.ordered_of_ofJson (Json.parse_ordered parsed) (root_of_ofJson described)

/-! ## Trees straight from text -/

namespace Json.Stream

section

variable {σ : Type}

/-- What holds of a record still holds once this field is read into it. -/
def Field.Keeps (field : Field σ) (Inv : σ → Prop) : Prop :=
  ∀ ⦃record next text rest⦄, Inv record → field.read record text = .ok (next, rest) → Inv next

variable {Inv : σ → Prop} {fields : List (Field σ)} {text rest : List Char} {record final : σ}

theorem readItems_keeps (keeps : ∀ field ∈ fields, field.Keeps Inv) {first : Bool}
    (holds : Inv record) (read : readItems first fields record text = .ok (final, rest)) :
    Inv final := by
  induction fields generalizing first record text with
  | nil =>
      rw [readItems] at read
      obtain ⟨after, closed, same⟩ := except_map_eq_ok_iff.1 read
      cases same
      exact holds
  | cons field fields ih =>
      obtain ⟨own, others⟩ := List.forall_mem_cons.1 keeps
      rcases readItems_cons_eq_ok read with ⟨_, rfl⟩ | ⟨itemText, next, behind, _, done, later⟩
      · exact holds
      · exact ih others (own holds done) later

theorem readMembers_keeps (keeps : ∀ field ∈ fields, field.Keeps Inv) {bound : Nat} {first : Bool}
    {seen : List String} (holds : Inv record)
    (read : readMembers fields bound first seen record text = .ok (final, rest)) : Inv final := by
  induction bound generalizing first seen record text with
  | zero => cases read
  | succ bound ih =>
      rcases readMembers_eq_ok read with ⟨_, rfl⟩ | ⟨name, valueText, behind, _, step⟩
      · exact holds
      · rcases step with ⟨_, _, later⟩ | ⟨field, next, found, _, done, later⟩
        · exact ih holds later
        · exact ih (keeps field (List.mem_of_find?_eq_some found) holds done) later

theorem readRecord_keeps (keeps : ∀ field ∈ fields, field.Keeps Inv) {title : String}
    (holds : Inv record) (read : readRecord title (some fields) record text = .ok (final, rest)) :
    Inv final := by
  rw [readRecord] at read
  split at read
  · exact readItems_keeps keeps holds read
  · exact readMembers_keeps keeps holds read
  · cases read

end

theorem readTable_ordered {α : Type} {P : α → Prop} {entry : Reader α} {text rest : List Char}
    {table : NameTable α}
    (each : ∀ ⦃text content rest⦄, entry text = .ok (content, rest) → P content)
    (read : readTable (some entry) text = .ok (table, rest)) :
    table.Ordered ∧ ∀ pair ∈ table, P pair.2 := by
  rw [readTable] at read
  split at read
  · obtain ⟨⟨pairs, after⟩, done, same⟩ := except_map_eq_ok_iff.1 read
    cases same
    refine ⟨NameTable.ordered_ofList pairs, ?_⟩
    intro pair member
    exact forall_of_readMembers (fun entered => each entered) done pair
      (NameTable.mem_of_mem_ofList member)
  · cases read

end Json.Stream

namespace ResourceTree

theorem readMethodsWithin_ordered (levels : Nat) ⦃text : List Char⦄
    ⦃table : NameTable MethodDeclaration⦄ ⦃rest : List Char⦄
    (read : readMethodsWithin levels text = .ok (table, rest)) : table.Ordered := by
  cases levels with
  | zero => exact absurd read Stream.readTable_none_ne_ok
  | succ levels =>
      exact (Stream.readTable_ordered (P := fun _ => True) (fun _ _ _ _ => trivial) read).1

/-- A resource stays ordered if only ordered tables enter it. -/
theorem streamFields_keep {methods : Reader (NameTable MethodDeclaration)}
    {resources : Reader (NameTable (ResourceTree MethodDeclaration))}
    (own : ∀ ⦃text table rest⦄, methods text = .ok (table, rest) → table.Ordered)
    (beneath : ∀ ⦃text table rest⦄, resources text = .ok (table, rest) →
      table.Ordered ∧ ∀ pair ∈ table, pair.2.Ordered) :
    ∀ field ∈ streamFields methods resources, field.Keeps Ordered := by
  intro field member tree next text rest ordered read
  cases tree with
  | node ownMethods ownResources =>
      obtain ⟨orderedMethods, orderedResources, each⟩ := ordered_node_iff.1 ordered
      rcases List.mem_cons.1 member with rfl | later
      · obtain ⟨⟨table, after⟩, done, same⟩ := except_map_eq_ok_iff.1 read
        cases same
        exact ordered_node_iff.2 ⟨own done, orderedResources, each⟩
      · cases List.mem_singleton.1 later
        obtain ⟨⟨table, after⟩, done, same⟩ := except_map_eq_ok_iff.1 read
        cases same
        exact ordered_node_iff.2 ⟨orderedMethods, beneath done⟩

/-- However many levels are left, resources and tables of them come out ordered. -/
theorem readWithin_ordered (levels : Nat) :
    (∀ ⦃text tree rest⦄, readWithin levels text = .ok (tree, rest) → tree.Ordered) ∧
      ∀ ⦃text table rest⦄, readResourcesWithin levels text = .ok (table, rest) →
        table.Ordered ∧ ∀ pair ∈ table, pair.2.Ordered := by
  induction levels with
  | zero =>
      constructor
      · intro text tree rest read
        rw [readWithin] at read
        exact absurd read Stream.readRecord_none_ne_ok
      · intro text table rest read
        rw [readResourcesWithin] at read
        exact absurd read Stream.readTable_none_ne_ok
  | succ levels ih =>
      obtain ⟨each, beneath⟩ := ih
      constructor
      · intro text tree rest read
        rw [readWithin] at read
        have keep := streamFields_keep (readMethodsWithin_ordered levels) beneath
        exact Stream.readRecord_keeps keep ordered_empty read
      · intro text table rest read
        rw [readResourcesWithin] at read
        exact Stream.readTable_ordered each read

/-- The tree that a text gives directly is ordered. -/
theorem parse_ordered {text : String} {tree : ResourceTree MethodDeclaration}
    (direct : parse text = .ok tree) : tree.Ordered := by
  rw [parse] at direct
  split at direct
  · next done =>
      cases direct
      obtain ⟨rest, read⟩ := complete_eq_ok done
      exact (readWithin_ordered nestingLimit).1 read
  · cases direct

end ResourceTree

end ApiDiscovery
