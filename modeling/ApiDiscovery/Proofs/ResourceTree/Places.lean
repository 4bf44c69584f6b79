import ApiDiscovery.Proofs.ResourceTree

/-!
# Places of methods

Where the methods of a tree stand: each under the chain of resource names that
leads to it.  `places` lists them depth first, those of a node before those
beneath it.  In an ordered tree this is an order of the names alone, no place is
listed twice, and the places are those that can be reached.
-/

namespace ApiDiscovery

/-- A method with its name and the names of the resources that lead to it. -/
structure Place (α : Type) where
  chain : List String
  name : String
  method : α

namespace Place

variable {α : Type}

/-- The place seen from above a resource. -/
def under (resource : String) (place : Place α) : Place α :=
  { place with chain := resource :: place.chain }

def names (place : Place α) : List String := place.chain ++ [place.name]

def path (place : Place α) : String := ".".intercalate place.names

theorem names_ne_nil (place : Place α) : place.names ≠ [] :=
  List.append_ne_nil_of_right_ne_nil _ (List.cons_ne_nil _ _)

theorem names_under (resource : String) (place : Place α) :
    (place.under resource).names = resource :: place.names := rfl

theorem path_of_root (name : String) (method : α) : (Place.mk [] name method).path = name :=
  String.intercalate_singleton

theorem path_under (resource : String) (place : Place α) :
    (place.under resource).path = resource ++ "." ++ place.path :=
  String.intercalate_cons_of_ne_nil place.names_ne_nil

/--
One place comes before another: of two at the same node the one of the lesser
name, and a node's own methods before those of its resources, which are taken
in the order of their names.
-/
inductive Precedes : Place α → Place α → Prop where
  | own {first second : String} (one other : α) (less : first < second) :
      Precedes ⟨[], first, one⟩ ⟨[], second, other⟩
  | ownFirst (name : String) (one : α) (resource : String) (place : Place α) :
      Precedes ⟨[], name, one⟩ (place.under resource)
  | resource {first second : String} (place other : Place α) (less : first < second) :
      Precedes (place.under first) (other.under second)
  | beneath (resource : String) {place other : Place α} (precedes : Precedes place other) :
      Precedes (place.under resource) (other.under resource)

/-- Places of which one comes before the other have different names on the way to them. -/
theorem Precedes.names_ne {place other : Place α} (precedes : Precedes place other) :
    place.names ≠ other.names := by
  induction precedes with
  | own one other less =>
      intro same
      exact String.ne_of_lt less (List.singleton_inj.1 same)
  | ownFirst name one resource place =>
      intro same
      rw [names_under] at same
      exact place.names_ne_nil (List.cons.inj same).2.symm
  | resource place other less =>
      intro same
      exact String.ne_of_lt less (List.cons.inj same).1
  | beneath resource precedes ih =>
      intro same
      exact ih (List.cons.inj same).2

end Place

namespace ResourceTree

variable {α : Type}

mutual

def places : ResourceTree α → List (Place α)
  | .node methods resources =>
      methods.map (fun (name, method) => ⟨[], name, method⟩) ++ placesAll resources

def placesAll : List (String × ResourceTree α) → List (Place α)
  | [] => []
  | (name, tree) :: rest => (places tree).map (Place.under name) ++ placesAll rest

end

theorem placesAll_eq_flatMap (resources : List (String × ResourceTree α)) :
    placesAll resources =
      resources.flatMap fun pair => (places pair.2).map (Place.under pair.1) := by
  induction resources with
  | nil => rw [placesAll]; rfl
  | cons head rest ih => rw [placesAll, ih]; rfl

theorem mem_places_node_iff {methods : List (String × α)}
    {resources : List (String × ResourceTree α)} {place : Place α} :
    place ∈ places (.node methods resources) ↔
      (∃ pair ∈ methods, place = ⟨[], pair.1, pair.2⟩) ∨
        ∃ pair ∈ resources, ∃ inner ∈ places pair.2, place = inner.under pair.1 := by
  simp only [places, placesAll_eq_flatMap, List.mem_append, List.mem_map, List.mem_flatMap, eq_comm]

/-! ## Reaching a place -/

def IsAt (tree : ResourceTree α) (place : Place α) : Prop :=
  ∃ node, tree.descend place.chain = some node ∧ node.method? place.name = some place.method

theorem isAt_root_iff {tree : ResourceTree α} {name : String} {method : α} :
    tree.IsAt ⟨[], name, method⟩ ↔ tree.method? name = some method := by
  simp [IsAt]

theorem isAt_under_iff {tree : ResourceTree α} {resource : String} {place : Place α} :
    tree.IsAt (place.under resource) ↔
      ∃ child, tree.resource? resource = some child ∧ child.IsAt place := by
  constructor
  · rintro ⟨node, reached, found⟩
    obtain ⟨child, here, further⟩ := descend_cons_eq_some_iff.1 reached
    exact ⟨child, here, node, further, found⟩
  · rintro ⟨child, here, node, further, found⟩
    exact ⟨node, descend_cons_eq_some_iff.2 ⟨child, here, further⟩, found⟩

/-- Whatever can be reached is listed. -/
theorem mem_places_of_isAt {tree : ResourceTree α} {place : Place α} (isAt : tree.IsAt place) :
    place ∈ places tree := by
  obtain ⟨chain, name, method⟩ := place
  induction chain generalizing tree with
  | nil =>
      cases tree with
      | node methods resources =>
          have found := NameTable.mem_of_get? (isAt_root_iff.1 isAt)
          exact mem_places_node_iff.2 (.inl ⟨_, found, rfl⟩)
  | cons resource chain ih =>
      cases tree with
      | node methods resources =>
          have isAtUnder :
              (node methods resources).IsAt (Place.under resource ⟨chain, name, method⟩) := isAt
          obtain ⟨child, here, further⟩ := isAt_under_iff.1 isAtUnder
          exact mem_places_node_iff.2
            (.inr ⟨_, NameTable.mem_of_get? here, _, ih further, rfl⟩)

/-- In an ordered tree no method hides another, so what is listed can be reached. -/
theorem isAt_of_mem_places {tree : ResourceTree α} (ordered : tree.Ordered) {place : Place α}
    (member : place ∈ places tree) : tree.IsAt place := by
  induction tree generalizing place with
  | node methods resources ih =>
      obtain ⟨orderedMethods, orderedResources, each⟩ := ordered_node_iff.1 ordered
      rcases mem_places_node_iff.1 member with
        ⟨pair, found, rfl⟩ | ⟨pair, found, inner, listed, rfl⟩
      · exact isAt_root_iff.2 (NameTable.get?_of_mem orderedMethods found)
      · have reached := ih pair found (each pair found) listed
        exact isAt_under_iff.2
          ⟨pair.2, NameTable.get?_of_mem orderedResources found, reached⟩

theorem mem_places_iff {tree : ResourceTree α} (ordered : tree.Ordered) {place : Place α} :
    place ∈ places tree ↔ tree.IsAt place :=
  ⟨isAt_of_mem_places ordered, mem_places_of_isAt⟩

/-! ## The order of the places -/

/-- The places of an ordered tree are listed in their order. -/
theorem pairwise_precedes_places {tree : ResourceTree α} (ordered : tree.Ordered) :
    (places tree).Pairwise Place.Precedes := by
  induction tree with
  | node methods resources ih =>
      obtain ⟨orderedMethods, orderedResources, each⟩ := ordered_node_iff.1 ordered
      rw [places, placesAll_eq_flatMap, List.pairwise_append, List.pairwise_flatMap]
      refine ⟨?_, ⟨?_, ?_⟩, ?_⟩
      · exact List.Pairwise.map _ (fun left right less => .own _ _ less) orderedMethods
      · intro pair member
        have inner := ih pair member (each pair member)
        exact List.Pairwise.map _ (fun place other => .beneath pair.1) inner
      · refine List.Pairwise.imp ?_ orderedResources
        intro left right less place placed other otherPlaced
        obtain ⟨inner, _, rfl⟩ := List.mem_map.1 placed
        obtain ⟨innerOther, _, rfl⟩ := List.mem_map.1 otherPlaced
        exact .resource _ _ less
      · intro place placed other otherPlaced
        obtain ⟨pair, _, rfl⟩ := List.mem_map.1 placed
        obtain ⟨resource, _, otherInside⟩ := List.mem_flatMap.1 otherPlaced
        obtain ⟨inner, _, rfl⟩ := List.mem_map.1 otherInside
        exact .ownFirst _ _ _ _

/-! ## Paths -/

/-- The paths listed behind a leading text are those of the places. -/
theorem pathsUnder_eq_map_places (lead : String) (tree : ResourceTree α) :
    pathsUnder lead tree = (places tree).map fun place => lead ++ place.path := by
  induction tree generalizing lead with
  | node methods resources ih =>
      have beneath : pathsUnderAll lead resources =
          (placesAll resources).map fun place => lead ++ place.path := by
        induction resources with
        | nil => simp [pathsUnderAll, placesAll]
        | cons head rest ihRest =>
            obtain ⟨name, tree⟩ := head
            rw [pathsUnderAll, placesAll, List.map_append, List.map_map,
              ih _ List.mem_cons_self,
              ihRest fun pair member => ih pair (List.mem_cons_of_mem _ member)]
            simp only [Function.comp_def, Place.path_under, String.append_assoc]
      rw [pathsUnder, places, List.map_append, List.map_map, beneath]
      simp only [Function.comp_def, Place.path_of_root]

/-- The listed paths are those of the places, in another order. -/
theorem methodPaths_perm (tree : ResourceTree α) :
    tree.methodPaths.Perm ((places tree).map Place.path) := by
  refine (List.mergeSort_perm _ _).trans ?_
  rw [pathsUnder_eq_map_places]
  simp only [String.empty_append]
  exact .refl _

end ResourceTree

end ApiDiscovery
