import ApiDiscovery.Proofs.Compile.Paths

/-!
# Counting and listing

The methods of a declared tree, those of the tree compiled from it and the paths
that it lists are equally many.  The paths are listed in the order of their
octets, one for each declared method, so a path that two methods share is listed
twice.
-/

namespace ApiDiscovery

/-- Encoding keeps the order of texts, equal ones included. -/
theorem Text.Utf8.encode_le_encode {left right : String} (le : left ≤ right) :
    encode left.toList ≤ encode right.toList := by
  intro greater
  rcases NameTable.name_lt_or_eq_or_gt left right with less | rfl | more
  · exact List.lt_asymm (encode_lt_encode less) greater
  · exact List.lt_irrefl _ greater
  · exact String.not_lt.2 le more

namespace ResourceTree

/-! ## One tree -/

section

variable {α : Type}

theorem length_methodPaths (tree : ResourceTree α) :
    tree.methodPaths.length = tree.methodCount := by
  rw [methodPaths, List.length_mergeSort, length_pathsUnder]

theorem length_places (tree : ResourceTree α) : (places tree).length = tree.methodCount := by
  rw [← length_pathsUnder "", pathsUnder_eq_map_places, List.length_map]

/-- Paths are listed in the order of their octets. -/
theorem pairwise_octets_methodPaths (tree : ResourceTree α) :
    tree.methodPaths.Pairwise fun left right =>
      Text.Utf8.encode left.toList ≤ Text.Utf8.encode right.toList := by
  have sorted : tree.methodPaths.Pairwise fun left right => decide (left ≤ right) = true := by
    apply List.pairwise_mergeSort
    · intro first second third less more
      exact decide_eq_true (String.le_trans (of_decide_eq_true less) (of_decide_eq_true more))
    · intro first second
      rw [Bool.or_eq_true, decide_eq_true_iff, decide_eq_true_iff]
      exact String.le_total first second
  exact sorted.imp fun le => Text.Utf8.encode_le_encode (of_decide_eq_true le)

/-- In an ordered tree no two places have the same names. -/
theorem nodup_names_places {tree : ResourceTree α} (ordered : tree.Ordered) :
    ((places tree).map Place.names).Nodup :=
  List.pairwise_map.2 ((pairwise_precedes_places ordered).imp Place.Precedes.names_ne)

theorem map_names_places_node (methods : List (String × α))
    (resources : List (String × ResourceTree α)) :
    (places (.node methods resources)).map Place.names =
      (NameTable.names methods).map (fun name => [name]) ++ resources.flatMap fun pair =>
        ((places pair.2).map Place.names).map fun names => pair.1 :: names := by
  rw [places, placesAll_eq_flatMap, List.map_append, List.map_flatMap, NameTable.names,
    List.map_map, List.map_map]
  simp only [List.map_map]
  rfl

end

/-! ## A compiled tree -/

variable {binding : Binding} {declared : ResourceTree MethodDeclaration}
  {tree : ResourceTree ApiMethod}

/-- A compiled tree has its methods in the places of the declared ones. -/
theorem map_names_places_of_compile (compiled : (compile binding declared).result = .ok tree) :
    (places tree).map Place.names = (places declared).map Place.names := by
  induction declared generalizing tree with
  | node methods resources ih =>
      obtain ⟨ownMethods, ownResources, methodsAligned, resourcesAligned, rfl⟩ :=
        compile_node_result_eq_ok_iff.1 compiled
      clear compiled
      rw [map_names_places_node, map_names_places_node, methodsAligned.names_eq]
      congr 1
      induction resourcesAligned with
      | nil => rfl
      | @cons head inner _ _ first rest ihRest =>
          rw [List.flatMap_cons, List.flatMap_cons, first.1,
            ih _ List.mem_cons_self first.2,
            ihRest fun pair member => ih pair (List.mem_cons_of_mem _ member)]

theorem map_path_places_of_compile (compiled : (compile binding declared).result = .ok tree) :
    (places tree).map Place.path = (places declared).map Place.path := by
  have joined {α : Type} (all : List (Place α)) :
      all.map Place.path = (all.map Place.names).map fun names => ".".intercalate names := by
    rw [List.map_map]
    rfl
  rw [joined, joined, map_names_places_of_compile compiled]

theorem methodCount_of_compile (compiled : (compile binding declared).result = .ok tree) :
    tree.methodCount = declared.methodCount := by
  have lengths := congrArg List.length (map_names_places_of_compile compiled)
  rwa [List.length_map, List.length_map, length_places, length_places] at lengths

end ResourceTree

/--
A compiled tree counts as many methods as the declared one and lists as many
paths, in the order of their octets.  These are the paths of the declared
methods, each of which stands in one place and is listed once for it, whether or
not another one shares its path.
-/
theorem methodPaths_lists_declared (binding : Binding) (declared : ResourceTree MethodDeclaration)
    (ordered : declared.Ordered) (tree : ResourceTree ApiMethod)
    (compiled : (declared.compile binding).result = .ok tree) :
    tree.methodCount = declared.methodCount ∧
    tree.methodPaths.length = declared.methodCount ∧
    tree.methodPaths.Pairwise (fun left right =>
      Text.Utf8.encode left.toList ≤ Text.Utf8.encode right.toList) ∧
    tree.methodPaths.Perm (declared.places.map Place.path) ∧
    (∀ place, place ∈ declared.places ↔ declared.IsAt place) ∧
    (declared.places.map Place.names).Nodup := by
  have counts := ResourceTree.methodCount_of_compile compiled
  refine ⟨counts, ?_, tree.pairwise_octets_methodPaths, ?_,
    fun place => ResourceTree.mem_places_iff ordered, ResourceTree.nodup_names_places ordered⟩
  · rw [tree.length_methodPaths, counts]
  · rw [← ResourceTree.map_path_places_of_compile compiled]
    exact tree.methodPaths_perm

/-- Two of the three methods share a path, which is listed for each of them. -/
theorem methodPaths_lists_dottedDeclaration :
    dottedDeclaration.Ordered ∧
      ∃ tree, (dottedDeclaration.compile ⟨none, "https://x/"⟩).result = .ok tree ∧
        tree.methodCount = 3 ∧ tree.methodPaths.length = 3 ∧
        tree.methodPaths.Perm ["a.b", "list.all", "a.b"] := by
  have ordered : dottedDeclaration.Ordered := by decide
  obtain ⟨counts, lengths, _, listed, _⟩ :=
    methodPaths_lists_declared ⟨none, "https://x/"⟩ dottedDeclaration ordered _ rfl
  have paths : dottedDeclaration.places.map Place.path = ["a.b", "list.all", "a.b"] := by decide
  exact ⟨ordered, _, rfl, counts, lengths, paths ▸ listed⟩

end ApiDiscovery
