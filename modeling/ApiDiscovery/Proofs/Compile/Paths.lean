import ApiDiscovery.Proofs.Compile.Mirror
import ApiDiscovery.Proofs.Lookup

/-!
# Paths of compiled methods

A compiled tree lists every declared method under the names on the way to it,
joined with dots.  Names are kept as they are declared, so one may hold a dot
itself; the path is then cut inside that name and leads elsewhere or nowhere.
A listed path leads back to its method exactly when no name on the way holds a
dot, and such methods never share a path.
-/

namespace ApiDiscovery

namespace ResourceTree

variable {binding : Binding} {declared : ResourceTree MethodDeclaration}
  {tree : ResourceTree ApiMethod}

theorem ordered_of_compile (ordered : declared.Ordered)
    (compiled : (compile binding declared).result = .ok tree) : tree.Ordered := by
  induction declared generalizing tree with
  | node methods resources ih =>
      obtain ⟨orderedMethods, orderedResources, each⟩ := ordered_node_iff.1 ordered
      obtain ⟨ownMethods, ownResources, methodsAligned, resourcesAligned, rfl⟩ :=
        compile_node_result_eq_ok_iff.1 compiled
      refine ordered_node_iff.2 ⟨?_, ?_, ?_⟩
      · rw [NameTable.ordered_iff, methodsAligned.names_eq]
        exact NameTable.ordered_iff.1 orderedMethods
      · rw [NameTable.ordered_iff, resourcesAligned.names_eq]
        exact NameTable.ordered_iff.1 orderedResources
      · intro pair member
        obtain ⟨inner, found, done⟩ := resourcesAligned.of_mem_right member
        exact ih _ found (each _ found) done

/-- The methods of a compiled tree are the declared ones, each where it was declared. -/
theorem isAt_compiled_iff (compiled : (compile binding declared).result = .ok tree)
    {place : Place ApiMethod} :
    tree.IsAt place ↔ ∃ own, declared.IsAt ⟨place.chain, place.name, own⟩ ∧
      ApiMethod.compile binding place.name own = .ok place.method := by
  constructor
  · rintro ⟨inner, reached, found⟩
    obtain ⟨node, known, innerCompiled⟩ := exists_descend_of_compiled compiled reached
    cases node with
    | node methods resources =>
        obtain ⟨_, _, aligned, _, rfl⟩ := compile_node_result_eq_ok_iff.1 innerCompiled
        obtain ⟨own, ownFound, done⟩ := aligned.get?_right found
        exact ⟨own, ⟨_, known, ownFound⟩, done⟩
  · rintro ⟨own, ⟨node, known, ownFound⟩, done⟩
    obtain ⟨inner, reached, innerCompiled⟩ := exists_descend_of_declared compiled known
    cases node with
    | node methods resources =>
        obtain ⟨_, _, aligned, _, rfl⟩ := compile_node_result_eq_ok_iff.1 innerCompiled
        obtain ⟨method, found, again⟩ := aligned.get?_left ownFound
        rw [done] at again
        exact ⟨_, reached, Except.ok.inj again ▸ found⟩

end ResourceTree

/--
A compiled tree lists each of its methods, which are the declared ones, under
the names on the way to it.  That path leads back to the method exactly when no
name on the way holds a dot, and then no other such method is listed under it.
-/
theorem listed_path_leads_back_iff (binding : Binding) (declared : ResourceTree MethodDeclaration)
    (ordered : declared.Ordered) (tree : ResourceTree ApiMethod)
    (compiled : (declared.compile binding).result = .ok tree) :
    (∀ place, place ∈ tree.places ↔ ∃ own, declared.IsAt ⟨place.chain, place.name, own⟩ ∧
      ApiMethod.compile binding place.name own = .ok place.method) ∧
    tree.methodPaths.Perm (tree.places.map Place.path) ∧
    (∀ place ∈ tree.places, tree.Leads place.path place ↔ place.DotFree) ∧
    (∀ place ∈ tree.places, place.DotFree → tree.lookup place.path = some place.method) ∧
    (∀ place ∈ tree.places, ∀ other ∈ tree.places, place.DotFree → other.DotFree →
      place.path = other.path → place = other) ∧
    ((∀ place ∈ tree.places, place.DotFree) → tree.methodPaths.Nodup) := by
  have treeOrdered := ResourceTree.ordered_of_compile ordered compiled
  have reached (place : Place ApiMethod) : place ∈ tree.places ↔ tree.IsAt place :=
    ResourceTree.mem_places_iff treeOrdered
  refine ⟨?_, ResourceTree.methodPaths_perm tree, ?_, ?_, ?_, ?_⟩
  · intro place
    rw [reached, ResourceTree.isAt_compiled_iff compiled]
  · intro place member
    exact ResourceTree.leads_path_iff ((reached place).1 member)
  · intro place member free
    exact ResourceTree.lookup_of_leads
      ((ResourceTree.leads_path_iff ((reached place).1 member)).2 free)
  · intro place member other otherMember free otherFree same
    exact ResourceTree.eq_of_path_eq ((reached place).1 member) ((reached other).1 otherMember)
      free otherFree same
  · intro free
    exact ResourceTree.nodup_methodPaths treeOrdered fun place isAt =>
      free place ((reached place).2 isAt)

theorem listed_path_leads_back_in_filesDeclaration :
    filesDeclaration.Ordered ∧
      ∃ tree, (filesDeclaration.compile ⟨none, "https://x/"⟩).result = .ok tree ∧
        ∃ place ∈ tree.places, place.path = "files.copy" ∧ place.DotFree ∧
          tree.lookup place.path = some place.method ∧ tree.methodPaths.Nodup := by
  have ordered : filesDeclaration.Ordered := by decide
  let copy : Place ApiMethod :=
    ⟨["files"], "copy", ⟨"$copy", "POST", "files/x", ⟨none, "https://x/"⟩⟩⟩
  let list : Place ApiMethod := ⟨[], "list", ⟨"$list", "GET", "files", ⟨none, "https://x/"⟩⟩⟩
  obtain ⟨_, _, _, found, _, nodup⟩ :=
    listed_path_leads_back_iff ⟨none, "https://x/"⟩ filesDeclaration ordered _ rfl
  have copyFree : copy.DotFree := by unfold Place.DotFree; decide
  have listFree : list.DotFree := by unfold Place.DotFree; decide
  refine ⟨ordered, _, rfl, copy, .tail _ (.head _), by decide, copyFree,
    found copy (.tail _ (.head _)) copyFree, nodup ?_⟩
  intro place member
  rcases List.mem_cons.1 member with rfl | later
  · exact listFree
  · rw [List.mem_singleton.1 later]
    exact copyFree

/-- Two methods with a dot in their names, and one that stands where the first one's path leads. -/
def dottedDeclaration : ResourceTree MethodDeclaration :=
  .node [("a.b", { path := some "one", httpMethod := some "GET" }),
      ("list.all", { path := some "all", httpMethod := some "GET" })]
    [("a", .node [("b", { path := some "two", httpMethod := some "GET" })] [])]

/-- One of them is listed and not found, the other one shares its path and another is found. -/
theorem dotted_paths_lead_astray :
    dottedDeclaration.Ordered ∧
      ∃ tree, (dottedDeclaration.compile ⟨none, "https://x/"⟩).result = .ok tree ∧
        tree.method? "list.all" = some ⟨"$listall", "GET", "all", ⟨none, "https://x/"⟩⟩ ∧
        "list.all" ∈ tree.methodPaths ∧ tree.lookup "list.all" = none ∧
        tree.method? "a.b" = some ⟨"$ab", "GET", "one", ⟨none, "https://x/"⟩⟩ ∧
        tree.lookup "a.b" = some ⟨"$b", "GET", "two", ⟨none, "https://x/"⟩⟩ ∧
        ¬ tree.methodPaths.Nodup := by
  refine ⟨by decide, _, rfl, by decide, ?_, by decide, by decide, by decide, ?_⟩
  · refine ResourceTree.mem_methodPaths_iff.2 ⟨_, .tail _ (.head _), ?_⟩
    exact Place.path_of_root _ _
  · rw [(ResourceTree.methodPaths_perm _).nodup_iff]
    decide

end ApiDiscovery
