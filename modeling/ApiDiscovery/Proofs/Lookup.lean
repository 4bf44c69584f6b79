import ApiDiscovery.Generate
import ApiDiscovery.Proofs.ResourceTree.Places
import ApiDiscovery.Proofs.Text.Pieces

/-!
# Dotted paths

A method is looked up by cutting its path at the last dot and the rest at every
dot, and listed by putting names together from the root down.  Looking up is
following the components of the path, so whatever is found is listed; the
converse needs names without dots, as a name that holds one is taken apart again.
-/

namespace ApiDiscovery

/-! ## Components -/

/-- These names are what the dots of a path stand between. -/
structure Components (path : String) (names : List String) : Prop where
  free : ∀ name ∈ names, '.' ∉ name.toList
  joined : ".".intercalate names = path

namespace Components

variable {path name : String} {names chain : List String}

theorem tail (components : Components path (name :: names)) :
    Components (".".intercalate names) names :=
  ⟨fun other member => components.free other (List.mem_cons_of_mem _ member), rfl⟩

theorem free_text (components : Components path names) :
    ∀ piece ∈ names.map String.toList, '.' ∉ piece := by
  intro piece member
  obtain ⟨name, found, rfl⟩ := List.mem_map.1 member
  exact components.free name found

theorem toList_path (components : Components path names) :
    path.toList = List.intercalate ['.'] (names.map String.toList) := by
  rw [← components.joined, String.toList_intercalate]
  rfl

/-- Cutting a path at every dot gives its components. -/
theorem splitAll_eq (components : Components path names) (some_name : names ≠ []) :
    (Text.splitAll '.' path.toList).map String.ofList = names := by
  have some_piece : names.map String.toList ≠ [] := fun none =>
    some_name (List.map_eq_nil_iff.1 none)
  rw [components.toList_path, Text.splitAll_intercalate some_piece components.free_text,
    List.map_map]
  have same : String.ofList ∘ String.toList = id := funext fun _ => String.ofList_toList
  rw [same, List.map_id]

/-- Every path has components. -/
theorem exists_concat (path : String) : ∃ chain name, Components path (chain ++ [name]) := by
  have components : Components path ((Text.splitAll '.' path.toList).map String.ofList) := by
    refine ⟨?_, ?_⟩
    · intro name member
      obtain ⟨piece, found, rfl⟩ := List.mem_map.1 member
      rw [String.toList_ofList]
      exact Text.not_mem_of_mem_splitAll found
    · have same : String.toList ∘ String.ofList = id := funext fun _ => String.toList_ofList
      rw [← String.toList_inj, String.toList_intercalate, List.map_map, same, List.map_id]
      exact Text.intercalate_splitAll path.toList
  rcases List.eq_nil_or_concat' ((Text.splitAll '.' path.toList).map String.ofList) with
    none | ⟨chain, name, concat⟩
  · exact absurd (List.map_eq_nil_iff.1 none) (Text.splitAll_ne_nil '.' path.toList)
  · exact ⟨chain, name, concat ▸ components⟩

/-- A path has one list of components. -/
theorem unique {others : List String} (components : Components path names)
    (again : Components path others) (some_name : names ≠ []) (some_other : others ≠ []) :
    names = others :=
  (components.splitAll_eq some_name).symm.trans (again.splitAll_eq some_other)

theorem eq_name (components : Components path [name]) : path = name :=
  components.joined.symm.trans String.intercalate_singleton

theorem not_mem_of_single (components : Components path [name]) : '.' ∉ path.toList := by
  rw [components.eq_name]
  exact components.free name List.mem_cons_self

/-- The last component stands behind the last dot. -/
theorem splitLast_eq (components : Components path (chain ++ [name])) (some_chain : chain ≠ []) :
    Text.splitLast '.' path.toList = some ((".".intercalate chain).toList, name.toList) := by
  have free := components.free name (List.mem_append_right _ List.mem_cons_self)
  rw [← components.joined, String.intercalate_append_of_ne_nil some_chain (List.cons_ne_nil _ _),
    String.intercalate_singleton, String.toList_append, String.toList_append, List.append_assoc]
  exact Text.splitLast_append _ free

/-- The first component stands before the first dot. -/
theorem splitFirst_eq (components : Components path (name :: names)) (some_name : names ≠ []) :
    Text.splitFirst '.' path.toList = some (name.toList, (".".intercalate names).toList) := by
  have free := components.free name List.mem_cons_self
  rw [← components.joined, String.intercalate_cons_of_ne_nil some_name, String.toList_append,
    String.toList_append, List.append_assoc]
  exact Text.splitFirst_append free _

end Components

/-! ## Trees -/

/-- No name on the way to the method holds a dot. -/
def Place.DotFree {α : Type} (place : Place α) : Prop := ∀ name ∈ place.names, '.' ∉ name.toList

theorem Place.components_path_iff {α : Type} {place : Place α} :
    Components place.path place.names ↔ place.DotFree :=
  ⟨fun components => components.free, fun free => ⟨free, rfl⟩⟩

namespace ResourceTree

variable {α : Type}

/-- Looking up a path is following its components. -/
theorem lookup_of_components {tree : ResourceTree α} {path name : String} {chain : List String}
    (components : Components path (chain ++ [name])) :
    tree.lookup path = (tree.descend chain).bind fun node => node.method? name := by
  cases chain with
  | nil =>
      have single : Components path [name] := components
      rw [lookup, Text.splitLast_eq_none_iff.2 single.not_mem_of_single, descend_nil,
        single.eq_name]
      rfl
  | cons resource chain =>
      have inner : Components (".".intercalate (resource :: chain)) (resource :: chain) :=
        ⟨fun other member => components.free other (List.mem_append_left _ member), rfl⟩
      rw [lookup, components.splitLast_eq (List.cons_ne_nil _ _)]
      dsimp only
      rw [inner.splitAll_eq (List.cons_ne_nil _ _), String.ofList_toList]
      cases tree.descend (resource :: chain) with
      | none => rfl
      | some node => rfl

/-- A method is found where the components of its path lead. -/
theorem lookup_eq_some_iff {tree : ResourceTree α} {path : String} {method : α} :
    tree.lookup path = some method ↔
      ∃ chain name, Components path (chain ++ [name]) ∧
        ∃ node, tree.descend chain = some node ∧ node.method? name = some method := by
  constructor
  · intro found
    obtain ⟨chain, name, components⟩ := Components.exists_concat path
    rw [lookup_of_components components] at found
    exact ⟨chain, name, components, Option.bind_eq_some_iff.1 found⟩
  · rintro ⟨chain, name, components, reached⟩
    rw [lookup_of_components components]
    exact Option.bind_eq_some_iff.2 reached

theorem mem_methodPaths_iff {tree : ResourceTree α} {path : String} :
    path ∈ tree.methodPaths ↔ ∃ place ∈ places tree, place.path = path := by
  rw [(methodPaths_perm tree).mem_iff, List.mem_map]

/-- Every path that is found is listed. -/
theorem mem_methodPaths_of_lookup {tree : ResourceTree α} {path : String} {method : α}
    (found : tree.lookup path = some method) : path ∈ tree.methodPaths := by
  obtain ⟨chain, name, components, reached⟩ := lookup_eq_some_iff.1 found
  exact mem_methodPaths_iff.2
    ⟨⟨chain, name, method⟩, mem_places_of_isAt reached, components.joined⟩

/-! ### Leading back -/

/-- The path leads to the method at this place: its components are the names on the way there. -/
structure Leads (tree : ResourceTree α) (path : String) (place : Place α) : Prop where
  components : Components path place.names
  isAt : tree.IsAt place

theorem lookup_of_leads {tree : ResourceTree α} {path : String} {place : Place α}
    (leads : tree.Leads path place) : tree.lookup path = some place.method :=
  lookup_eq_some_iff.2 ⟨place.chain, place.name, leads.components, leads.isAt⟩

/-- Under the same names stands the same method. -/
theorem IsAt.eq_of_names_eq {tree : ResourceTree α} {place other : Place α}
    (isAt : tree.IsAt place) (otherIsAt : tree.IsAt other) (same : place.names = other.names) :
    place = other := by
  obtain ⟨chain, name, method⟩ := place
  obtain ⟨otherChain, otherName, otherMethod⟩ := other
  obtain ⟨rfl, sameName⟩ := List.append_inj' same rfl
  obtain rfl := List.singleton_inj.1 sameName
  obtain ⟨node, reached, found⟩ := isAt
  obtain ⟨otherNode, otherReached, otherFound⟩ := otherIsAt
  obtain rfl := Option.some.inj (reached.symm.trans otherReached)
  obtain rfl := Option.some.inj (found.symm.trans otherFound)
  rfl

/-- A path leads to one place at most. -/
theorem Leads.unique {tree : ResourceTree α} {path : String} {place other : Place α}
    (leads : tree.Leads path place) (again : tree.Leads path other) : place = other :=
  leads.isAt.eq_of_names_eq again.isAt
    (leads.components.unique again.components place.names_ne_nil other.names_ne_nil)

/-- The path under which a method is listed leads back to it if no name on the way holds a dot. -/
theorem leads_path_iff {tree : ResourceTree α} {place : Place α} (isAt : tree.IsAt place) :
    tree.Leads place.path place ↔ place.DotFree :=
  ⟨fun leads => Place.components_path_iff.1 leads.components,
    fun free => ⟨Place.components_path_iff.2 free, isAt⟩⟩

theorem eq_of_path_eq {tree : ResourceTree α} {place other : Place α} (isAt : tree.IsAt place)
    (otherIsAt : tree.IsAt other) (free : place.DotFree) (otherFree : other.DotFree)
    (same : place.path = other.path) : place = other := by
  have leads := (leads_path_iff isAt).2 free
  rw [same] at leads
  exact leads.unique ((leads_path_iff otherIsAt).2 otherFree)

/-- Methods without dots on the way to them are listed under paths of their own. -/
theorem nodup_methodPaths {tree : ResourceTree α} (ordered : tree.Ordered)
    (free : ∀ place, tree.IsAt place → place.DotFree) : tree.methodPaths.Nodup := by
  rw [(methodPaths_perm tree).nodup_iff, List.Nodup, List.pairwise_map]
  refine (pairwise_precedes_places ordered).imp_of_mem ?_
  intro place other member otherMember precedes same
  have isAt := isAt_of_mem_places ordered member
  have otherIsAt := isAt_of_mem_places ordered otherMember
  have equal := eq_of_path_eq isAt otherIsAt (free place isAt) (free other otherIsAt) same
  exact precedes.names_ne (congrArg Place.names equal)

/-! ### Names without dots -/

/-- No method and no resource of the tree has a dot in its name. -/
def DotFree (tree : ResourceTree α) : Prop :=
  ∀ chain node, tree.descend chain = some node →
    (∀ name ∈ node.methods.names, '.' ∉ name.toList) ∧
      ∀ name ∈ node.resources.names, '.' ∉ name.toList

theorem DotFree.resource {tree child : ResourceTree α} {name : String} (dotFree : tree.DotFree)
    (here : tree.resource? name = some child) : child.DotFree := by
  intro chain node reached
  exact dotFree (name :: chain) node (descend_cons_eq_some_iff.2 ⟨child, here, reached⟩)

theorem dotFree_node_of {methods : List (String × α)} {resources : List (String × ResourceTree α)}
    (free : ∀ name ∈ NameTable.names methods ++ NameTable.names resources, '.' ∉ name.toList)
    (each : ∀ pair ∈ resources, pair.2.DotFree) : (node methods resources).DotFree := by
  intro chain inner reached
  cases chain with
  | nil =>
      rw [descend_nil] at reached
      cases reached
      exact List.forall_mem_append.1 free
  | cons name chain =>
      obtain ⟨child, here, further⟩ := descend_cons_eq_some_iff.1 reached
      exact each _ (NameTable.mem_of_get? here) chain inner further

theorem DotFree.free_of_isAt {tree : ResourceTree α} (dotFree : tree.DotFree) {place : Place α}
    (isAt : tree.IsAt place) : place.DotFree := by
  obtain ⟨chain, name, method⟩ := place
  induction chain generalizing tree with
  | nil =>
      intro other member
      rw [List.mem_singleton.1 member]
      refine (dotFree [] tree (descend_nil tree)).1 name ?_
      exact NameTable.mem_names_of_get? (isAt_root_iff.1 isAt)
  | cons resource chain ih =>
      have isAtUnder : tree.IsAt (Place.under resource ⟨chain, name, method⟩) := isAt
      obtain ⟨child, here, further⟩ := isAt_under_iff.1 isAtUnder
      intro other member
      rcases List.mem_cons.1 member with rfl | later
      · refine (dotFree [] tree (descend_nil tree)).2 other ?_
        exact NameTable.mem_names_of_get? here
      · exact ih (dotFree.resource here) further other later

/-- Without dots in the names, every listed path is found. -/
theorem DotFree.mem_methodPaths_iff {tree : ResourceTree α} (dotFree : tree.DotFree)
    (ordered : tree.Ordered) {path : String} :
    path ∈ tree.methodPaths ↔ ∃ method, tree.lookup path = some method := by
  constructor
  · intro listed
    obtain ⟨place, member, rfl⟩ := ResourceTree.mem_methodPaths_iff.1 listed
    have isAt := isAt_of_mem_places ordered member
    exact ⟨place.method, lookup_of_leads ((leads_path_iff isAt).2 (dotFree.free_of_isAt isAt))⟩
  · rintro ⟨method, found⟩
    exact mem_methodPaths_of_lookup found

/-- Without dots in the names, no two methods have the same path. -/
theorem DotFree.nodup_methodPaths {tree : ResourceTree α} (dotFree : tree.DotFree)
    (ordered : tree.Ordered) : tree.methodPaths.Nodup :=
  ResourceTree.nodup_methodPaths ordered fun _ isAt => dotFree.free_of_isAt isAt

end ResourceTree

/-! ## Several APIs -/

namespace Generated

/-- Among several APIs the first component names the API. -/
theorem lookupIn_of_components {apis : NameTable (ResourceTree ApiMethod)}
    {path api name : String} {chain : List String}
    (components : Components path (api :: (chain ++ [name]))) :
    lookupIn apis path = (apis.get? api).bind fun tree =>
      (tree.descend chain).bind fun node => node.method? name := by
  have some_name : chain ++ [name] ≠ [] :=
    List.append_ne_nil_of_right_ne_nil _ (List.cons_ne_nil _ _)
  rw [lookupIn, components.splitFirst_eq some_name]
  dsimp only
  rw [String.ofList_toList, String.ofList_toList]
  cases apis.get? api with
  | none => rfl
  | some tree => exact ResourceTree.lookup_of_components components.tail

theorem lookupIn_eq_some_iff {apis : NameTable (ResourceTree ApiMethod)} {path : String}
    {method : ApiMethod} :
    lookupIn apis path = some method ↔
      ∃ api chain name, Components path (api :: (chain ++ [name])) ∧
        ∃ tree, apis.get? api = some tree ∧
          ∃ node, tree.descend chain = some node ∧ node.method? name = some method := by
  constructor
  · intro found
    obtain ⟨chain, name, components⟩ := Components.exists_concat path
    cases chain with
    | nil =>
        have single : Components path [name] := components
        rw [lookupIn, Text.splitFirst_eq_none_iff.2 single.not_mem_of_single] at found
        cases found
    | cons api chain =>
        rw [lookupIn_of_components components] at found
        obtain ⟨tree, here, further⟩ := Option.bind_eq_some_iff.1 found
        exact ⟨api, chain, name, components, tree, here, Option.bind_eq_some_iff.1 further⟩
  · rintro ⟨api, chain, name, components, tree, here, reached⟩
    rw [lookupIn_of_components components]
    exact Option.bind_eq_some_iff.2 ⟨tree, here, Option.bind_eq_some_iff.2 reached⟩

end Generated

/--
A path leads to the method that its components lead to, the first one naming
the API where there are several.  Every path that leads to a method is listed,
and if no name holds a dot, these are the listed paths, each listed once.
-/
theorem lookup_follows_components (tree : ResourceTree ApiMethod)
    (apis : NameTable (ResourceTree ApiMethod)) :
    (∀ path method, (Generated.api tree).lookup path = some method ↔
      ∃ chain name, Components path (chain ++ [name]) ∧
        ∃ node, tree.descend chain = some node ∧ node.method? name = some method) ∧
    (∀ path method, (Generated.directory apis).lookup path = some method ↔
      ∃ api chain name, Components path (api :: (chain ++ [name])) ∧
        ∃ tree, apis.get? api = some tree ∧
          ∃ node, tree.descend chain = some node ∧ node.method? name = some method) ∧
    (∀ path method, tree.lookup path = some method → path ∈ tree.methodPaths) ∧
    (tree.Ordered → tree.DotFree →
      tree.methodPaths.Nodup ∧
        ∀ path, path ∈ tree.methodPaths ↔ ∃ method, tree.lookup path = some method) := by
  refine ⟨?_, ?_, ?_, ?_⟩
  · exact fun path method => ResourceTree.lookup_eq_some_iff
  · exact fun path method => Generated.lookupIn_eq_some_iff
  · exact fun path method => ResourceTree.mem_methodPaths_of_lookup
  · intro ordered dotFree
    exact ⟨dotFree.nodup_methodPaths ordered, fun path => dotFree.mem_methodPaths_iff ordered⟩

/-- Files listed at the root and copied beneath it, and a method and a resource without a name. -/
def filesTree : ResourceTree ApiMethod :=
  let binding : Binding := ⟨none, "https://x/"⟩
  .node [("files", ⟨"$files", "GET", "files", binding⟩)]
    [("", .node [("", ⟨"$", "GET", "", binding⟩)] []),
      ("files", .node [("copy", ⟨"$copy", "POST", "files/x", binding⟩)] [])]

theorem lookup_follows_components_of_filesTree :
    filesTree.Ordered ∧ filesTree.DotFree ∧ filesTree.methodPaths.Nodup ∧
      ("files.copy" ∈ filesTree.methodPaths ↔
        ∃ method, filesTree.lookup "files.copy" = some method) ∧
      filesTree.lookup "." = some ⟨"$", "GET", "", ⟨none, "https://x/"⟩⟩ ∧
      "." ∈ filesTree.methodPaths := by
  have ordered : filesTree.Ordered := by decide
  have dotFree : filesTree.DotFree := by
    refine ResourceTree.dotFree_node_of (by decide) ?_
    intro pair member
    rcases List.mem_cons.1 member with rfl | later
    · exact ResourceTree.dotFree_node_of (by decide) fun pair member => by cases member
    · rw [List.mem_singleton.1 later]
      exact ResourceTree.dotFree_node_of (by decide) fun pair member => by cases member
  obtain ⟨_, _, listed, exactly⟩ := lookup_follows_components filesTree []
  obtain ⟨nodup, both⟩ := exactly ordered dotFree
  have found : filesTree.lookup "." = some ⟨"$", "GET", "", ⟨none, "https://x/"⟩⟩ := by decide
  exact ⟨ordered, dotFree, nodup, both "files.copy", found, listed "." _ found⟩

end ApiDiscovery
