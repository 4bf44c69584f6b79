import ApiDiscovery.Proofs.Compile.AtOnce

/-!
# Compiled trees mirror declared ones

A declared tree compiles exactly when all its methods are complete.  Every node
of the compiled tree then stands where the declared node stands, with the same
names in the same order, and each method says what its own declaration says.
-/

namespace ApiDiscovery

/-! ## One method -/

/-- A method declares a path, and a verb that is an HTTP token. -/
def MethodDeclaration.IsComplete (declared : MethodDeclaration) : Prop :=
  declared.path.isSome ∧ ∃ verb, declared.httpMethod = some verb ∧ ApiMethod.isToken verb.toList

namespace ApiMethod

theorem isTokenChar_toUpper (c : Char) : isTokenChar c.toUpper = isTokenChar c := by
  have letters : ∀ n : Fin 26,
      isTokenChar (Char.ofNat (97 + n)).toUpper = isTokenChar (Char.ofNat (97 + n)) := by decide
  by_cases lower : c.val ≥ 'a'.val ∧ c.val ≤ 'z'.val
  · have from_a : 97 ≤ c.toNat := UInt32.le_iff_toNat_le.1 lower.1
    have to_z : c.toNat ≤ 122 := UInt32.le_iff_toNat_le.1 lower.2
    have same : Char.ofNat (97 + (c.toNat - 97)) = c := by
      rw [Nat.add_sub_cancel' from_a, Char.ofNat_toNat]
    have upper := letters ⟨c.toNat - 97, by omega⟩
    rw [same] at upper
    exact upper
  · have same : c.toUpper = c := dif_neg lower
    rw [same]

/-- Capitals are a token exactly when the text is. -/
theorem isToken_toUpper (text : List Char) : isToken (text.map Char.toUpper) = isToken text := by
  have same : isTokenChar ∘ Char.toUpper = isTokenChar := funext isTokenChar_toUpper
  rw [isToken, isToken, List.all_map, same, List.isEmpty_map]

theorem verbOf?_eq_some_iff {verb capital : String} :
    verbOf? verb = some capital ↔
      isToken verb.toList ∧ capital = String.ofList (verb.toList.map Char.toUpper) := by
  unfold verbOf?
  dsimp only
  rw [isToken_toUpper]
  by_cases token : isToken verb.toList
  · rw [if_pos token]
    constructor
    · intro same
      exact ⟨token, (Option.some.inj same).symm⟩
    · rintro ⟨_, rfl⟩
      rfl
  · rw [if_neg token]
    constructor
    · intro impossible
      cases impossible
    · rintro ⟨valid, _⟩
      exact absurd valid token

/-- What a compiled method says: its own label, verb and path, and the binding it was given. -/
theorem compile_eq_ok_iff {binding : Binding} {name : String} {declared : MethodDeclaration}
    {method : ApiMethod} :
    compile binding name declared = .ok method ↔
      ∃ verb path, declared.httpMethod = some verb ∧ isToken verb.toList ∧
        declared.path = some path ∧
        method = ⟨labelOf name, String.ofList (verb.toList.map Char.toUpper), path, binding⟩ := by
  unfold compile
  cases written : declared.httpMethod with
  | none => simp
  | some verb =>
      dsimp only
      cases token : verbOf? verb with
      | none =>
          constructor
          · intro impossible
            cases impossible
          · rintro ⟨other, path, same, valid, _⟩
            cases same
            rw [verbOf?_eq_some_iff.2 ⟨valid, rfl⟩] at token
            cases token
      | some capital =>
          obtain ⟨valid, rfl⟩ := verbOf?_eq_some_iff.1 token
          cases found : declared.path with
          | none => simp
          | some path =>
              constructor
              · intro same
                exact ⟨verb, path, rfl, valid, rfl, (Except.ok.inj same).symm⟩
              · rintro ⟨other, otherPath, sameVerb, _, samePath, rfl⟩
                cases sameVerb
                cases samePath
                rfl

/-- A method compiles exactly when it is complete. -/
theorem exists_compile_iff {binding : Binding} {name : String} {declared : MethodDeclaration} :
    (∃ method, compile binding name declared = .ok method) ↔ declared.IsComplete := by
  constructor
  · rintro ⟨method, compiled⟩
    obtain ⟨verb, path, written, token, found, _⟩ := compile_eq_ok_iff.1 compiled
    exact ⟨by rw [found]; rfl, verb, written, token⟩
  · rintro ⟨hasPath, verb, written, token⟩
    obtain ⟨path, found⟩ := Option.isSome_iff_exists.1 hasPath
    exact ⟨_, compile_eq_ok_iff.2 ⟨verb, path, written, token, found, rfl⟩⟩

end ApiMethod

/-! ## One node -/

namespace ResourceTree

variable {binding : Binding}

theorem compileMethods_result_eq_ok_iff {methods : NameTable MethodDeclaration}
    {compiled : NameTable ApiMethod} :
    (compileMethods binding methods).result = .ok compiled ↔
      NameTable.Aligned (fun name declared method =>
        ApiMethod.compile binding name declared = .ok method) methods compiled := by
  unfold compileMethods
  rw [FanOut.join_result_eq_ok_iff]
  apply FanOut.succeed_launched_map_iff
  rintro ⟨name, declared⟩ sent ⟨other, method⟩
  unfold methodLaunch
  dsimp only
  cases ApiMethod.compile binding name declared with
  | error error => simp
  | ok value => simp

theorem compileResources_result_eq_ok_iff
    {resources : List (String × ResourceTree MethodDeclaration)}
    {compiled : List (String × ResourceTree ApiMethod)} {rule : FanOut.Rule}
    {sent : List Request} :
    (FanOut.join rule (compileLaunches binding resources) sent).result = .ok compiled ↔
      NameTable.Aligned (fun _ declared tree => (compile binding declared).result = .ok tree)
        resources compiled := by
  rw [FanOut.join_result_eq_ok_iff, compileLaunches_eq_map]
  apply FanOut.succeed_launched_map_iff
  rintro ⟨name, declared⟩ sent ⟨other, tree⟩
  unfold Outcome.toLaunch
  dsimp only
  rw [Outcome.map_result_eq_ok_iff]
  constructor
  · rintro ⟨inner, compiled, same⟩
    cases same
    exact ⟨rfl, compiled⟩
  · rintro ⟨rfl, compiled⟩
    exact ⟨tree, compiled, rfl⟩

theorem compileHalves_result_eq_ok_iff
    {methods : Outcome GenerateError (NameTable ApiMethod)}
    {resources : Outcome GenerateError (NameTable (ResourceTree ApiMethod))}
    {tree : ResourceTree ApiMethod} :
    (compileHalves methods resources).result = .ok tree ↔
      ∃ ownMethods ownResources, methods.result = .ok ownMethods ∧
        resources.result = .ok ownResources ∧ tree = .node ownMethods ownResources := by
  unfold compileHalves
  rw [Outcome.map_result_eq_ok_iff]
  constructor
  · rintro ⟨halves, joined, rfl⟩
    cases FanOut.join_result_eq_ok_iff.1 joined with
    | cons first others =>
        cases others with
        | cons second none =>
            cases none
            obtain ⟨ownMethods, methodsDone, rfl⟩ := Outcome.map_result_eq_ok_iff.1 first
            obtain ⟨ownResources, resourcesDone, rfl⟩ := Outcome.map_result_eq_ok_iff.1 second
            exact ⟨ownMethods, ownResources, methodsDone, resourcesDone, rfl⟩
  · rintro ⟨ownMethods, ownResources, methodsDone, resourcesDone, rfl⟩
    refine ⟨[.methods ownMethods, .resources ownResources], ?_, rfl⟩
    refine FanOut.join_result_eq_ok_iff.2 (.cons ?_ (.cons ?_ .nil))
    · exact Outcome.map_result_eq_ok_iff.2 ⟨ownMethods, methodsDone, rfl⟩
    · exact Outcome.map_result_eq_ok_iff.2 ⟨ownResources, resourcesDone, rfl⟩

/-- A node compiles to a node with its methods and its resources compiled under their names. -/
theorem compile_node_result_eq_ok_iff {methods : List (String × MethodDeclaration)}
    {resources : List (String × ResourceTree MethodDeclaration)}
    {tree : ResourceTree ApiMethod} :
    (compile binding (.node methods resources)).result = .ok tree ↔
      ∃ ownMethods ownResources,
        NameTable.Aligned (fun name declared method =>
          ApiMethod.compile binding name declared = .ok method) methods ownMethods ∧
        NameTable.Aligned (fun _ declared inner => (compile binding declared).result = .ok inner)
          resources ownResources ∧
        tree = .node ownMethods ownResources := by
  rw [compile, compileHalves_result_eq_ok_iff]
  simp only [compileMethods_result_eq_ok_iff, compileResources_result_eq_ok_iff]

/-! ## Every node -/

/-- Whatever is reached in a declared tree is compiled where it stands. -/
theorem exists_descend_of_declared {declared node : ResourceTree MethodDeclaration}
    {tree : ResourceTree ApiMethod} {chain : List String}
    (compiled : (compile binding declared).result = .ok tree)
    (reached : declared.descend chain = some node) :
    ∃ inner, tree.descend chain = some inner ∧ (compile binding node).result = .ok inner := by
  induction chain generalizing declared tree with
  | nil =>
      rw [descend_nil] at reached
      cases reached
      exact ⟨tree, descend_nil tree, compiled⟩
  | cons name chain ih =>
      obtain ⟨child, found, further⟩ := descend_cons_eq_some_iff.1 reached
      cases declared with
      | node methods resources =>
          obtain ⟨_, _, _, aligned, rfl⟩ := compile_node_result_eq_ok_iff.1 compiled
          obtain ⟨inner, innerFound, innerCompiled⟩ := aligned.get?_left found
          obtain ⟨last, lastReached, lastCompiled⟩ := ih innerCompiled further
          exact ⟨last, descend_cons_eq_some_iff.2 ⟨inner, innerFound, lastReached⟩, lastCompiled⟩

/-- Whatever is reached in a compiled tree was declared there. -/
theorem exists_descend_of_compiled {declared : ResourceTree MethodDeclaration}
    {tree inner : ResourceTree ApiMethod} {chain : List String}
    (compiled : (compile binding declared).result = .ok tree)
    (reached : tree.descend chain = some inner) :
    ∃ node, declared.descend chain = some node ∧ (compile binding node).result = .ok inner := by
  induction chain generalizing declared tree with
  | nil =>
      rw [descend_nil] at reached
      cases reached
      exact ⟨declared, descend_nil declared, compiled⟩
  | cons name chain ih =>
      cases declared with
      | node methods resources =>
          obtain ⟨_, _, _, aligned, rfl⟩ := compile_node_result_eq_ok_iff.1 compiled
          obtain ⟨child, found, further⟩ := descend_cons_eq_some_iff.1 reached
          obtain ⟨own, ownFound, ownCompiled⟩ := aligned.get?_right found
          obtain ⟨last, lastReached, lastCompiled⟩ := ih ownCompiled further
          exact ⟨last, descend_cons_eq_some_iff.2 ⟨own, ownFound, lastReached⟩, lastCompiled⟩

/-- Every method of a compiled tree has the binding that the tree was given. -/
theorem binding_of_compile {declared : ResourceTree MethodDeclaration}
    {tree : ResourceTree ApiMethod} {method : ApiMethod}
    (compiled : (compile binding declared).result = .ok tree) (holds : tree.Holds method) :
    method.binding = binding := by
  induction declared generalizing tree with
  | node methods resources ih =>
      obtain ⟨_, _, methodsAligned, resourcesAligned, rfl⟩ :=
        compile_node_result_eq_ok_iff.1 compiled
      cases holds with
      | own name member =>
          obtain ⟨_, _, done⟩ := methodsAligned.of_mem_right member
          obtain ⟨_, _, _, _, _, same⟩ := ApiMethod.compile_eq_ok_iff.1 done
          exact congrArg ApiMethod.binding same
      | beneath name member holds =>
          obtain ⟨declared, found, done⟩ := resourcesAligned.of_mem_right member
          exact ih _ found done holds

/-- Every method that can be reached in a declared tree is complete. -/
def IsComplete (declared : ResourceTree MethodDeclaration) : Prop :=
  ∀ chain node, declared.descend chain = some node → ∀ pair ∈ node.methods, pair.2.IsComplete

/-- A tree compiles exactly when all its methods are complete. -/
theorem exists_compile_iff {declared : ResourceTree MethodDeclaration}
    (ordered : declared.Ordered) :
    (∃ tree, (compile binding declared).result = .ok tree) ↔ declared.IsComplete := by
  constructor
  · rintro ⟨tree, compiled⟩ chain node reached pair member
    obtain ⟨inner, _, innerCompiled⟩ := exists_descend_of_declared compiled reached
    cases node with
    | node methods resources =>
        obtain ⟨_, _, aligned, _, _⟩ := compile_node_result_eq_ok_iff.1 innerCompiled
        exact ApiMethod.exists_compile_iff.1 (aligned.of_mem member)
  · intro complete
    induction declared with
    | node methods resources ih =>
        obtain ⟨_, orderedResources, each⟩ := ordered_node_iff.1 ordered
        obtain ⟨ownMethods, methodsAligned⟩ := NameTable.exists_aligned
          (R := fun name declared method => ApiMethod.compile binding name declared = .ok method)
          fun pair member =>
            ApiMethod.exists_compile_iff.2 (complete [] _ (descend_nil _) pair member)
        obtain ⟨ownResources, resourcesAligned⟩ := NameTable.exists_aligned
          (R := fun _ declared inner => (compile binding declared).result = .ok inner)
          fun pair member => by
            apply ih pair member (each pair member)
            intro chain node reached
            apply complete (pair.1 :: chain) node
            exact descend_cons_eq_some_iff.2
              ⟨pair.2, NameTable.get?_of_mem orderedResources member, reached⟩
        exact ⟨_, compile_node_result_eq_ok_iff.2
          ⟨ownMethods, ownResources, methodsAligned, resourcesAligned, rfl⟩⟩

/-- A compiled node has the names of the declared one, and its methods say what theirs say. -/
structure NodeMirrors (binding : Binding) (declared : ResourceTree MethodDeclaration)
    (compiled : ResourceTree ApiMethod) : Prop where
  methods_names : compiled.methods.names = declared.methods.names
  resources_names : compiled.resources.names = declared.resources.names
  methods_octets : compiled.methods.names.Pairwise fun left right =>
    Text.Utf8.encode left.toList < Text.Utf8.encode right.toList
  resources_octets : compiled.resources.names.Pairwise fun left right =>
    Text.Utf8.encode left.toList < Text.Utf8.encode right.toList
  method : ∀ name method, compiled.method? name = some method →
    ∃ own verb path, declared.method? name = some own ∧ own.httpMethod = some verb ∧
      own.path = some path ∧
      method = ⟨ApiMethod.labelOf name, String.ofList (verb.toList.map Char.toUpper), path, binding⟩

/-- A node mirrors the ordered node that it is compiled from. -/
theorem nodeMirrors_of_compile {declared : ResourceTree MethodDeclaration}
    {tree : ResourceTree ApiMethod} (ordered : declared.Ordered)
    (compiled : (compile binding declared).result = .ok tree) :
    NodeMirrors binding declared tree := by
  cases declared with
  | node methods resources =>
      obtain ⟨orderedMethods, orderedResources, _⟩ := ordered_node_iff.1 ordered
      obtain ⟨ownMethods, ownResources, methodsAligned, resourcesAligned, rfl⟩ :=
        compile_node_result_eq_ok_iff.1 compiled
      refine ⟨methodsAligned.names_eq, resourcesAligned.names_eq, ?_, ?_, ?_⟩
      · exact methodsAligned.names_eq ▸ NameTable.Ordered.octets orderedMethods
      · exact resourcesAligned.names_eq ▸ NameTable.Ordered.octets orderedResources
      · intro name method found
        obtain ⟨own, ownFound, ownCompiled⟩ := methodsAligned.get?_right found
        obtain ⟨verb, path, written, _, located, same⟩ := ApiMethod.compile_eq_ok_iff.1 ownCompiled
        exact ⟨own, verb, path, ownFound, written, located, same⟩

/-- Through every chain of names the compiled tree and the declared one reach nodes together. -/
theorem rel_descend_of_compile {declared : ResourceTree MethodDeclaration}
    {tree : ResourceTree ApiMethod} (ordered : declared.Ordered)
    (compiled : (compile binding declared).result = .ok tree) (chain : List String) :
    Option.Rel (NodeMirrors binding) (declared.descend chain) (tree.descend chain) := by
  cases reached : declared.descend chain with
  | none =>
      cases found : tree.descend chain with
      | none => exact .none
      | some inner =>
          obtain ⟨node, known, _⟩ := exists_descend_of_compiled compiled found
          rw [reached] at known
          cases known
  | some node =>
      obtain ⟨inner, found, innerCompiled⟩ := exists_descend_of_declared compiled reached
      rw [found]
      exact .some (nodeMirrors_of_compile (ordered.descend reached) innerCompiled)

end ResourceTree

namespace ApiDescription

theorem compile_result (api : ApiDescription) (apiKey : Option String) :
    (api.compile apiKey).result = (api.root.compile (api.binding apiKey)).result := by
  rw [compile, Outcome.logFirst, Outcome.logLast_result]

/-- The declared address, or else the root address and the service path, or else nothing. -/
theorem binding_eq (api : ApiDescription) (apiKey : Option String) :
    api.binding apiKey =
      ⟨apiKey, (api.baseUrl <|> api.rootUrl.map (· ++ api.servicePath.getD "")).getD ""⟩ := by
  rw [binding, resolvedBaseUrl]
  cases api.baseUrl with
  | some base => rfl
  | none =>
      cases api.rootUrl with
      | none => rfl
      | some root =>
          cases api.servicePath with
          | none => exact congrArg _ (String.append_empty).symm
          | some path => rfl

end ApiDescription

/--
A tree whose names are in order, as those of every table are, compiles exactly
when every method in it has a path and a verb that is a token; it then mirrors
the declared tree at every node.  An API is its tree compiled with its own
address.
-/
theorem compile_mirrors_declaration (binding : Binding)
    (declared : ResourceTree MethodDeclaration) (ordered : declared.Ordered) :
    ((∃ tree, (declared.compile binding).result = .ok tree) ↔
      ∀ chain node, declared.descend chain = some node → ∀ pair ∈ node.methods,
        pair.2.path.isSome ∧
          ∃ verb, pair.2.httpMethod = some verb ∧ ApiMethod.isToken verb.toList) ∧
    (∀ tree, (declared.compile binding).result = .ok tree → ∀ chain,
      Option.Rel (ResourceTree.NodeMirrors binding) (declared.descend chain)
        (tree.descend chain)) ∧
    ∀ apiKey (api : ApiDescription), api.root = declared →
      (api.compile apiKey).result = (declared.compile ⟨apiKey,
        (api.baseUrl <|> api.rootUrl.map (· ++ api.servicePath.getD "")).getD ""⟩).result := by
  refine ⟨ResourceTree.exists_compile_iff ordered, ?_, ?_⟩
  · intro tree compiled chain
    exact ResourceTree.rel_descend_of_compile ordered compiled chain
  · rintro apiKey api rfl
    rw [api.compile_result, api.binding_eq]

/-- Files that are listed at the root and copied beneath it, and a resource that holds nothing. -/
def filesDeclaration : ResourceTree MethodDeclaration :=
  .node [("list", { path := some "files", httpMethod := some "get" })]
    [("drives", .empty),
      ("files", .node [("copy", { path := some "files/x", httpMethod := some "Post" })] [])]

theorem compile_mirrors_filesDeclaration :
    filesDeclaration.Ordered ∧
      ∃ tree, (filesDeclaration.compile ⟨some "key", "https://x/"⟩).result = .ok tree ∧
        ∀ chain, Option.Rel (ResourceTree.NodeMirrors ⟨some "key", "https://x/"⟩)
          (filesDeclaration.descend chain) (tree.descend chain) := by
  have ordered : filesDeclaration.Ordered := by
    have drivesFirst : "drives" < "files" := by decide
    unfold filesDeclaration ResourceTree.empty
    simp only [ResourceTree.Ordered, ResourceTree.OrderedAll, NameTable.Ordered, List.pairwise_cons,
      List.Pairwise.nil, List.mem_singleton, forall_eq, List.not_mem_nil, false_implies,
      implies_true, and_true, true_and]
    exact drivesFirst
  exact ⟨ordered, _, rfl, (compile_mirrors_declaration _ filesDeclaration ordered).2.1 _ rfl⟩

end ApiDiscovery
