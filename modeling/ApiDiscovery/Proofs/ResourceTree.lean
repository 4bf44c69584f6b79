import ApiDiscovery.ResourceTree
import ApiDiscovery.Proofs.NameTable

/-!
# Going down resource trees

An induction rule that gives the hypothesis for every resource of a node, and
what is reached through a chain of names.
-/

namespace ApiDiscovery.ResourceTree

variable {α : Type}

/-- A property of trees holds if every node passes it on from its resources to itself. -/
@[elab_as_elim, induction_eliminator]
theorem induction {motive : ResourceTree α → Prop}
    (node : ∀ methods resources, (∀ pair ∈ resources, motive pair.2) →
      motive (.node methods resources))
    (tree : ResourceTree α) : motive tree := by
  refine ResourceTree.rec (motive_1 := motive)
    (motive_2 := fun trees => ∀ pair ∈ trees, motive pair.2) (motive_3 := fun pair => motive pair.2)
    node ?_ ?_ ?_ tree
  · intro pair member
    cases member
  · intro head rest first others pair member
    rcases List.mem_cons.1 member with rfl | later
    · exact first
    · exact others pair later
  · intro name tree holds
    exact holds

/-- The tree holds this method, at its root or somewhere beneath. -/
inductive Holds (method : α) : ResourceTree α → Prop where
  | own {methods : List (String × α)} {resources : List (String × ResourceTree α)} (name : String)
      (member : (name, method) ∈ methods) : Holds method (.node methods resources)
  | beneath {methods : List (String × α)} {resources : List (String × ResourceTree α)}
      {tree : ResourceTree α} (name : String) (member : (name, tree) ∈ resources)
      (holds : Holds method tree) : Holds method (.node methods resources)

theorem orderedAll_iff {trees : List (String × ResourceTree α)} :
    OrderedAll trees ↔ ∀ pair ∈ trees, Ordered pair.2 := by
  induction trees with
  | nil => simp [OrderedAll]
  | cons head rest ih => rw [OrderedAll, ih, List.forall_mem_cons]

theorem ordered_node_iff {methods : List (String × α)}
    {resources : List (String × ResourceTree α)} :
    (node methods resources).Ordered ↔ NameTable.Ordered methods ∧
      NameTable.Ordered resources ∧ ∀ pair ∈ resources, pair.2.Ordered := by
  rw [Ordered, orderedAll_iff]

theorem ordered_empty : (empty : ResourceTree α).Ordered :=
  ordered_node_iff.2 ⟨.nil, .nil, List.forall_mem_nil _⟩

mutual

instance decidableOrdered : (tree : ResourceTree α) → Decidable tree.Ordered
  | .node methods resources =>
      have := decidableOrderedAll resources
      inferInstanceAs
        (Decidable (NameTable.Ordered methods ∧ NameTable.Ordered resources ∧ OrderedAll resources))

instance decidableOrderedAll :
    (trees : List (String × ResourceTree α)) → Decidable (OrderedAll trees)
  | [] => .isTrue trivial
  | (_, tree) :: rest =>
      have := decidableOrdered tree
      have := decidableOrderedAll rest
      inferInstanceAs (Decidable (tree.Ordered ∧ OrderedAll rest))

end

@[simp] theorem descend_nil (tree : ResourceTree α) : tree.descend [] = some tree := by
  rw [descend]

theorem descend_cons_eq_some_iff {tree inner : ResourceTree α} {name : String}
    {chain : List String} :
    tree.descend (name :: chain) = some inner ↔
      ∃ child, tree.resource? name = some child ∧ child.descend chain = some inner := by
  rw [descend]
  cases tree.resource? name with
  | none => simp
  | some child => simp

/-- Every node of an ordered tree is ordered. -/
theorem Ordered.descend {tree inner : ResourceTree α} (ordered : tree.Ordered)
    {chain : List String} (reached : tree.descend chain = some inner) : inner.Ordered := by
  induction chain generalizing tree with
  | nil =>
      rw [descend_nil] at reached
      exact Option.some.inj reached ▸ ordered
  | cons name chain ih =>
      obtain ⟨child, found, further⟩ := descend_cons_eq_some_iff.1 reached
      cases tree with
      | node methods resources =>
          obtain ⟨_, _, each⟩ := ordered_node_iff.1 ordered
          exact ih (each _ (NameTable.mem_of_get? found)) further

end ApiDiscovery.ResourceTree
