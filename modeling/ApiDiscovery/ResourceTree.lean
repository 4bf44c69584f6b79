import ApiDiscovery.NameTable
import ApiDiscovery.Text.Pieces

/-!
# Resource trees

The shape that a discovery document gives an API: named methods, and named
resources that hold methods and resources again.  A document declares such a
tree and compilation produces one, so the tree is generic in what stands for a
method.  A method is found by the names on the way to it joined with dots;
names may themselves hold dots, so a dotted path need not lead back.
-/

namespace ApiDiscovery

inductive ResourceTree (α : Type) where
  | node (methods : List (String × α)) (resources : List (String × ResourceTree α))
deriving Repr

namespace ResourceTree

variable {α β : Type}

def methods : ResourceTree α → NameTable α
  | .node methods _ => methods

def resources : ResourceTree α → NameTable (ResourceTree α)
  | .node _ resources => resources

def empty : ResourceTree α := .node [] []

instance : Inhabited (ResourceTree α) := ⟨empty⟩

def isEmpty (tree : ResourceTree α) : Bool := tree.methods.isEmpty && tree.resources.isEmpty

def method? (tree : ResourceTree α) (name : String) : Option α := tree.methods.get? name

def resource? (tree : ResourceTree α) (name : String) : Option (ResourceTree α) :=
  tree.resources.get? name

/-- The node reached through a chain of resource names. -/
def descend (tree : ResourceTree α) : List String → Option (ResourceTree α)
  | [] => some tree
  | name :: names =>
      match tree.resource? name with
      | none => none
      | some inner => inner.descend names

mutual

def methodCount : ResourceTree α → Nat
  | .node methods resources => methods.length + methodCountAll resources

def methodCountAll : List (String × ResourceTree α) → Nat
  | [] => 0
  | (_, tree) :: rest => methodCount tree + methodCountAll rest

end

mutual

/-- The methods and the resources of every node are in the order of their names. -/
def Ordered : ResourceTree α → Prop
  | .node methods resources =>
      NameTable.Ordered methods ∧ NameTable.Ordered resources ∧ OrderedAll resources

def OrderedAll : List (String × ResourceTree α) → Prop
  | [] => True
  | (_, tree) :: rest => Ordered tree ∧ OrderedAll rest

end

/-! ## Dotted paths -/

/-- The method at a dotted path: all components but the last name resources. -/
def lookup (tree : ResourceTree α) (path : String) : Option α :=
  match Text.splitLast '.' path.toList with
  | none => tree.method? path
  | some (resources, name) =>
      match tree.descend ((Text.splitAll '.' resources).map String.ofList) with
      | none => none
      | some inner => inner.method? (String.ofList name)

mutual

/-- The paths of all methods, each behind a leading text: those of a node before those beneath it. -/
def pathsUnder (lead : String) : ResourceTree α → List String
  | .node methods resources =>
      methods.map (fun (name, _) => lead ++ name) ++ pathsUnderAll lead resources

def pathsUnderAll (lead : String) : List (String × ResourceTree α) → List String
  | [] => []
  | (name, tree) :: rest => pathsUnder (lead ++ name ++ ".") tree ++ pathsUnderAll lead rest

end

/-- The paths of all methods in ascending order. -/
def methodPaths (tree : ResourceTree α) : List String :=
  (pathsUnder "" tree).mergeSort fun left right => decide (left ≤ right)

theorem length_pathsUnder (lead : String) (tree : ResourceTree α) :
    (pathsUnder lead tree).length = methodCount tree := by
  refine ResourceTree.rec
    (motive_1 := fun tree => ∀ lead, (pathsUnder lead tree).length = methodCount tree)
    (motive_2 := fun trees => ∀ lead, (pathsUnderAll lead trees).length = methodCountAll trees)
    (motive_3 := fun pair => ∀ lead, (pathsUnder lead pair.2).length = methodCount pair.2)
    ?_ ?_ ?_ ?_ tree lead
  · intro methods resources ih lead
    simp [pathsUnder, methodCount, ih]
  · intro lead
    simp [pathsUnderAll, methodCountAll]
  · intro head rest ihHead ihRest lead
    simp [pathsUnderAll, methodCountAll, ihHead, ihRest]
  · intro name tree ih
    exact ih

end ResourceTree

end ApiDiscovery
