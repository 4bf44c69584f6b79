import ApiDiscovery.Proofs.ResourceTree

/-!
# Trees side by side

Two trees are alike if they have the same names in the same order at every depth
and methods that are related in a given way: nothing but what stands for a
method tells them apart.
-/

namespace ApiDiscovery.ResourceTree

variable {α β : Type} {R : α → β → Prop}

mutual

/-- The trees have the same names in the same order at every depth, and related methods. -/
inductive Alike (R : α → β → Prop) : ResourceTree α → ResourceTree β → Prop where
  | node {methods : List (String × α)} {methods' : List (String × β)}
      {resources : List (String × ResourceTree α)} {resources' : List (String × ResourceTree β)}
      (own : NameTable.Aligned (fun _ => R) methods methods')
      (beneath : AlikeAll R resources resources') :
      Alike R (.node methods resources) (.node methods' resources')

inductive AlikeAll (R : α → β → Prop) :
    List (String × ResourceTree α) → List (String × ResourceTree β) → Prop where
  | nil : AlikeAll R [] []
  | cons {tree : ResourceTree α} {tree' : ResourceTree β} {trees : List (String × ResourceTree α)}
      {trees' : List (String × ResourceTree β)} (name : String) (first : Alike R tree tree')
      (rest : AlikeAll R trees trees') : AlikeAll R ((name, tree) :: trees) ((name, tree') :: trees')

end

theorem alikeAll_iff {trees : List (String × ResourceTree α)}
    {trees' : List (String × ResourceTree β)} :
    AlikeAll R trees trees' ↔ NameTable.Aligned (fun _ => Alike R) trees trees' := by
  induction trees generalizing trees' with
  | nil =>
      constructor
      · intro alike
        cases alike
        exact .nil
      · intro aligned
        cases aligned
        exact .nil
  | cons head trees ih =>
      constructor
      · intro alike
        cases alike with
        | cons name first rest => exact .cons ⟨rfl, first⟩ (ih.1 rest)
      · intro aligned
        cases aligned with
        | @cons _ other _ _ first rest =>
            obtain ⟨name, tree⟩ := head
            obtain ⟨name', tree'⟩ := other
            obtain ⟨same, alike⟩ := first
            dsimp only at same alike
            subst same
            exact .cons name alike (ih.2 rest)

/-- Trees that are alike hold equally many methods. -/
theorem Alike.methodCount_eq {tree : ResourceTree α} {other : ResourceTree β}
    (alike : tree.Alike R other) : tree.methodCount = other.methodCount := by
  induction tree generalizing other with
  | node methods resources ih =>
      cases alike with
      | @node _ methods' _ resources' own beneath =>
          have all : methodCountAll resources = methodCountAll resources' := by
            induction resources generalizing resources' with
            | nil =>
                cases beneath
                rw [methodCountAll, methodCountAll]
            | cons head resources ihRest =>
                cases beneath with
                | cons name first rest =>
                    rw [methodCountAll, methodCountAll, ih _ List.mem_cons_self first,
                      ihRest (fun pair member => ih pair (List.mem_cons_of_mem _ member)) rest]
          rw [methodCount, methodCount, own.length_eq, all]

end ApiDiscovery.ResourceTree
