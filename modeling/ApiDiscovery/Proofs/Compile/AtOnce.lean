import ApiDiscovery.Compile
import ApiDiscovery.Proofs.Activity
import ApiDiscovery.Proofs.FanOut.Join
import ApiDiscovery.Proofs.ResourceTree

/-!
# Compilation is done at once

Compiling sends nothing and is over in the round in which it starts: what holds
of every task of a join holds of the join, and at the leaves there are only
methods.
-/

namespace ApiDiscovery

/-- A join of tasks that are done at once is done at once. -/
theorem FanOut.join_atOnce {ε α : Type} {rule : Rule} {launches : List (Launch ε α)}
    {sent : List Request}
    (each : ∀ launch ∈ launches, ∀ before, (launch before).toOutcome.AtOnce) :
    (join rule launches sent).AtOnce := by
  have known : ∀ task ∈ launched sent launches, task.toOutcome.AtOnce := by
    intro task member
    obtain ⟨launch, found, before, rfl⟩ := exists_of_mem_launched member
    exact each launch found before
  refine ⟨?_, join_rounds_eq_zero fun task member => (known task member).rounds_eq⟩
  rw [join_requests, requestsOf, List.flatMap_eq_nil_iff]
  exact fun task member => (known task ((started_isPrefix _ _ _).subset member)).requests_eq

namespace ResourceTree

variable {binding : Binding}

theorem compileLaunches_eq_map (resources : List (String × ResourceTree MethodDeclaration)) :
    compileLaunches binding resources = resources.map fun (name, tree) =>
      ((compile binding tree).map fun compiled => (name, compiled)).toLaunch := by
  induction resources with
  | nil => rw [compileLaunches]; rfl
  | cons head rest ih =>
      obtain ⟨name, tree⟩ := head
      rw [compileLaunches, ih]
      rfl

theorem compileMethods_atOnce (methods : NameTable MethodDeclaration) :
    (compileMethods binding methods).AtOnce := by
  apply FanOut.join_atOnce
  intro launch member before
  obtain ⟨⟨name, declared⟩, _, rfl⟩ := List.mem_map.1 member
  dsimp only [methodLaunch]
  cases ApiMethod.compile binding name declared with
  | error error => exact ⟨rfl, rfl⟩
  | ok method => exact ⟨rfl, rfl⟩

theorem compileHalves_atOnce {methods : Outcome GenerateError (NameTable ApiMethod)}
    {resources : Outcome GenerateError (NameTable (ResourceTree ApiMethod))}
    (methodsAtOnce : methods.AtOnce) (resourcesAtOnce : resources.AtOnce) :
    (compileHalves methods resources).AtOnce := by
  apply Outcome.AtOnce.map
  apply FanOut.join_atOnce
  intro launch member before
  rcases List.mem_cons.1 member with rfl | later
  · exact (methodsAtOnce.map _).toLaunch before
  · rw [List.mem_singleton.1 later]
    exact (resourcesAtOnce.map _).toLaunch before

/-- A tree is compiled at once, whatever its depth and width. -/
theorem compile_atOnce (binding : Binding) (declared : ResourceTree MethodDeclaration) :
    (compile binding declared).AtOnce := by
  induction declared with
  | node methods resources ih =>
      rw [compile]
      apply compileHalves_atOnce (compileMethods_atOnce methods)
      rw [compileLaunches_eq_map]
      apply FanOut.join_atOnce
      intro launch member before
      obtain ⟨pair, found, rfl⟩ := List.mem_map.1 member
      exact ((ih pair found).map _).toLaunch before

end ResourceTree

theorem ApiDescription.compile_atOnce (apiKey : Option String) (api : ApiDescription) :
    (api.compile apiKey).AtOnce :=
  ((ResourceTree.compile_atOnce _ api.root).logLast _).logFirst _

end ApiDiscovery
