import ApiDiscovery.Proofs.Compile.Mirror
import ApiDiscovery.Proofs.FanOut.InTurn
import ApiDiscovery.Proofs.ResourceTree.Places

/-!
# Compiling in turn

The joins at the nodes of a tree make no difference: a tree is compiled as if
its methods were taken one behind the other, depth first, those of a node before
those of its resources.  So the first malformed method in this order is the one
reported, and what is logged are the methods before it.
-/

namespace ApiDiscovery

/-! ## One method -/

/-- What a declaration lacks first: a verb, a verb that is a token, a path. -/
inductive MethodDeclaration.Lacks (declared : MethodDeclaration) : MethodFault → Prop where
  | verb (absent : declared.httpMethod = none) : Lacks declared .noVerb
  | token {verb : String} (written : declared.httpMethod = some verb)
      (invalid : ¬ ApiMethod.isToken verb.toList) : Lacks declared (.badVerb verb)
  | path {verb : String} (written : declared.httpMethod = some verb)
      (token : ApiMethod.isToken verb.toList) (absent : declared.path = none) :
      Lacks declared .noPath

/-- A method that is not complete lacks something. -/
theorem MethodDeclaration.exists_lacks {declared : MethodDeclaration}
    (incomplete : ¬ declared.IsComplete) : ∃ fault, declared.Lacks fault := by
  cases written : declared.httpMethod with
  | none => exact ⟨_, .verb written⟩
  | some verb =>
      by_cases token : ApiMethod.isToken verb.toList
      · cases found : declared.path with
        | none => exact ⟨_, .path written token found⟩
        | some path => exact absurd ⟨by rw [found]; rfl, verb, written, token⟩ incomplete
      · exact ⟨_, .token written token⟩

namespace ApiMethod

/-- A method that lacks something fails with just that. -/
theorem compile_of_lacks {binding : Binding} {name : String} {declared : MethodDeclaration}
    {fault : MethodFault} (lacks : declared.Lacks fault) :
    compile binding name declared = .error (.malformedMethod name fault) := by
  unfold compile
  cases lacks with
  | verb absent => rw [absent]
  | @token verb written invalid =>
      have refused : verbOf? verb = none := by
        cases found : verbOf? verb with
        | none => rfl
        | some capital => exact absurd (verbOf?_eq_some_iff.1 found).1 invalid
      rw [written]
      dsimp only
      rw [refused]
  | path written token absent =>
      rw [written]
      dsimp only
      rw [verbOf?_eq_some_iff.2 ⟨token, rfl⟩, absent]

def compileAlone (binding : Binding) (name : String) (declared : MethodDeclaration) :
    Outcome GenerateError ApiMethod :=
  match compile binding name declared with
  | .error error => .fail error
  | .ok method => { log := [method.compiledEvent], result := .ok method }

theorem compileAlone_atOnce (binding : Binding) (name : String) (declared : MethodDeclaration) :
    (compileAlone binding name declared).AtOnce := by
  unfold compileAlone
  split
  · exact ⟨rfl, rfl⟩
  · exact ⟨rfl, rfl⟩

end ApiMethod

/-! ## One tree -/

namespace ResourceTree

variable {binding : Binding}

def methodsAlone (binding : Binding) (methods : NameTable MethodDeclaration) :
    List (Outcome GenerateError (String × ApiMethod)) :=
  methods.map fun (name, declared) =>
    (ApiMethod.compileAlone binding name declared).map fun method => (name, method)

mutual

/-- A tree compiled depth first: the methods of the root in turn, and then its resources. -/
def compileInTurn (binding : Binding) :
    ResourceTree MethodDeclaration → Outcome GenerateError (ResourceTree ApiMethod)
  | .node methods resources =>
      (Outcome.inTurn (methodsAlone binding methods)).andThen [] fun ownMethods _ =>
        (compileAllInTurn binding resources).map fun ownResources => .node ownMethods ownResources

def compileAllInTurn (binding : Binding) :
    List (String × ResourceTree MethodDeclaration) →
      Outcome GenerateError (List (String × ResourceTree ApiMethod))
  | [] => .pure []
  | (name, tree) :: rest =>
      ((compileInTurn binding tree).map fun compiled => (name, compiled)).andThen [] fun first _ =>
        (compileAllInTurn binding rest).map (first :: ·)

end

theorem compileAllInTurn_eq_inTurn (resources : List (String × ResourceTree MethodDeclaration)) :
    compileAllInTurn binding resources = Outcome.inTurn (resources.map fun (name, tree) =>
      (compileInTurn binding tree).map fun compiled => (name, compiled)) := by
  induction resources with
  | nil => rw [compileAllInTurn]; rfl
  | cons head rest ih =>
      obtain ⟨name, tree⟩ := head
      rw [compileAllInTurn, ih]
      rfl

theorem methodsAlone_atOnce {methods : NameTable MethodDeclaration} :
    ∀ outcome ∈ methodsAlone binding methods, outcome.AtOnce := by
  intro outcome member
  obtain ⟨pair, _, rfl⟩ := List.mem_map.1 member
  exact (ApiMethod.compileAlone_atOnce _ _ _).map _

/-- The join of the methods of a node does as they do in turn. -/
theorem compileMethods_eq_inTurn (methods : NameTable MethodDeclaration) :
    compileMethods binding methods = Outcome.inTurn (methodsAlone binding methods) := by
  have launches : (methods.map fun (name, declared) => methodLaunch binding name declared) =
      (methodsAlone binding methods).map Outcome.toLaunch := by
    rw [methodsAlone, List.map_map]
    refine List.map_congr_left fun pair _ => funext fun sent => ?_
    simp only [Function.comp_apply, methodLaunch, ApiMethod.compileAlone]
    cases ApiMethod.compile binding pair.1 pair.2 with
    | error error => rfl
    | ok method => rfl
  rw [compileMethods, launches]
  exact FanOut.join_eq_inTurn _ _ methodsAlone_atOnce

/-- The join of the two halves of a node does as they do in turn. -/
theorem compileHalves_eq_andThen {methods : Outcome GenerateError (NameTable ApiMethod)}
    {resources : Outcome GenerateError (NameTable (ResourceTree ApiMethod))}
    (methodsAtOnce : methods.AtOnce) (resourcesAtOnce : resources.AtOnce) :
    compileHalves methods resources =
      methods.andThen [] fun ownMethods _ =>
        resources.map fun ownResources => .node ownMethods ownResources := by
  have atOnce : ∀ half ∈ [methods.map Half.methods, resources.map Half.resources], half.AtOnce := by
    intro half member
    rcases List.mem_cons.1 member with rfl | later
    · exact methodsAtOnce.map _
    · rw [List.mem_singleton.1 later]
      exact resourcesAtOnce.map _
  have joined := FanOut.join_eq_inTurn .asAWhole [] atOnce
  rw [List.map_cons, List.map_singleton] at joined
  rw [compileHalves, joined]
  obtain ⟨_, methodsLog, _, methodsResult⟩ := methods
  obtain ⟨_, resourcesLog, _, resourcesResult⟩ := resources
  obtain ⟨rfl, rfl⟩ := methodsAtOnce
  obtain ⟨rfl, rfl⟩ := resourcesAtOnce
  cases methodsResult with
  | error error => rfl
  | ok ownMethods =>
      cases resourcesResult with
      | error error =>
          simp [Outcome.inTurn, Outcome.map, Outcome.andThen, Except.map]
      | ok ownResources =>
          simp [Outcome.inTurn, Outcome.map, Outcome.andThen, Outcome.pure, Except.map, install,
            empty, methods]

/-- A tree is compiled as if its methods were compiled in turn. -/
theorem compile_eq_compileInTurn (binding : Binding) (declared : ResourceTree MethodDeclaration) :
    compile binding declared = compileInTurn binding declared := by
  induction declared with
  | node methods resources ih =>
      have launches : compileLaunches binding resources =
          (resources.map fun (name, tree) =>
            (compileInTurn binding tree).map fun compiled => (name, compiled)).map
              Outcome.toLaunch := by
        rw [compileLaunches_eq_map, List.map_map]
        refine List.map_congr_left fun pair member => ?_
        simp only [Function.comp_apply, ih pair member]
      have resourcesAtOnce : ∀ outcome ∈ resources.map (fun (name, tree) =>
          (compileInTurn binding tree).map fun compiled => (name, compiled)), outcome.AtOnce := by
        intro outcome member
        obtain ⟨pair, found, rfl⟩ := List.mem_map.1 member
        simp only [← ih pair found]
        exact (compile_atOnce binding pair.2).map _
      have resourcesInTurn := FanOut.join_eq_inTurn (.ofSize resources.length) [] resourcesAtOnce
      have joinAtOnce : (FanOut.join (.ofSize resources.length)
          (compileLaunches binding resources) []).AtOnce := by
        rw [launches]
        apply FanOut.join_atOnce
        intro launch member before
        obtain ⟨outcome, found, rfl⟩ := List.mem_map.1 member
        exact (resourcesAtOnce outcome found).toLaunch before
      rw [compile, compileHalves_eq_andThen (compileMethods_atOnce methods) joinAtOnce, launches,
        resourcesInTurn, compileMethods_eq_inTurn, compileInTurn, compileAllInTurn_eq_inTurn]

/-! ## The order of the places -/

def placeAlone (binding : Binding) (place : Place MethodDeclaration) :
    Outcome GenerateError ApiMethod :=
  ApiMethod.compileAlone binding place.name place.method

/-- A tree compiled in turn takes the course of its places one behind the other. -/
theorem course_compileInTurn (binding : Binding) (declared : ResourceTree MethodDeclaration) :
    (compileInTurn binding declared).course =
      (Outcome.inTurn ((places declared).map (placeAlone binding))).course := by
  induction declared with
  | node methods resources ih =>
      have own : (Outcome.inTurn (methodsAlone binding methods)).course =
          (Outcome.inTurn ((methods.map fun (name, declared) => Place.mk [] name declared).map
            (placeAlone binding))).course := by
        rw [methodsAlone, List.map_map]
        exact Outcome.course_inTurn_congr fun pair _ => Outcome.course_map _ _
      have beneath : (compileAllInTurn binding resources).course =
          (Outcome.inTurn ((placesAll resources).map (placeAlone binding))).course := by
        induction resources with
        | nil =>
            rw [compileAllInTurn, placesAll]
            rfl
        | cons head rest ihRest =>
            obtain ⟨name, tree⟩ := head
            have inside : ((places tree).map (Place.under name)).map (placeAlone binding) =
                (places tree).map (placeAlone binding) := by
              rw [List.map_map]
              rfl
            rw [compileAllInTurn, placesAll, List.map_append, inside, Outcome.course_inTurn_append,
              ← ih _ List.mem_cons_self,
              ← ihRest fun pair member => ih pair (List.mem_cons_of_mem _ member),
              Outcome.course_andThen fun _ _ => Outcome.course_map _ _, Outcome.course_map]
      rw [compileInTurn, places, List.map_append, Outcome.course_inTurn_append, ← own, ← beneath]
      exact Outcome.course_andThen fun _ _ => Outcome.course_map _ _

/-- The event tells the label, the verb and the path of the method compiled at this place. -/
def LoggedAt (binding : Binding) (place : Place MethodDeclaration) (event : Event) : Prop :=
  ∃ method, ApiMethod.compile binding place.name place.method = .ok method ∧
    event = ⟨.debug, "Compiled method",
      [("label", method.label), ("http_method", method.verb), ("path", method.path)]⟩

/-- A complete method is compiled and logged, and the places behind it follow. -/
theorem inTurn_cons_of_isComplete (binding : Binding) {place : Place MethodDeclaration}
    (complete : place.method.IsComplete) (rest : List (Place MethodDeclaration)) :
    ∃ method event, LoggedAt binding place event ∧
      Outcome.inTurn ((place :: rest).map (placeAlone binding)) =
        ((Outcome.inTurn (rest.map (placeAlone binding))).map (method :: ·)).logFirst [event] := by
  obtain ⟨method, compiled⟩ := ApiMethod.exists_compile_iff.2 complete
  have alone : placeAlone binding place =
      { log := [method.compiledEvent], result := .ok method } := by
    rw [placeAlone, ApiMethod.compileAlone, compiled]
  have atOnce : (placeAlone binding place).AtOnce := ApiMethod.compileAlone_atOnce _ _ _
  have done : (placeAlone binding place).result = .ok method := by rw [alone]
  refine ⟨method, method.compiledEvent, ⟨method, compiled, rfl⟩, ?_⟩
  rw [List.map_cons, Outcome.inTurn_cons_of_ok atOnce done, alone]

theorem inTurn_of_isComplete (binding : Binding) {all : List (Place MethodDeclaration)}
    (complete : ∀ place ∈ all, place.method.IsComplete) :
    (∃ compiled, (Outcome.inTurn (all.map (placeAlone binding))).result = .ok compiled) ∧
      List.Forall₂ (LoggedAt binding) all (Outcome.inTurn (all.map (placeAlone binding))).log := by
  induction all with
  | nil => exact ⟨⟨[], rfl⟩, .nil⟩
  | cons place rest ih =>
      obtain ⟨method, event, logged, run⟩ :=
        inTurn_cons_of_isComplete binding (complete place List.mem_cons_self) rest
      obtain ⟨⟨compiled, done⟩, events⟩ := ih fun other member =>
        complete other (List.mem_cons_of_mem _ member)
      rw [run]
      exact ⟨⟨method :: compiled, except_map_eq_ok_iff.2 ⟨compiled, done, rfl⟩⟩,
        .cons logged events⟩

theorem inTurn_of_lacks (binding : Binding) {before : List (Place MethodDeclaration)}
    (after : List (Place MethodDeclaration)) {place : Place MethodDeclaration} {fault : MethodFault}
    (complete : ∀ earlier ∈ before, earlier.method.IsComplete)
    (lacks : place.method.Lacks fault) :
    (Outcome.inTurn ((before ++ place :: after).map (placeAlone binding))).result =
        .error (.malformedMethod place.name fault) ∧
      List.Forall₂ (LoggedAt binding) before
        (Outcome.inTurn ((before ++ place :: after).map (placeAlone binding))).log := by
  induction before with
  | nil =>
      have alone : placeAlone binding place = .fail (.malformedMethod place.name fault) := by
        rw [placeAlone, ApiMethod.compileAlone, ApiMethod.compile_of_lacks lacks]
      rw [List.nil_append, List.map_cons, alone, Outcome.inTurn_cons_of_error ⟨rfl, rfl⟩ rfl]
      exact ⟨rfl, .nil⟩
  | cons first before ih =>
      obtain ⟨method, event, logged, run⟩ := inTurn_cons_of_isComplete binding
        (complete first List.mem_cons_self) (before ++ place :: after)
      obtain ⟨failed, events⟩ := ih fun other member =>
        complete other (List.mem_cons_of_mem _ member)
      rw [List.cons_append, run]
      exact ⟨except_map_eq_error_iff.2 failed, .cons logged events⟩

/-- Of places that are not all complete there is a first one that is not. -/
theorem exists_first_incomplete {all : List (Place MethodDeclaration)}
    (incomplete : ¬ ∀ place ∈ all, place.method.IsComplete) :
    ∃ before place after fault, all = before ++ place :: after ∧
      (∀ earlier ∈ before, earlier.method.IsComplete) ∧ place.method.Lacks fault := by
  induction all with
  | nil => exact absurd (List.forall_mem_nil _) incomplete
  | cons first rest ih =>
      by_cases complete : first.method.IsComplete
      · obtain ⟨before, place, after, fault, rfl, earlier, lacks⟩ := ih fun others =>
          incomplete (List.forall_mem_cons.2 ⟨complete, others⟩)
        exact ⟨first :: before, place, after, fault, rfl,
          List.forall_mem_cons.2 ⟨complete, earlier⟩, lacks⟩
      · obtain ⟨fault, lacks⟩ := MethodDeclaration.exists_lacks complete
        exact ⟨[], first, rest, fault, rfl, List.forall_mem_nil _, lacks⟩

/-- A tree fails to compile exactly because of the first method that is not complete. -/
theorem compile_result_eq_error_iff (binding : Binding) (declared : ResourceTree MethodDeclaration)
    {error : GenerateError} :
    (compile binding declared).result = .error error ↔
      ∃ before place after fault, declared.places = before ++ place :: after ∧
        (∀ earlier ∈ before, earlier.method.IsComplete) ∧ place.method.Lacks fault ∧
        error = .malformedMethod place.name fault := by
  have course := compile_eq_compileInTurn binding declared ▸ course_compileInTurn binding declared
  constructor
  · intro failed
    have incomplete : ¬ ∀ place ∈ declared.places, place.method.IsComplete := by
      intro complete
      obtain ⟨⟨_, done⟩, _⟩ := inTurn_of_isComplete binding complete
      obtain ⟨tree, compiled⟩ := Outcome.result_eq_ok_of_course course done
      rw [failed] at compiled
      cases compiled
    obtain ⟨before, place, after, fault, split, complete, lacks⟩ :=
      exists_first_incomplete incomplete
    rw [split] at course
    have same := Outcome.result_eq_error_of_course course
      (inTurn_of_lacks binding after complete lacks).1
    rw [failed] at same
    exact ⟨before, place, after, fault, split, complete, lacks, Except.error.inj same⟩
  · rintro ⟨before, place, after, fault, split, complete, lacks, rfl⟩
    rw [split] at course
    exact Outcome.result_eq_error_of_course course
      (inTurn_of_lacks binding after complete lacks).1

end ResourceTree

/--
Compiling a tree whose names are in order is compiling it in turn, which is over
at once and sends nothing.  The places are taken in their order, each method
that can be reached once.  The first method that is not complete is the one
reported, with what it lacks first; what is logged are the methods before it, or
all of them if all are complete.
-/
theorem compile_proceeds_in_turn (binding : Binding) (declared : ResourceTree MethodDeclaration)
    (ordered : declared.Ordered) :
    declared.compile binding = declared.compileInTurn binding ∧
    (declared.compile binding).AtOnce ∧
    declared.places.Pairwise Place.Precedes ∧
    (∀ place, place ∈ declared.places ↔ declared.IsAt place) ∧
    (∀ before place after, declared.places = before ++ place :: after →
      (∀ earlier ∈ before, earlier.method.IsComplete) → ¬ place.method.IsComplete →
        ∃ fault, place.method.Lacks fault ∧
          (declared.compile binding).result = .error (.malformedMethod place.name fault) ∧
          List.Forall₂ (ResourceTree.LoggedAt binding) before (declared.compile binding).log) ∧
    ((∀ place ∈ declared.places, place.method.IsComplete) →
      (∃ tree, (declared.compile binding).result = .ok tree) ∧
        List.Forall₂ (ResourceTree.LoggedAt binding) declared.places
          (declared.compile binding).log) := by
  have inTurn := ResourceTree.compile_eq_compileInTurn binding declared
  have course := inTurn ▸ ResourceTree.course_compileInTurn binding declared
  refine ⟨inTurn, ResourceTree.compile_atOnce binding declared,
    ResourceTree.pairwise_precedes_places ordered,
    fun place => ResourceTree.mem_places_iff ordered, ?_, ?_⟩
  · intro before place after split complete incomplete
    obtain ⟨fault, lacks⟩ := MethodDeclaration.exists_lacks incomplete
    obtain ⟨failed, events⟩ := ResourceTree.inTurn_of_lacks binding after complete lacks
    rw [split] at course
    exact ⟨fault, lacks, Outcome.result_eq_error_of_course course failed,
      Outcome.log_eq_of_course course ▸ events⟩
  · intro complete
    obtain ⟨⟨_, done⟩, events⟩ := ResourceTree.inTurn_of_isComplete binding complete
    exact ⟨Outcome.result_eq_ok_of_course course done, Outcome.log_eq_of_course course ▸ events⟩

/-- A method without a verb deep down, and a method without a path behind it. -/
def brokenDeclaration : ResourceTree MethodDeclaration :=
  .node [("ok", { path := some "ok", httpMethod := some "GET" })]
    [("bad", .node [] [("deeper", .node [("broken", { path := some "broken" })] [])]),
      ("good", .node [("get", { httpMethod := some "GET" })] [])]

theorem compile_brokenDeclaration :
    brokenDeclaration.Ordered ∧
      (brokenDeclaration.compile ⟨none, ""⟩).result = .error (.malformedMethod "broken" .noVerb) ∧
      List.Forall₂ (ResourceTree.LoggedAt ⟨none, ""⟩)
        [⟨[], "ok", { path := some "ok", httpMethod := some "GET" }⟩]
        (brokenDeclaration.compile ⟨none, ""⟩).log := by
  have ordered : brokenDeclaration.Ordered := by decide
  obtain ⟨_, _, _, _, fails, _⟩ := compile_proceeds_in_turn ⟨none, ""⟩ brokenDeclaration ordered
  have complete : ∀ earlier ∈ [Place.mk [] "ok"
      ({ path := some "ok", httpMethod := some "GET" } : MethodDeclaration)],
      earlier.method.IsComplete := by
    intro earlier member
    rw [List.mem_singleton.1 member]
    exact ⟨rfl, "GET", rfl, by decide⟩
  have incomplete : ¬ MethodDeclaration.IsComplete { path := some "broken" } := by
    rintro ⟨_, verb, written, _⟩
    cases written
  obtain ⟨fault, lacks, failed, logged⟩ :=
    fails [_] ⟨["bad", "deeper"], "broken", { path := some "broken" }⟩ _ rfl complete incomplete
  cases lacks with
  | verb absent => exact ⟨ordered, failed, logged⟩
  | token written => cases written
  | path written => cases written

end ApiDiscovery
