import ApiDiscovery.Proofs.Expand.Attempt
import ApiDiscovery.Proofs.FanOut.Alike
import ApiDiscovery.Proofs.Generate.Requests
import ApiDiscovery.Proofs.ResourceTree.Alike

/-!
# The key of a generation

A generation copies its key into every method and looks at it nowhere else.  So
two runs with different keys do the same, log the same and fail alike; what they
generate has the same shape, and any two methods in the same place differ in
their keys alone, of which their descriptions tell nothing.
-/

namespace ApiDiscovery

/-! ## Compilation -/

/-- The two methods are the same but for their keys, of which neither description tells anything. -/
structure ApiMethod.SameButKey (key other : String) (mine yours : ApiMethod) : Prop where
  label_eq : mine.label = yours.label
  verb_eq : mine.verb = yours.verb
  path_eq : mine.path = yours.path
  baseUrl_eq : mine.binding.baseUrl = yours.binding.baseUrl
  describe_eq : mine.describe = yours.describe
  describe_binding_eq : mine.binding.describe = yours.binding.describe
  mine_key : mine.binding.apiKey = some key
  yours_key : yours.binding.apiKey = some other

/-- Descriptions of bindings tell whether there is a key, but not which. -/
theorem Binding.describe_eq (key other baseUrl : String) :
    describe ⟨some key, baseUrl⟩ = describe ⟨some other, baseUrl⟩ := rfl

variable {key other : String}

theorem ApiMethod.compile_alike (baseUrl name : String) (declared : MethodDeclaration) :
    ResultsAlike (SameButKey key other) (compile ⟨some key, baseUrl⟩ name declared)
      (compile ⟨some other, baseUrl⟩ name declared) := by
  unfold compile
  split
  · exact .error _
  · split
    · exact .error _
    · split
      · exact .error _
      · exact .ok ⟨rfl, rfl, rfl, rfl, rfl, rfl, rfl, rfl⟩

theorem ApiMethod.SameButKey.compiledEvent_eq {mine yours : ApiMethod}
    (same : SameButKey key other mine yours) : mine.compiledEvent = yours.compiledEvent := by
  rw [compiledEvent, compiledEvent, same.label_eq, same.verb_eq, same.path_eq]

namespace ResourceTree

abbrev SameButKey (key other : String) : ResourceTree ApiMethod → ResourceTree ApiMethod → Prop :=
  Alike (ApiMethod.SameButKey key other)

/-- The same half of a root is put in place in both trees. -/
inductive HalvesAlike (key other : String) : Half → Half → Prop where
  | methods {table table' : NameTable ApiMethod}
      (aligned : NameTable.Aligned (fun _ => ApiMethod.SameButKey key other) table table') :
      HalvesAlike key other (.methods table) (.methods table')
  | resources {table table' : NameTable (ResourceTree ApiMethod)}
      (aligned : NameTable.Aligned (fun _ => SameButKey key other) table table') :
      HalvesAlike key other (.resources table) (.resources table')

theorem install_alike {tree tree' : ResourceTree ApiMethod} (alike : tree.SameButKey key other tree')
    {half half' : Half} (halves : HalvesAlike key other half half') :
    (install tree half).SameButKey key other (install tree' half') := by
  cases alike with
  | node own beneath =>
      cases halves with
      | methods aligned => exact .node aligned beneath
      | resources aligned => exact .node own (alikeAll_iff.2 aligned)

theorem methodLaunch_alike (baseUrl name : String) (declared : MethodDeclaration)
    (sent : List Request) :
    (methodLaunch ⟨some key, baseUrl⟩ name declared sent).Alike
      (fun mine yours => mine.1 = yours.1 ∧ ApiMethod.SameButKey key other mine.2 yours.2)
      (methodLaunch ⟨some other, baseUrl⟩ name declared sent) := by
  have compiled : ResultsAlike (ApiMethod.SameButKey key other) _ _ :=
    ApiMethod.compile_alike baseUrl name declared
  unfold methodLaunch
  generalize ApiMethod.compile ⟨some key, baseUrl⟩ name declared = result at compiled ⊢
  generalize ApiMethod.compile ⟨some other, baseUrl⟩ name declared = result' at compiled ⊢
  cases compiled with
  | error error => exact ⟨rfl, rfl, rfl, rfl, .error error⟩
  | ok same =>
      have events := congrArg (fun event => [event]) same.compiledEvent_eq
      exact ⟨rfl, rfl, rfl, events, .ok ⟨rfl, same⟩⟩

theorem compileMethods_alike (baseUrl : String) (methods : NameTable MethodDeclaration) :
    (compileMethods ⟨some key, baseUrl⟩ methods).Alike
      (NameTable.Aligned fun _ => ApiMethod.SameButKey key other)
      (compileMethods ⟨some other, baseUrl⟩ methods) :=
  FanOut.join_alike _
    (FanOut.launchesAlike_map fun pair _ => methodLaunch_alike baseUrl pair.1 pair.2) _

theorem compileHalves_alike {methods methods' : Outcome GenerateError (NameTable ApiMethod)}
    {resources resources' : Outcome GenerateError (NameTable (ResourceTree ApiMethod))}
    (own : methods.Alike (NameTable.Aligned fun _ => ApiMethod.SameButKey key other) methods')
    (beneath : resources.Alike (NameTable.Aligned fun _ => SameButKey key other) resources') :
    (compileHalves methods resources).Alike (SameButKey key other)
      (compileHalves methods' resources') := by
  have launches : FanOut.LaunchesAlike (HalvesAlike key other)
      [(methods.map Half.methods).toLaunch, (resources.map Half.resources).toLaunch]
      [(methods'.map Half.methods).toLaunch, (resources'.map Half.resources).toLaunch] :=
    .cons (own.map .methods).toLaunch (.cons (beneath.map .resources).toLaunch .nil)
  refine (FanOut.join_alike _ launches []).map fun halves => ?_
  exact List.rel_foldl (P := SameButKey key other) (R := HalvesAlike key other)
    (fun tree tree' alike half half' same => install_alike alike same) (.node .nil .nil) halves

/-- Whatever tree is declared, it compiles to trees that are the same but for the keys. -/
theorem compile_alike (baseUrl : String) (declared : ResourceTree MethodDeclaration) :
    (compile ⟨some key, baseUrl⟩ declared).Alike (SameButKey key other)
      (compile ⟨some other, baseUrl⟩ declared) := by
  induction declared with
  | node methods resources ih =>
      rw [compile, compile]
      refine compileHalves_alike (compileMethods_alike baseUrl methods) ?_
      rw [compileLaunches_eq_map, compileLaunches_eq_map]
      refine FanOut.join_alike _ (FanOut.launchesAlike_map fun pair member => ?_) _
      exact ((ih pair member).map fun alike => ⟨rfl, alike⟩).toLaunch

end ResourceTree

theorem ApiDescription.compile_alike (api : ApiDescription) :
    (api.compile (some key)).Alike (ResourceTree.SameButKey key other)
      (api.compile (some other)) := by
  unfold compile
  refine Outcome.Alike.logFirst (Outcome.Alike.logLast (ResourceTree.compile_alike _ _) ?_) _
  intro tree tree' alike
  rw [compiledEvent, compiledEvent, alike.methodCount_eq]

/-! ## Generation -/

namespace ApiListing

variable (files : Files) (network : Network)

theorem compileDocument_alike (url : String) (document : Json) :
    (compileDocument (some key) url document).Alike (ResourceTree.SameButKey key other)
      (compileDocument (some other) url document) := by
  unfold compileDocument
  cases ApiDescription.ofJson document with
  | error mismatch => exact .fail _
  | ok api => exact api.compile_alike

theorem entryLaunch_alike (name url : String) (sent : List Request) :
    (entryLaunch files network (some key) name url sent).Alike
      (fun mine yours => mine.1 = yours.1 ∧ ResourceTree.SameButKey key other mine.2 yours.2)
      (entryLaunch files network (some other) name url sent) := by
  refine (Task.Alike.refl _).andThen ?_
  rintro document _ rfl
  exact (compileDocument_alike url document).map fun alike => ⟨rfl, alike⟩

theorem entryLaunches_alike (entries : List ListedApi) :
    FanOut.LaunchesAlike
      (fun mine yours => mine.1 = yours.1 ∧ ResourceTree.SameButKey key other mine.2 yours.2)
      (entryLaunches files network (some key) entries)
      (entryLaunches files network (some other) entries) := by
  rw [entryLaunches_eq_map, entryLaunches_eq_map]
  exact FanOut.launchesAlike_map fun pair _ => entryLaunch_alike files network pair.1 pair.2

theorem expand_alike (listing : ApiListing) (source : String) (sent : List Request) :
    (listing.expand files network (some key) source sent).Alike
      (NameTable.Aligned fun _ => ResourceTree.SameButKey key other)
      (listing.expand files network (some other) source sent) := by
  unfold expand
  cases listing.items with
  | none => exact .fail _
  | some entries =>
      refine Outcome.Alike.logFirst (Outcome.Alike.map
        (FanOut.join_alike _ (entryLaunches_alike files network entries) _) ?_) _
      exact NameTable.ofList_aligned (R := fun _ => ResourceTree.SameButKey key other)

end ApiListing

inductive Generated.SameButKey (key other : String) : Generated → Generated → Prop where
  | api {tree tree' : ResourceTree ApiMethod} (alike : tree.SameButKey key other tree') :
      SameButKey key other (.api tree) (.api tree')
  | directory {apis apis' : NameTable (ResourceTree ApiMethod)}
      (aligned : NameTable.Aligned (fun _ => ResourceTree.SameButKey key other) apis apis') :
      SameButKey key other (.directory apis) (.directory apis')

namespace Generate

theorem ofDocument_alike (files : Files) (network : Network) (source : String)
    (kind : Options.DocumentKind) (document : Json) (sent : List Request) :
    (ofDocument files network (some key) source kind document sent).Alike
      (Generated.SameButKey key other)
      (ofDocument files network (some other) source kind document sent) := by
  unfold ofDocument
  cases kind with
  | listing =>
      cases ApiListing.ofJson document with
      | error mismatch => exact .fail _
      | ok listing =>
          refine Outcome.Alike.map (Outcome.Alike.logLast
            (listing.expand_alike files network source sent) ?_) .directory
          intro apis apis' aligned
          rw [directoryEvent, directoryEvent, aligned.length_eq]
  | api =>
      cases ApiDescription.ofJson document with
      | error mismatch => exact .fail _
      | ok api =>
          refine Outcome.Alike.map (Outcome.Alike.logLast api.compile_alike ?_) .api
          intro tree tree' alike
          rw [apiEvent, apiEvent, alike.methodCount_eq]

theorem run_alike (files : Files) (network : Network) (options : Options) (sent : List Request) :
    (run files network { options with apiKey := some key } sent).Alike
      (Generated.SameButKey key other)
      (run files network { options with apiKey := some other } sent) := by
  rw [run_eq_andThen, run_eq_andThen]
  refine Outcome.Alike.andThen (Task.Alike.refl _).toOutcome ?_
  rintro found _ before rfl
  cases found with
  | none => exact .fail _
  | some document => exact ofDocument_alike files network _ _ document before

/--
Two runs that differ in their keys alone send the same, log the same and take
the same rounds, and either fail with the same error or generate the same but
for the keys: each method holds the key of its run, and neither its description
nor that of its binding tells which one that is.
-/
theorem run_hides_key (files : Files) (network : Network) (options : Options) (key other : String)
    (sent : List Request) :
    let mine := run files network { options with apiKey := some key } sent
    let yours := run files network { options with apiKey := some other } sent
    mine.requests = yours.requests ∧ mine.log = yours.log ∧ mine.rounds = yours.rounds ∧
    ((∃ error, mine.result = .error error ∧ yours.result = .error error) ∨
      ∃ generated generated', mine.result = .ok generated ∧ yours.result = .ok generated' ∧
        Generated.SameButKey key other generated generated') ∧
    ∀ api : ApiDescription,
      (api.binding (some key)).describe = (api.binding (some other)).describe := by
  intro mine yours
  have alike : mine.Alike (Generated.SameButKey key other) yours :=
    run_alike files network options sent
  refine ⟨alike.requests_eq, alike.log_eq, alike.rounds_eq, ?_, ?_⟩
  · rcases resultsAlike_iff.1 alike.results with failed | succeeded
    · exact .inl failed
    · exact .inr succeeded
  · exact fun api => Binding.describe_eq key other _

/-- A method holds the key, and its description is silent about it. -/
example : ((run (fun _ => .ok (Text.Utf8.encode
      "\x7b\"methods\":\x7b\"m\":\x7b\"httpMethod\":\"get\",\"path\":\"p\"\x7d\x7d\x7d".toList))
    (fun _ _ => { received := .ok none }) { restFile := some "api", apiKey := some "secret" }
    []).result.map fun generated => (generated.lookup "m").map fun method =>
      (method.binding.apiKey, method.describe)) =
    .ok (some (some "secret",
      "ApiMethod \x7b label: \"$m\", http_method: GET, base_url: \"\", path: \"p\", .. \x7d")) := by
  decide +kernel

end Generate

end ApiDiscovery
