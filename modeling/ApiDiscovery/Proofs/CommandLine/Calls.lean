import ApiDiscovery.Proofs.CommandLine.Items

/-!
# Calls from the command line

A run that calls a method sends what the generation sends and then one request
more at most: none unless the generation succeeded, the method was found, and
the body, if there is one, was read.  A word that is no pair of a name and a
value ends the run before anything is sent.
-/

namespace ApiDiscovery.CommandLine

/-- The options of a run: those of the file that it names, covered by its own. -/
def mergedOptions? (files : Files) (arguments : List String) (environmentKey : Option String) :
    Option Options :=
  let loaded : Option Options :=
    match lastValue? arguments .config with
    | none => some {}
    | some path => (Options.load files path).toOption
  loaded.map fun options => options.merge (optionsOf arguments environmentKey)

/-- The requests of a generation from the options of a run; none without options. -/
def generationRequests (world : World) (arguments : List String) : List Request :=
  match mergedOptions? world.files arguments world.environmentKey with
  | none => []
  | some options => (Generate.run world.files world.network options []).requests

/-- The body that a text on the command line spells: none without a text. -/
inductive SpellsBody : Option String → Option Json → Prop where
  | none : SpellsBody none none
  | text {text : String} {value : Json} (parsed : Json.parse text = .ok value) :
      SpellsBody (some text) (some value)

theorem spellsBody_iff {given : Option String} {body : Option Json} :
    SpellsBody given body ↔ bodyOf given = .ok body := by
  constructor
  · rintro (_ | parsed)
    · rfl
    · rw [bodyOf, parsed]
      rfl
  · intro read
    cases given with
    | none =>
        cases read
        exact .none
    | some text =>
        cases parsed : Json.parse text with
        | error error =>
            rw [bodyOf, parsed] at read
            cases read
        | ok value =>
            rw [bodyOf, parsed] at read
            cases read
            exact .text parsed

/-- The request by which a run calls the method at a path with arguments that are texts. -/
inductive CallsBy (world : World) (arguments : List String) (path : String)
    (given : List (String × String)) : Request → Prop where
  | intro {options : Options} {generated : Generated} {method : ApiMethod} {body : Option Json}
      (merged : mergedOptions? world.files arguments world.environmentKey = some options)
      (generation :
        (Generate.run world.files world.network options []).result = .ok generated)
      (found : generated.lookup path = some method)
      (spelled : SpellsBody (lastValue? arguments .body) body) :
      CallsBy world arguments path given
        ⟨method.verb,
          method.requestUrl (given.map fun (name, value) => (name, Json.string value)), body⟩

/-- The request by which a method of what was generated is called, if it comes to that. -/
def methodRequest? (generated : Generated) (path : String) (given : List (String × String))
    (body : Option String) : Option Request :=
  (generated.lookup path).bind fun method =>
    (bodyOf body).toOption.map fun value =>
      ⟨method.verb, method.requestUrl (textArguments given), value⟩

theorem callReport_requests (world : World) (verbose : Bool) (err : List Notice)
    (sent : List Request) (generated : Generated) (path : String)
    (given : List (String × String)) (body : Option String) :
    (callReport world verbose err sent generated path given body).requests =
      sent ++ (methodRequest? generated path given body).toList := by
  rw [callReport, methodRequest?]
  cases generated.lookup path with
  | none => exact (List.append_nil sent).symm
  | some method =>
      cases bodyOf body with
      | error error => exact (List.append_nil sent).symm
      | ok value =>
          dsimp only
          split <;> rfl

variable {world : World} {arguments : List String} {path : String}
  {given : List (String × String)} {body : Option String} {invocation : Invocation}

theorem mergedOptions_eq
    (spelled : SpelledCall arguments world.environmentKey path given body invocation) :
    (invocation.mergedOptions world.files).toOption =
      mergedOptions? world.files arguments world.environmentKey := by
  rw [Invocation.mergedOptions, mergedOptions?, spelled.config, spelled.options]
  cases lastValue? arguments .config with
  | none => rfl
  | some file =>
      dsimp only
      cases Options.load world.files file with
      | error error => rfl
      | ok loaded => rfl

/-- What a run sends behind the requests of its generation. -/
def callRequest? (world : World) (arguments : List String) (path : String)
    (given : List (String × String)) : Option Request :=
  (mergedOptions? world.files arguments world.environmentKey).bind fun options =>
    (Generate.run world.files world.network options []).result.toOption.bind fun generated =>
      methodRequest? generated path given (lastValue? arguments .body)

theorem run_requests
    (spelled : SpelledCall arguments world.environmentKey path given body invocation)
    (isCall : invocation.command = .call path given body) :
    (invocation.run world).requests =
      generationRequests world arguments ++ (callRequest? world arguments path given).toList := by
  have merged := mergedOptions_eq spelled
  rw [Invocation.run, generationRequests, callRequest?]
  cases loaded : invocation.mergedOptions world.files with
  | error failure =>
      rw [loaded] at merged
      rw [← merged]
      rfl
  | ok options =>
      rw [loaded] at merged
      rw [← merged]
      dsimp only [Except.toOption, Option.bind_some]
      cases (Generate.run world.files world.network options []).result with
      | error error => exact (List.append_nil _).symm
      | ok generated =>
          rw [isCall, ← spelled.body]
          exact callReport_requests ..

theorem methodRequest?_eq_some_iff {generated : Generated} {request : Request} :
    methodRequest? generated path given body = some request ↔
      ∃ method value, generated.lookup path = some method ∧ SpellsBody body value ∧
        ⟨method.verb, method.requestUrl (textArguments given), value⟩ = request := by
  simp only [methodRequest?, Option.bind_eq_some_iff, Option.map_eq_some_iff, spellsBody_iff]
  cases bodyOf body with
  | error error => simp [Except.toOption]
  | ok value => simp [Except.toOption]

theorem callRequest?_eq_some_iff {request : Request} :
    callRequest? world arguments path given = some request ↔
      CallsBy world arguments path given request := by
  rw [callRequest?]
  constructor
  · intro called
    obtain ⟨options, merged, rest⟩ := Option.bind_eq_some_iff.1 called
    cases generation : (Generate.run world.files world.network options []).result with
    | error error =>
        rw [generation] at rest
        cases rest
    | ok generated =>
        rw [generation] at rest
        obtain ⟨method, value, found, spelled, rfl⟩ := methodRequest?_eq_some_iff.1 rest
        exact .intro merged generation found spelled
  · rintro ⟨merged, generation, found, spelled⟩
    rw [merged, Option.bind_some, generation]
    exact methodRequest?_eq_some_iff.2 ⟨_, _, found, spelled, rfl⟩

/--
A run that calls a method sends the requests of the generation from its merged
options and then at most one more, the call of the method with the pairs of the
command line as texts.  If one of its words is no pair, nothing is sent.
-/
theorem call_sends_at_most_one_more (world : World) (arguments : List String) :
    (∀ invocation path given body, parse arguments world.environmentKey = .ok invocation →
      invocation.command = .call path given body →
      (∃ words, wordsOf arguments = "call" :: path :: words ∧
        List.Forall₂ CutAtEquals words given) ∧
      ∃ extra : Option Request,
        (run world arguments).requests = generationRequests world arguments ++ extra.toList ∧
        ∀ request, extra = some request ↔ CallsBy world arguments path given request) ∧
    ∀ path words, wordsOf arguments = "call" :: path :: words →
      (∃ word ∈ words, '=' ∉ word.toList) → (run world arguments).requests = [] := by
  constructor
  · intro invocation path given body parsed isCall
    have spelled := spelledCall_of_parse parsed isCall
    refine ⟨spelled.words, callRequest? world arguments path given, ?_, ?_⟩
    · rw [run, parsed]
      exact run_requests spelled isCall
    · exact fun request => callRequest?_eq_some_iff
  · rintro path words spelled ⟨word, member, notPair⟩
    rw [run]
    cases parsed : parse arguments world.environmentKey with
    | error stop => cases stop <;> rfl
    | ok invocation => exact absurd (pairs_of_parse parsed spelled word member) notPair

def bucketWorld : World where
  files := fun _ => .ok (Text.Utf8.encode
    ("\x7b\"baseUrl\":\"x/\",\"methods\":" ++
      "\x7b\"get\":\x7b\"httpMethod\":\"get\",\"path\":\"b\"\x7d\x7d\x7d").toList)
  network := fun _ _ => { received := .ok none }

/-- A call whose last word holds two equals signs. -/
def bucketCall : List String := ["call", "get", "q=a=b", "--rest-file", "api.json"]

theorem call_sends_at_most_one_more_bucketCall :
    (∃ request,
      (run bucketWorld bucketCall).requests =
        generationRequests bucketWorld bucketCall ++ [request] ∧
      request.url = "x/b?q=a%3Db" ∧
      CallsBy bucketWorld bucketCall "get" [("q", "a=b")] request) ∧
    (run bucketWorld ["call", "get", "q"]).requests = [] := by
  constructor
  · obtain ⟨_, extra, sent, called⟩ := (call_sends_at_most_one_more bucketWorld bucketCall).1
      ⟨.call "get" [("q", "a=b")] none, false, none, none, none, some "api.json", none, none⟩
      "get" [("q", "a=b")] none (by decide +kernel) rfl
    have urls : (run bucketWorld bucketCall).requests.map Request.url = ["x/b?q=a%3Db"] := by
      decide +kernel
    have before : generationRequests bucketWorld bucketCall = [] := by decide +kernel
    rw [sent, before] at urls
    cases extra with
    | none => cases urls
    | some request =>
        exact ⟨request, sent, List.singleton_inj.1 urls, (called request).1 rfl⟩
  · exact (call_sends_at_most_one_more bucketWorld ["call", "get", "q"]).2 "get" ["q"]
      (by decide +kernel) ⟨"q", List.mem_cons_self, by decide +kernel⟩

end ApiDiscovery.CommandLine
