import ApiDiscovery.Method
import ApiDiscovery.Proofs.Text.Pieces
import ApiDiscovery.Proofs.Text.Percent

/-!
# Parameters read back

An argument whose placeholder the path holds when its turn comes leaves no trace
behind the question mark; all others stand there in order.  Cut at `&`, then at
the first `=`, and decoded, the parameters give their names and values back.
-/

namespace ApiDiscovery

/-! ## Matched and unmatched arguments -/

def pathAfter (path : List Char) (name : String) (argument : Json) : List Char :=
  (Text.replaceFirst (ApiMethod.placeholder name)
    (Text.Percent.encode (ApiMethod.argumentText argument)) path).getD path

def pathAfterAll (path : List Char) (arguments : List (String × Json)) : List Char :=
  arguments.foldl (fun path (name, argument) => pathAfter path name argument) path

theorem pathAfterAll_cons (path : List Char) (name : String) (argument : Json)
    (arguments : List (String × Json)) :
    pathAfterAll path ((name, argument) :: arguments) =
      pathAfterAll (pathAfter path name argument) arguments := rfl

/-- The arguments whose placeholder the path does not hold when their turn comes. -/
def unmatched (path : List Char) : List (String × Json) → List (String × Json)
  | [] => []
  | (name, argument) :: rest =>
      if ApiMethod.placeholder name <:+: path then unmatched (pathAfter path name argument) rest
      else (name, argument) :: unmatched path rest

def argumentParameter : String × Json → List Char × List Char
  | (name, argument) => (name.toList, Text.Percent.encode (ApiMethod.argumentText argument))

def written (pair : List Char × List Char) : List Char := pair.1 ++ '=' :: pair.2

theorem give_of_matched {target : ApiMethod.Target} {name : String}
    (matched : ApiMethod.placeholder name <:+: target.path) (argument : Json) :
    target.give name argument = { target with path := pathAfter target.path name argument } := by
  rw [ApiMethod.Target.give, pathAfter]
  cases replaced : Text.replaceFirst (ApiMethod.placeholder name)
      (Text.Percent.encode (ApiMethod.argumentText argument)) target.path with
  | none => exact absurd matched (Text.replaceFirst_eq_none_iff.1 replaced)
  | some path => rfl

theorem give_of_not_matched {target : ApiMethod.Target} {name : String}
    (missing : ¬ ApiMethod.placeholder name <:+: target.path) (argument : Json) :
    target.give name argument =
        ⟨target.path, target.parameters ++ [written (argumentParameter (name, argument))]⟩ ∧
      pathAfter target.path name argument = target.path := by
  rw [ApiMethod.Target.give, pathAfter, Text.replaceFirst_eq_none_iff.2 missing]
  exact ⟨rfl, rfl⟩

/-- What arguments make of a path and of the parameters that are there already. -/
theorem foldl_give (target : ApiMethod.Target) (arguments : List (String × Json)) :
    arguments.foldl (fun target (name, argument) => target.give name argument) target =
      ⟨pathAfterAll target.path arguments,
        target.parameters ++
          ((unmatched target.path arguments).map argumentParameter).map written⟩ := by
  induction arguments generalizing target with
  | nil => simp [pathAfterAll, unmatched]
  | cons pair arguments ih =>
      obtain ⟨name, argument⟩ := pair
      rw [List.foldl_cons, ih, unmatched, pathAfterAll_cons]
      dsimp only
      by_cases matched : ApiMethod.placeholder name <:+: target.path
      · rw [give_of_matched matched, if_pos matched]
      · obtain ⟨given, same⟩ := give_of_not_matched matched argument
        rw [given, same, if_neg matched]
        simp

def Binding.keyParameter (binding : Binding) : List (List Char × List Char) :=
  (binding.apiKey.map fun key => ("key".toList, key.toList)).toList

theorem Binding.parameters_eq (binding : Binding) :
    binding.parameters = binding.keyParameter.map written := by
  rw [parameters, keyParameter]
  cases binding.apiKey with
  | none => rfl
  | some key => rfl

theorem ApiMethod.target_eq (method : ApiMethod) (arguments : List (String × Json)) :
    method.target arguments =
      ⟨pathAfterAll method.path.toList arguments,
        (method.binding.keyParameter ++
          (unmatched method.path.toList arguments).map argumentParameter).map written⟩ := by
  rw [target, foldl_give, Binding.parameters_eq, List.map_append]

/-- What is put into a path holds no character that needs encoding. -/
theorem mem_of_mem_pathAfterAll {c : Char} (reserved : Text.Percent.isUnreserved c = false)
    (other : c ≠ '%') {path : List Char} {arguments : List (String × Json)}
    (member : c ∈ pathAfterAll path arguments) : c ∈ path := by
  induction arguments generalizing path with
  | nil => exact member
  | cons pair arguments ih =>
      have later : c ∈ pathAfter path pair.1 pair.2 := ih member
      rw [pathAfter] at later
      cases replaced : Text.replaceFirst (ApiMethod.placeholder pair.1)
          (Text.Percent.encode (ApiMethod.argumentText pair.2)) path with
      | none => rwa [replaced] at later
      | some changed =>
          rw [replaced] at later
          rcases Text.mem_of_replaceFirst replaced later with inValue | inPath
          · exact absurd inValue (Text.Percent.not_mem_encode reserved other _)
          · exact inPath

/-! ## Reading -/

/-- The parameters of an address: names and values, cut out behind the first question mark. -/
def parametersOf (url : List Char) : Option (List (List Char × List Char)) :=
  (Text.splitFirst '?' url).bind fun (_, query) =>
    if query = [] then some []
    else (Text.splitAll '&' query).mapM (Text.splitFirst '=')

def rawParameter (pair : List Char × List Char) : String × String :=
  (String.ofList pair.1, String.ofList pair.2)

def decodedParameter? (pair : List Char × List Char) : Option (String × String) :=
  (Text.Percent.decode pair.2).map fun value => (String.ofList pair.1, String.ofList value)

/-- What an address asks: the key, which comes first, as it stands, and the rest decoded. -/
def readQuery (keyed : Bool) (url : String) : Option (List (String × String)) :=
  (parametersOf url.toList).bind fun pairs =>
    match keyed, pairs with
    | true, key :: pairs => (pairs.mapM decodedParameter?).map (rawParameter key :: ·)
    | _, pairs => pairs.mapM decodedParameter?

theorem mapM_eq_some_map {α β : Type} {f : α → Option β} {g : α → β} {items : List α}
    (each : ∀ item ∈ items, f item = some (g item)) : items.mapM f = some (items.map g) := by
  induction items with
  | nil => rfl
  | cons item items ih =>
      obtain ⟨first, others⟩ := List.forall_mem_cons.1 each
      rw [List.mapM_cons, first, ih others]
      rfl

/-- Parameters that can be told apart are found again. -/
theorem parametersOf_written {address : List Char} (noQuery : '?' ∉ address)
    {pairs : List (List Char × List Char)}
    (apart : ∀ pair ∈ pairs, '=' ∉ pair.1 ∧ '&' ∉ written pair) :
    parametersOf (address ++ '?' :: Text.joinWith ['&'] (pairs.map written)) = some pairs := by
  rw [parametersOf, Text.splitFirst_append noQuery, Text.joinWith_eq_intercalate, Option.bind_some]
  dsimp only
  cases pairs with
  | nil => rfl
  | cons pair pairs =>
      have pieces : Text.splitAll '&' (List.intercalate ['&'] ((pair :: pairs).map written)) =
          (pair :: pairs).map written := by
        refine Text.splitAll_intercalate (List.cons_ne_nil _ _) ?_
        rw [List.forall_mem_map]
        exact fun other member => (apart other member).2
      have cut : ∀ other ∈ pair :: pairs, (Text.splitFirst '=' ∘ written) other = some other :=
        fun other member => Text.splitFirst_append (apart other member).1 _
      have filled : List.intercalate ['&'] ((pair :: pairs).map written) ≠ [] := by
        intro empty
        rw [empty, Text.splitAll, List.map_cons] at pieces
        simp [written] at pieces
      rw [if_neg filled, pieces, List.mapM_map, mapM_eq_some_map (g := id) cut, List.map_id]

/-! ## What is read back -/

/-- Strings as they are, arrays item by item with commas between, all else as compact JSON. -/
structure Rendering (render : Json → List Char) : Prop where
  string : ∀ text, render (.string text) = text.toList
  array : ∀ items, render (.array items) = List.intercalate [','] (items.map render)
  other : ∀ value, (∀ text, value ≠ .string text) → (∀ items, value ≠ .array items) →
    render value = Json.text value

namespace ApiMethod

theorem argumentTexts_eq (items : List Json) :
    argumentTexts items = List.intercalate [','] (items.map argumentText) := by
  induction items with
  | nil => rw [argumentTexts]; rfl
  | cons item items ih =>
      cases items with
      | nil => rw [argumentTexts, List.map_singleton, List.intercalate_singleton]
      | cons next items =>
          rw [argumentTexts, ih]
          simp only [List.map_cons, List.intercalate_cons_cons, List.append_assoc,
            List.singleton_append]

theorem rendering_argumentText : Rendering argumentText where
  string text := by rw [argumentText]
  array items := by rw [argumentText, argumentTexts_eq]
  other value noString noArray := by
    cases value with
    | string text => exact absurd rfl (noString text)
    | array items => exact absurd rfl (noArray items)
    | null => rw [argumentText]
    | boolean flag => rw [argumentText]
    | number number => rw [argumentText]
    | object members => rw [argumentText]

variable {method : ApiMethod} {arguments : List (String × Json)}

theorem question_not_mem_address (base : '?' ∉ method.binding.baseUrl.toList)
    (path : '?' ∉ method.path.toList) :
    '?' ∉ method.binding.baseUrl.toList ++ pathAfterAll method.path.toList arguments := by
  rw [List.mem_append, not_or]
  exact ⟨base, fun member => path (mem_of_mem_pathAfterAll (by decide) (by decide) member)⟩

theorem keyParameter_apart (key : ∀ key ∈ method.binding.apiKey, '&' ∉ key.toList) :
    ∀ pair ∈ method.binding.keyParameter, '=' ∉ pair.1 ∧ '&' ∉ written pair := by
  rw [Binding.keyParameter]
  cases known : method.binding.apiKey with
  | none => exact List.forall_mem_nil _
  | some text =>
      have free := key text known
      simp [written, free]

theorem argumentParameter_apart
    (names : ∀ pair ∈ arguments, '&' ∉ pair.1.toList ∧ '=' ∉ pair.1.toList) :
    ∀ pair ∈ arguments.map argumentParameter, '=' ∉ pair.1 ∧ '&' ∉ written pair := by
  rw [List.forall_mem_map]
  rintro ⟨name, argument⟩ member
  have inValue := Text.Percent.not_mem_encode (c := '&') (by decide) (by decide)
    (argumentText argument)
  obtain ⟨noAmpersand, noEquals⟩ := names _ member
  simp only [argumentParameter, written, List.mem_append, List.mem_cons, not_or]
  exact ⟨noEquals, noAmpersand, by decide, inValue⟩

/-- The parameters of an address are the key and the arguments without a placeholder. -/
theorem parametersOf_requestUrl (base : '?' ∉ method.binding.baseUrl.toList)
    (path : '?' ∉ method.path.toList) (key : ∀ key ∈ method.binding.apiKey, '&' ∉ key.toList)
    (names : ∀ pair ∈ unmatched method.path.toList arguments,
      '&' ∉ pair.1.toList ∧ '=' ∉ pair.1.toList) :
    parametersOf (method.requestUrl arguments).toList =
      some (method.binding.keyParameter ++
        (unmatched method.path.toList arguments).map argumentParameter) := by
  rw [requestUrl, target_eq, String.toList_ofList]
  refine parametersOf_written (question_not_mem_address base path) ?_
  rw [List.forall_mem_append]
  exact ⟨keyParameter_apart key, argumentParameter_apart names⟩

theorem mapM_decodedParameter? (arguments : List (String × Json)) :
    (arguments.map argumentParameter).mapM decodedParameter? =
      some (arguments.map fun (name, argument) =>
        (name, String.ofList (argumentText argument))) := by
  rw [List.mapM_map]
  refine mapM_eq_some_map ?_
  intro pair _
  simp [argumentParameter, decodedParameter?, Text.Percent.decode_encode]

/--
The parameters of an address read back: the key first, as it stands, if there is
one, and then every argument that found no placeholder, in order, with its name
and with its text as it was before encoding.
-/
theorem query_reads_back (method : ApiMethod) (base : '?' ∉ method.binding.baseUrl.toList)
    (path : '?' ∉ method.path.toList) (key : ∀ key ∈ method.binding.apiKey, '&' ∉ key.toList)
    (arguments : List (String × Json))
    (names : ∀ pair ∈ unmatched method.path.toList arguments,
      '&' ∉ pair.1.toList ∧ '=' ∉ pair.1.toList) :
    Rendering argumentText ∧
    readQuery method.binding.apiKey.isSome (method.requestUrl arguments) =
      some ((method.binding.apiKey.map fun key => ("key", key)).toList ++
        (unmatched method.path.toList arguments).map fun (name, argument) =>
          (name, String.ofList (argumentText argument))) := by
  refine ⟨rendering_argumentText, ?_⟩
  rw [readQuery, parametersOf_requestUrl base path key names, Option.bind_some,
    Binding.keyParameter]
  cases method.binding.apiKey with
  | none => exact mapM_decodedParameter? _
  | some text =>
      have rest := mapM_decodedParameter? (unmatched method.path.toList arguments)
      simp [rest, rawParameter]

/-- A method whose key looks like a parameter itself. -/
def searchMethod : ApiMethod :=
  ⟨"$search", "GET", "/\x7bid\x7d", ⟨some "k=1?", "https://x"⟩⟩

/-- Arguments whose values hold every delimiter; the first `id` goes into the path. -/
def searchArguments : List (String × Json) :=
  [("q", .string "a&b=c?%\u00e9"), ("id", .string "q&?"), ("id", .array [.null, .string ""]),
    ("", .string "")]

theorem query_reads_back_searchArguments :
    readQuery true (searchMethod.requestUrl searchArguments) =
      some [("key", "k=1?"), ("q", "a&b=c?%\u00e9"), ("id", "null,"), ("", "")] := by
  have key : ∀ key ∈ searchMethod.binding.apiKey, '&' ∉ key.toList := by simp [searchMethod]
  have names : ∀ pair ∈ unmatched searchMethod.path.toList searchArguments,
      '&' ∉ pair.1.toList ∧ '=' ∉ pair.1.toList := by decide +kernel
  have reads := query_reads_back searchMethod (by decide) (by decide) key searchArguments names
  exact reads.2.trans (by decide +kernel)

end ApiMethod

end ApiDiscovery
