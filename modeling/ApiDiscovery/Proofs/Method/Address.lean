import ApiDiscovery.Proofs.FanOut.Alike
import ApiDiscovery.Proofs.Method.Query

/-!
# The key in an address

An address is the base with the filled path behind it, a question mark, and the
parameters.  A method with a key asks the address that it asks without one, but
for the key, which stands in front of all other parameters: no argument takes
its place, and it takes no argument's.
-/

namespace ApiDiscovery

namespace ApiMethod

/-- The base of a method and behind it the path as the arguments fill it. -/
def address (method : ApiMethod) (arguments : List (String × Json)) : String :=
  String.ofList (method.binding.baseUrl.toList ++ (method.target arguments).path)

def query (method : ApiMethod) (arguments : List (String × Json)) : String :=
  String.ofList (List.intercalate ['&'] (method.target arguments).parameters)

theorem requestUrl_eq (method : ApiMethod) (arguments : List (String × Json)) :
    method.requestUrl arguments = method.address arguments ++ "?" ++ method.query arguments := by
  rw [requestUrl, address, query, Text.joinWith_eq_intercalate, ← String.toList_inj]
  simp

def withKey (method : ApiMethod) (apiKey : Option String) : ApiMethod :=
  { method with binding := { method.binding with apiKey } }

/-- A key changes nothing of what is compiled but the key. -/
theorem compile_withKey (binding : Binding) (apiKey : Option String) (name : String)
    (declared : MethodDeclaration) :
    compile { binding with apiKey } name declared =
      (compile binding name declared).map (withKey · apiKey) := by
  unfold compile
  split
  · rfl
  · split
    · rfl
    · split <;> rfl

/-! ## One parameter in front -/

def Target.lead (first : List Char) (target : Target) : Target :=
  { target with parameters := first :: target.parameters }

/-- An argument does behind a leading parameter what it does without one. -/
theorem Target.give_lead (first : List Char) (target : Target) (name : String) (argument : Json) :
    (target.lead first).give name argument = (target.give name argument).lead first := by
  simp only [give, lead]
  cases Text.replaceFirst (placeholder name) (Text.Percent.encode (argumentText argument))
      target.path with
  | none => rfl
  | some path => rfl

/-- With the key and without it the targets stay the same, the key in front of the one. -/
theorem target_withKey (method : ApiMethod) (key : String) (arguments : List (String × Json)) :
    (method.withKey (some key)).target arguments =
      ((method.withKey none).target arguments).lead (parameter "key" key.toList) := by
  let start : Target := ⟨method.path.toList, []⟩
  change List.foldl _ (start.lead (parameter "key" key.toList)) arguments = _
  rw [List.foldl_hom]
  · rfl
  · exact fun target pair => target.give_lead _ pair.1 pair.2

/-- There is a parameter in the query unless the query is empty. -/
theorem query_eq_empty_iff (method : ApiMethod) (arguments : List (String × Json)) :
    method.query arguments = "" ↔ (method.target arguments).parameters = [] := by
  rw [query, target_eq, ← String.toList_inj, String.toList_ofList]
  cases method.binding.keyParameter ++
      (unmatched method.path.toList arguments).map argumentParameter with
  | nil => simp
  | cons pair pairs =>
      cases pairs with
      | nil => simp [written]
      | cons next pairs => simp [written]

theorem query_withKey (method : ApiMethod) (key : String) (arguments : List (String × Json)) :
    (method.withKey (some key)).query arguments =
      "key=" ++ key ++
        if (method.withKey none).query arguments = "" then ""
        else "&" ++ (method.withKey none).query arguments := by
  have empty := query_eq_empty_iff (method.withKey none) arguments
  rw [query, target_withKey, Target.lead, ← String.toList_inj]
  cases given : ((method.withKey none).target arguments).parameters with
  | nil =>
      rw [if_pos (empty.2 given)]
      simp [parameter]
  | cons next others =>
      rw [if_neg fun none => List.cons_ne_nil _ _ (given.symm.trans (empty.1 none)), query, given]
      simp [parameter]

/-- The address with a key: the key right behind the question mark, and then what was there. -/
theorem requestUrl_withKey (method : ApiMethod) (key : String) (arguments : List (String × Json)) :
    (method.withKey (some key)).requestUrl arguments =
      (method.withKey none).address arguments ++ "?key=" ++ key ++
        if (method.withKey none).query arguments = "" then ""
        else "&" ++ (method.withKey none).query arguments := by
  have same : (method.withKey (some key)).address arguments =
      (method.withKey none).address arguments := by
    rw [address, address, target_withKey]
    rfl
  have joined : "?" ++ "key=" = "?key=" := rfl
  rw [requestUrl_eq, same, query_withKey, ← joined]
  simp only [String.append_assoc]

/--
Whether a method is declared well does not depend on the key, nor do the path of
a call and what its arguments put behind the question mark.  The key stands in
front of all that, and its name and value are the only difference that it makes.
-/
theorem key_comes_first (baseUrl key name : String) (declared : MethodDeclaration)
    (arguments : List (String × Json)) :
    ResultsAlike
      (fun keyless keyed : ApiMethod =>
        keyed = keyless.withKey (some key) ∧
        (keyed.target arguments).path = (keyless.target arguments).path ∧
        (keyed.target arguments).parameters =
          parameter "key" key.toList :: (keyless.target arguments).parameters ∧
        keyless.requestUrl arguments =
          keyless.address arguments ++ "?" ++ keyless.query arguments ∧
        keyed.requestUrl arguments =
          keyless.address arguments ++ "?key=" ++ key ++
            if keyless.query arguments = "" then "" else "&" ++ keyless.query arguments)
      (compile ⟨none, baseUrl⟩ name declared) (compile ⟨some key, baseUrl⟩ name declared) := by
  rw [compile_withKey ⟨none, baseUrl⟩ (some key)]
  cases compiled : compile ⟨none, baseUrl⟩ name declared with
  | error error => exact .error error
  | ok keyless =>
      have unchanged : keyless.withKey none = keyless := by
        have again := compile_withKey ⟨none, baseUrl⟩ none name declared
        rw [compiled] at again
        exact (Except.ok.inj again).symm
      have targets := target_withKey keyless key arguments
      have url := requestUrl_withKey keyless key arguments
      rw [unchanged] at targets url
      rw [Except.map]
      refine .ok ⟨rfl, ?_, ?_, requestUrl_eq keyless arguments, url⟩
      · rw [targets]
        rfl
      · rw [targets]
        rfl

/-- A placeholder of the key's name takes the argument of that name, not the key. -/
example : requestUrl ⟨"$get", "GET", "/\x7bkey\x7d", ⟨some "k", "https://x"⟩⟩
    [("key", .string "mine"), ("key", .null)] = "https://x/mine?key=k&key=null" := by
  decide +kernel

end ApiMethod

end ApiDiscovery
