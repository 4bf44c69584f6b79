import ApiDiscovery.Proofs.Method.Address

/-!
# What a call tells

A call logs the address that it asks, and an error names it in words.  The key
is part of that address, so two calls that differ in their keys never tell the
same: the key can be read off the log of every call and off every error.  Apart
from the address they tell the same.
-/

namespace ApiDiscovery

/-- What can be read of a call afterwards: its log and, if it failed, the error in words. -/
structure Diagnostics where
  log : List Event
  message : Option String
deriving DecidableEq, Repr

def Outcome.diagnostics (outcome : Outcome CallError Json) : Diagnostics where
  log := outcome.log
  message :=
    match outcome.result with
    | .ok _ => none
    | .error error => some error.message

namespace CallError

/-- The same fault of calls to two addresses. -/
inductive SameBut (url other : String) : CallError → CallError → Prop where
  | unreachable (reason : String) :
      SameBut url other (.unreachable url reason) (.unreachable other reason)
  | badJson (error : Json.Error) : SameBut url other (.badJson url error) (.badJson other error)

/-- The words for a fault tell its address. -/
theorem SameBut.message_eq_iff {url other : String} {mine yours : CallError}
    (same : SameBut url other mine yours) : mine.message = yours.message ↔ url = other := by
  cases same with
  | unreachable reason =>
      change "Request to " ++ url ++ " failed: " ++ reason =
        "Request to " ++ other ++ " failed: " ++ reason ↔ _
      rw [String.append_left_inj, String.append_left_inj, String.append_right_inj]
  | badJson error =>
      change "Response from " ++ url ++ " is not valid JSON: " ++ error.message =
        "Response from " ++ other ++ " is not valid JSON: " ++ error.message ↔ _
      rw [String.append_left_inj, String.append_left_inj, String.append_right_inj]

end CallError

namespace ApiMethod

theorem valueOfReply_sameBut (url other : String) (received : Except String (Option String)) :
    (∃ value, valueOfReply url received = .ok value ∧ valueOfReply other received = .ok value) ∨
      ∃ error error', valueOfReply url received = .error error ∧
        valueOfReply other received = .error error' ∧ CallError.SameBut url other error error' := by
  cases received with
  | error reason => exact .inr ⟨_, _, rfl, rfl, .unreachable reason⟩
  | ok text =>
      cases text with
      | none => exact .inl ⟨.null, rfl, rfl⟩
      | some text =>
          simp only [valueOfReply]
          cases Json.parse text with
          | error error => exact .inr ⟨_, _, rfl, rfl, .badJson error⟩
          | ok value => exact .inl ⟨value, rfl, rfl⟩

theorem callEvent_inj {method : ApiMethod} {url other : String} :
    method.callEvent url = method.callEvent other ↔ url = other := by
  simp [callEvent]

/-- The address tells the key. -/
theorem requestUrl_withKey_inj {method : ApiMethod} {key other : String}
    {arguments : List (String × Json)} :
    (method.withKey (some key)).requestUrl arguments =
      (method.withKey (some other)).requestUrl arguments ↔ key = other := by
  rw [requestUrl_withKey, requestUrl_withKey]
  simp

/--
Two calls that differ in their keys and get the same reply tell the same but for
the address, which holds the key: it is the first thing logged and, if the calls
fail, it is named in both errors.  So they tell the same only of the same key.
-/
theorem calls_tell_alike_iff (method : ApiMethod) (network : Network) (sent : List Request)
    (arguments : List (String × Json)) (body : Option Json) (key other : String)
    (same : network sent ⟨method.verb, (method.withKey (some key)).requestUrl arguments, body⟩ =
      network sent ⟨method.verb, (method.withKey (some other)).requestUrl arguments, body⟩) :
    let url := (method.withKey (some key)).requestUrl arguments
    let url' := (method.withKey (some other)).requestUrl arguments
    let mine := (method.withKey (some key)).call network arguments body sent
    let yours := (method.withKey (some other)).call network arguments body sent
    (∃ behind, url = (method.withKey none).address arguments ++ "?key=" ++ key ++ behind ∧
      url' = (method.withKey none).address arguments ++ "?key=" ++ other ++ behind) ∧
    (∃ log, mine.log = method.callEvent url :: log ∧ yours.log = method.callEvent url' :: log) ∧
    ((∃ value, mine.result = .ok value ∧ yours.result = .ok value) ∨
      ∃ error error', mine.result = .error error ∧ yours.result = .error error' ∧
        CallError.SameBut url url' error error' ∧
        (error.message = error'.message ↔ key = other)) ∧
    (mine.log = yours.log ↔ key = other) ∧
    (mine.diagnostics = yours.diagnostics ↔ key = other) := by
  intro url url' mine yours
  obtain ⟨reply, answered⟩ : ∃ reply, network sent ⟨method.verb, url, body⟩ = reply := ⟨_, rfl⟩
  have answered' : network sent ⟨method.verb, url', body⟩ = reply := same.symm.trans answered
  have urls : url = url' ↔ key = other := requestUrl_withKey_inj
  have myLog : mine.log = method.callEvent url :: reply.log := by rw [← answered]; rfl
  have yourLog : yours.log = method.callEvent url' :: reply.log := by rw [← answered']; rfl
  have myResult : mine.result = valueOfReply url reply.received := by rw [← answered]; rfl
  have yourResult : yours.result = valueOfReply url' reply.received := by rw [← answered']; rfl
  have logs : mine.log = yours.log ↔ key = other := by
    rw [myLog, yourLog, List.cons_eq_cons, and_iff_left rfl, callEvent_inj, urls]
  refine ⟨⟨_, requestUrl_withKey .., requestUrl_withKey ..⟩, ⟨_, myLog, yourLog⟩, ?_, logs, ?_⟩
  · rw [myResult, yourResult]
    rcases valueOfReply_sameBut url url' reply.received with succeeded | failed
    · exact .inl succeeded
    · obtain ⟨error, error', failing, failing', alike⟩ := failed
      exact .inr ⟨error, error', failing, failing', alike, alike.message_eq_iff.trans urls⟩
  · constructor
    · exact fun told => logs.1 (congrArg Diagnostics.log told)
    · intro keys
      subst keys
      rfl

def answering (reply : Reply) : Network := fun _ _ => reply

theorem answering_eq (reply : Reply) (sent : List Request) (request other : Request) :
    answering reply sent request = answering reply sent other := rfl

def peopleMethod : ApiMethod := ⟨"$list", "GET", "/people", ⟨none, "https://x/v1"⟩⟩

def unwell : Reply := { rounds := 1, received := .ok (some "Service Unavailable") }

theorem calls_tell_alike_of_unwell :
    answering unwell [] ⟨"GET", (peopleMethod.withKey (some "one")).requestUrl [], none⟩ =
        answering unwell [] ⟨"GET", (peopleMethod.withKey (some "two")).requestUrl [], none⟩ ∧
      ((peopleMethod.withKey (some "one")).call (answering unwell) [] none []).diagnostics ≠
        ((peopleMethod.withKey (some "two")).call (answering unwell) [] none []).diagnostics := by
  refine ⟨answering_eq .., fun told => ?_⟩
  obtain ⟨_, _, _, _, alike⟩ :=
    calls_tell_alike_iff peopleMethod (answering unwell) [] [] none "one" "two" (answering_eq ..)
  exact absurd (alike.1 told) (by decide)

def refusal : Reply := { received := .error "connection refused" }

def refused (url : String) : Diagnostics :=
  ⟨[⟨.debug, "Calling method", [("label", "$list"), ("http_method", "GET"), ("url", url)]⟩],
    some ("Request to " ++ url ++ " failed: connection refused")⟩

/-- Both the log and the error spell the key out. -/
theorem refused_calls_tell_keys :
    answering refusal [] ⟨"GET", (peopleMethod.withKey (some "one")).requestUrl [], none⟩ =
        answering refusal [] ⟨"GET", (peopleMethod.withKey (some "two")).requestUrl [], none⟩ ∧
      ((peopleMethod.withKey (some "one")).call (answering refusal) [] none []).diagnostics =
        refused "https://x/v1/people?key=one" ∧
      ((peopleMethod.withKey (some "two")).call (answering refusal) [] none []).diagnostics =
        refused "https://x/v1/people?key=two" ∧
      ((peopleMethod.withKey (some "one")).call (answering refusal) [] none []).diagnostics ≠
        ((peopleMethod.withKey (some "two")).call (answering refusal) [] none []).diagnostics :=
  ⟨answering_eq .., by decide +kernel, by decide +kernel, by decide +kernel⟩

end ApiMethod

end ApiDiscovery
