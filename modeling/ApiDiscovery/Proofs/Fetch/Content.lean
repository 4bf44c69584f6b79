import ApiDiscovery.Http
import ApiDiscovery.Proofs.Activity
import ApiDiscovery.Proofs.Fetch.Fetched
import ApiDiscovery.Proofs.Text.Utf8

/-!
# What a fetched text holds

A file and a peer may hold the same octets.  Whether they say anything is
decided in one place for the file and in another one for the peer's answer, and
the value null is told from a document after both; still the same text gives the
same document, no document or the same fault of its JSON, and nothing but the
name of the source tells the two apart.
-/

namespace ApiDiscovery

/-! ## Octets -/

theorem Files.readText_of_encode {files : Files} {path text : String}
    (stored : files path = .ok (Text.Utf8.encode text.toList)) :
    files.readText path = .ok text := by
  rw [readText, stored]
  dsimp only
  rw [Text.Utf8.decode_encode]
  dsimp only
  rw [String.ofList_toList]

namespace Http

theorem textOfBody_encode (text : String) :
    textOfBody (Text.Utf8.encode text.toList) =
      if Text.allBlank text.toList then none else some text := by
  rw [textOfBody, Text.Utf8.decodeLossy_encode, String.ofList_toList]

/-- The request for an address is answered with this status and this body, which is complete. -/
def Answers (client : Client) (peer : Peer) (sent : List Request) (url : String) (status : Nat)
    (body : List UInt8) : Prop :=
  ∃ address, Url.parse? url = some address ∧ address.isHttp ∧
    peer sent (client.message (.get url) (String.ofList address.text)) =
      .answered status body true

/-- Whatever the status, the body is what is received. -/
theorem received_of_answers {client : Client} {peer : Peer} {sent : List Request} {url : String}
    {status : Nat} {body : List UInt8} (answers : Answers client peer sent url status body) :
    (network client peer sent (.get url)).received = .ok (textOfBody body) := by
  obtain ⟨address, parsed, isHttp, answered⟩ := answers
  have known : Url.parse? (Request.get url).url = some address := parsed
  rw [network, reply, known]
  dsimp only
  rw [if_pos isHttp, answered]
  rfl

end Http

/-! ## Texts -/

namespace Fetch

/-- What a text holds: nothing if it is blank or null, else a document, if it is JSON. -/
def contentOf (text : String) : Except Json.Error (Option Json) :=
  if Text.allBlank text.toList then .ok none
  else
    match Json.parse text with
    | .error error => .error error
    | .ok .null => .ok none
    | .ok document => .ok (some document)

theorem contentOf_eq_none_iff {text : String} :
    contentOf text = .ok none ↔ Text.allBlank text.toList ∨ Json.parse text = .ok .null := by
  unfold contentOf
  by_cases blank : Text.allBlank text.toList = true
  · simp [blank]
  · rw [if_neg blank]
    cases Json.parse text with
    | error error => simp [blank]
    | ok document => cases document <;> simp [blank]

theorem contentOf_eq_some_iff {text : String} {document : Json} :
    contentOf text = .ok (some document) ↔
      ¬ Text.allBlank text.toList ∧ Json.parse text = .ok document ∧ document ≠ .null := by
  unfold contentOf
  by_cases blank : Text.allBlank text.toList = true
  · simp [blank]
  · rw [if_neg blank]
    cases Json.parse text with
    | error error => simp
    | ok found => cases found <;> cases document <;> simp [blank]

theorem contentOf_eq_error_iff {text : String} {error : Json.Error} :
    contentOf text = .error error ↔
      ¬ Text.allBlank text.toList ∧ Json.parse text = .error error := by
  unfold contentOf
  by_cases blank : Text.allBlank text.toList = true
  · simp [blank]
  · rw [if_neg blank]
    cases Json.parse text with
    | error other => simp [blank]
    | ok document => cases document <;> simp

/-- A text that is not blank is read for its content. -/
theorem documentOfText_eq {text : String} (filled : ¬ Text.allBlank text.toList) (source : String) :
    documentOfText source text = (contentOf text).mapError (.badJson source) := by
  rw [documentOfText, contentOf, if_neg filled]
  cases Json.parse text with
  | error error => rfl
  | ok document => cases document <;> rfl

theorem contentOf_of_blank {text : String} (blank : Text.allBlank text.toList) :
    contentOf text = .ok none :=
  if_pos blank

section

variable {files : Files} {network : Network} {sent : List Request} {source : Options.Source}

/-- Where a blank text is no text, what is fetched is what the text holds. -/
theorem result_of_gives {text : String}
    (gives : Gives files network sent source
      (if Text.allBlank text.toList then none else some text)) :
    (fetch? files network source sent).result = (contentOf text).mapError (.badJson source.name) := by
  rw [gives.result_eq]
  by_cases blank : Text.allBlank text.toList = true
  · rw [if_pos blank, contentOf_of_blank blank]
    rfl
  · rw [if_neg blank, Option.elim_some, documentOfText_eq blank]

theorem gives_of_readText {path text : String} (read : files.readText path = .ok text) :
    Gives files network sent (.file path)
      (if Text.allBlank text.toList then none else some text) := by
  by_cases blank : Text.allBlank text.toList = true
  · rw [if_pos blank]
    exact .blank read blank
  · rw [if_neg blank]
    exact .file read blank

theorem gives_of_answers {client : Http.Client} {peer : Http.Peer} {url : String} {status : Nat}
    {text : String}
    (answers : Http.Answers client peer sent url status (Text.Utf8.encode text.toList)) :
    Gives files (Http.network client peer) sent (.url url)
      (if Text.allBlank text.toList then none else some text) := by
  rw [← Http.textOfBody_encode]
  exact .reply (Http.received_of_answers answers)

end

/-- A document that has to be there differs in that its absence is an error. -/
theorem fetch_result (files : Files) (network : Network) (source : Options.Source)
    (sent : List Request) :
    (fetch files network source sent).result =
      (fetch? files network source sent).result.bind (required source.name) :=
  Task.andThen_result _ _

/--
A file and an answer with the same octets hold the same: no document if the text
is blank or null, and else the document that it spells or the fault of its JSON.
Where a document has to be there, its absence is an error of the source.
-/
theorem file_and_answer_hold_the_same (text : String) (files : Files) (path : String)
    (stored : files path = .ok (Text.Utf8.encode text.toList)) (client : Http.Client)
    (peer : Http.Peer) (sent : List Request) (url : String) (status : Nat)
    (answers : Http.Answers client peer sent url status (Text.Utf8.encode text.toList)) :
    (contentOf text = .ok none ↔ Text.allBlank text.toList ∨ Json.parse text = .ok .null) ∧
    (∀ document, contentOf text = .ok (some document) ↔
      ¬ Text.allBlank text.toList ∧ Json.parse text = .ok document ∧ document ≠ .null) ∧
    (∀ error, contentOf text = .error error ↔
      ¬ Text.allBlank text.toList ∧ Json.parse text = .error error) ∧
    ∀ source ∈ [Options.Source.file path, .url url],
      (fetch? files (Http.network client peer) source sent).result =
        (contentOf text).mapError (.badJson source.name) ∧
      (fetch files (Http.network client peer) source sent).result =
        match contentOf text with
        | .error error => .error (.badJson source.name error)
        | .ok none => .error (.emptyDocument source.name)
        | .ok (some document) => .ok document := by
  refine ⟨contentOf_eq_none_iff, fun document => contentOf_eq_some_iff,
    fun error => contentOf_eq_error_iff, ?_⟩
  intro source member
  have optional : (fetch? files (Http.network client peer) source sent).result =
      (contentOf text).mapError (.badJson source.name) := by
    rcases List.mem_cons.1 member with rfl | later
    · exact result_of_gives (gives_of_readText (Files.readText_of_encode stored))
    · rw [List.mem_singleton.1 later]
      exact result_of_gives (gives_of_answers answers)
  refine ⟨optional, ?_⟩
  rw [fetch_result, optional]
  cases contentOf text with
  | error error => rfl
  | ok found =>
      cases found with
      | none => rfl
      | some document => rfl

/-- A space that JSON does not know stands before null. -/
theorem spacedNull_faults_on_both_ways :
    ∃ error, Json.parse "\u00a0null" = .error error ∧
      (fetch? (fun _ => .ok (Text.Utf8.encode "\u00a0null".toList))
        (Http.network {} fun _ _ => .answered 404 (Text.Utf8.encode "\u00a0null".toList) true)
        (.file "null.json") []).result = .error (.badJson "null.json" error) ∧
      (fetch? (fun _ => .ok (Text.Utf8.encode "\u00a0null".toList))
        (Http.network {} fun _ _ => .answered 404 (Text.Utf8.encode "\u00a0null".toList) true)
        (.url "http://x/null") []).result = .error (.badJson "http://x/null" error) := by
  have isHttp : ((Url.parse? "http://x/null").map Url.isHttp) = some true := by decide +kernel
  obtain ⟨address, parsed, asked⟩ := Option.map_eq_some_iff.1 isHttp
  have answers : Http.Answers {}
      (fun _ _ => .answered 404 (Text.Utf8.encode "\u00a0null".toList) true) [] "http://x/null" 404
      (Text.Utf8.encode "\u00a0null".toList) := ⟨address, parsed, asked, rfl⟩
  obtain ⟨_, _, broken, same⟩ := file_and_answer_hold_the_same "\u00a0null"
    (fun _ => .ok (Text.Utf8.encode "\u00a0null".toList)) "null.json" rfl {} _ [] "http://x/null"
    404 answers
  have notJson : (Json.parse "\u00a0null").isOk = false := by decide +kernel
  cases parsedText : Json.parse "\u00a0null" with
  | ok document =>
      rw [parsedText] at notJson
      cases notJson
  | error error =>
      have content : contentOf "\u00a0null" = .error error :=
        (broken error).2 ⟨by decide, parsedText⟩
      refine ⟨error, rfl, ?_, ?_⟩
      · rw [(same _ (.head _)).1, content]
        rfl
      · rw [(same _ (.tail _ (.head _))).1, content]
        rfl

end Fetch

end ApiDiscovery
