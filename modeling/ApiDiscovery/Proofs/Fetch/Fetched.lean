import ApiDiscovery.Fetch

/-!
# What is fetched from a source

A source gives a text or none, or it cannot be read or reached.  From that
follows what is fetched: a document, none, or an error that names the source.
-/

namespace ApiDiscovery.Fetch

section

variable (files : Files) (network : Network) (sent : List Request)

/-- The text that a source gives, if any; a blank file gives none. -/
inductive Gives : Options.Source → Option String → Prop where
  | blank {path text : String} (read : files.readText path = .ok text)
      (blank : Text.allBlank text.toList) : Gives (.file path) none
  | file {path text : String} (read : files.readText path = .ok text)
      (filled : ¬ Text.allBlank text.toList) : Gives (.file path) (some text)
  | reply {url : String} {text : Option String}
      (replied : (network sent (.get url)).received = .ok text) : Gives (.url url) text

/-- What is fetched from a source: a document, none, or an error that names the source. -/
inductive Fetched : Options.Source → Except GenerateError (Option Json) → Prop where
  | unreadable {path : String} {fault : ReadFault} (read : files.readText path = .error fault) :
      Fetched (.file path) (.error (.unreadable path fault))
  | unreachable {url reason : String}
      (replied : (network sent (.get url)).received = .error reason) :
      Fetched (.url url) (.error (.unreachable url reason))
  | notJson {source : Options.Source} {text : String} {error : Json.Error}
      (gives : Gives files network sent source (some text))
      (parsed : Json.parse text = .error error) :
      Fetched source (.error (.badJson source.name error))
  | nothing {source : Options.Source} (gives : Gives files network sent source none) :
      Fetched source (.ok none)
  | null {source : Options.Source} {text : String}
      (gives : Gives files network sent source (some text))
      (parsed : Json.parse text = .ok .null) : Fetched source (.ok none)
  | document {source : Options.Source} {text : String} {document : Json}
      (gives : Gives files network sent source (some text))
      (parsed : Json.parse text = .ok document) (notNull : document ≠ .null) :
      Fetched source (.ok (some document))

/--
What goes wrong with a source that has to have a document: it cannot be fetched,
there is no document, or something is wrong in the document.
-/
inductive Fault (source : Options.Source) (absence : GenerateError)
    (InDocument : Json → GenerateError → Prop) : GenerateError → Prop where
  | unfetched {error : GenerateError} (fetched : Fetched files network sent source (.error error)) :
      Fault source absence InDocument error
  | absent (fetched : Fetched files network sent source (.ok none)) :
      Fault source absence InDocument absence
  | document {document : Json} {error : GenerateError}
      (fetched : Fetched files network sent source (.ok (some document)))
      (wrong : InDocument document error) : Fault source absence InDocument error

end

variable {files : Files} {network : Network} {sent : List Request} {source : Options.Source}

theorem Gives.result_eq {text : Option String} (gives : Gives files network sent source text) :
    (fetch? files network source sent).result =
      text.elim (.ok none) (documentOfText source.name) := by
  cases gives with
  | @blank path text read blank =>
      change documentOfFile files path = .ok none
      rw [documentOfFile, read]
      exact if_pos blank
  | @file path text read filled =>
      change documentOfFile files path = documentOfText path text
      rw [documentOfFile, read]
      exact if_neg filled
  | @reply url text replied =>
      change documentOfReply url (network sent (.get url)).received = _
      rw [replied]
      cases text <;> rfl

theorem Fetched.result_eq {result : Except GenerateError (Option Json)}
    (fetched : Fetched files network sent source result) :
    (fetch? files network source sent).result = result := by
  cases fetched with
  | @unreadable path fault read =>
      change documentOfFile files path = _
      rw [documentOfFile, read]
  | @unreachable url reason replied =>
      change documentOfReply url (network sent (.get url)).received = _
      rw [replied]
      rfl
  | notJson gives parsed =>
      rw [gives.result_eq, Option.elim_some, documentOfText, parsed]
  | nothing gives => exact gives.result_eq
  | null gives parsed =>
      rw [gives.result_eq, Option.elim_some, documentOfText, parsed]
  | @document _ text document gives parsed notNull =>
      rw [gives.result_eq, Option.elim_some, documentOfText, parsed]
      cases document with
      | null => exact absurd rfl notNull
      | boolean flag => rfl
      | number value => rfl
      | string text => rfl
      | array items => rfl
      | object members => rfl

/-- Something comes of every text. -/
theorem Gives.exists_fetched {text : String} (gives : Gives files network sent source (some text)) :
    ∃ result, Fetched files network sent source result := by
  cases parsed : Json.parse text with
  | error error => exact ⟨_, .notJson gives parsed⟩
  | ok document =>
      by_cases same : document = .null
      · exact ⟨_, .null gives (same ▸ parsed)⟩
      · exact ⟨_, .document gives parsed same⟩

theorem exists_fetched (source : Options.Source) :
    ∃ result, Fetched files network sent source result := by
  cases source with
  | file path =>
      cases read : files.readText path with
      | error fault => exact ⟨_, .unreadable read⟩
      | ok text =>
          by_cases blank : Text.allBlank text.toList = true
          · exact ⟨_, .nothing (.blank read blank)⟩
          · exact (Gives.file read blank).exists_fetched
  | url address =>
      cases replied : (network sent (.get address)).received with
      | error reason => exact ⟨_, .unreachable replied⟩
      | ok text =>
          cases text with
          | none => exact ⟨_, .nothing (.reply replied)⟩
          | some text => exact (Gives.reply replied).exists_fetched

/-- Of what may be fetched from a source just one is, and `fetch?` gives it. -/
theorem fetched_iff {result : Except GenerateError (Option Json)} :
    Fetched files network sent source result ↔ (fetch? files network source sent).result = result := by
  constructor
  · exact Fetched.result_eq
  · rintro rfl
    obtain ⟨result, fetched⟩ : ∃ result, Fetched files network sent source result :=
      exists_fetched source
    exact fetched.result_eq ▸ fetched

/-- A computation on what is fetched fails with what goes wrong with the source. -/
theorem fault_iff {α : Type} {absence error : GenerateError}
    {InDocument : Json → GenerateError → Prop} {next : Option Json → Except GenerateError α}
    (absent : next none = .error absence)
    (present : ∀ document error, next (some document) = .error error ↔ InDocument document error) :
    (fetch? files network source sent).result.bind next = .error error ↔
      Fault files network sent source absence InDocument error := by
  constructor
  · intro failed
    cases found : (fetch? files network source sent).result with
    | error other =>
        rw [found] at failed
        cases failed
        exact .unfetched (fetched_iff.2 found)
    | ok content =>
        rw [found] at failed
        change next content = .error error at failed
        cases content with
        | none =>
            rw [absent] at failed
            cases failed
            exact .absent (fetched_iff.2 found)
        | some document => exact .document (fetched_iff.2 found) ((present _ _).1 failed)
  · intro fault
    cases fault with
    | unfetched fetched =>
        rw [fetched.result_eq]
        rfl
    | absent fetched =>
        rw [fetched.result_eq]
        exact absent
    | document fetched wrong =>
        rw [fetched.result_eq]
        exact (present _ _).2 wrong

end ApiDiscovery.Fetch
