import ApiDiscovery.Proofs.Compile.InTurn
import ApiDiscovery.Proofs.Fetch.Fetched
import ApiDiscovery.Proofs.Generate.Requests

/-!
# Which document is at fault

A generation fails because of one document: the one of its source, or the one of
an entry that the source lists.  What can be wrong with either is the same but
for its absence, which has an error of its own at each level.  The error is the
one that this document leads to by itself, and it names this document unless it
names a method.
-/

namespace ApiDiscovery

/-! ## Documents -/

/--
What is wrong with the document of an API: it does not have the shape of one, or
one of its methods is the first that is not complete.
-/
inductive ApiDescription.Fault (source : String) (document : Json) : GenerateError → Prop where
  | misshapen {mismatch : Json.Mismatch} (refused : ofJson document = .error mismatch) :
      Fault source document (.badJson source mismatch.toError)
  | malformed {api : ApiDescription} {before after : List (Place MethodDeclaration)}
      {place : Place MethodDeclaration} {fault : MethodFault} (decoded : ofJson document = .ok api)
      (split : api.root.places = before ++ place :: after)
      (complete : ∀ earlier ∈ before, earlier.method.IsComplete)
      (lacks : place.method.Lacks fault) :
      Fault source document (.malformedMethod place.name fault)

theorem ApiDescription.compile_result_eq_error_iff {apiKey : Option String} {source : String}
    {document : Json} {api : ApiDescription} (decoded : ofJson document = .ok api)
    {error : GenerateError} :
    (api.compile apiKey).result = .error error ↔ Fault source document error := by
  rw [compile_result, ResourceTree.compile_result_eq_error_iff]
  constructor
  · rintro ⟨before, place, after, fault, split, complete, lacks, rfl⟩
    exact .malformed decoded split complete lacks
  · intro fault
    cases fault with
    | misshapen refused =>
        rw [decoded] at refused
        cases refused
    | malformed decodedToo split complete lacks =>
        rw [decoded] at decodedToo
        cases decodedToo
        exact ⟨_, _, _, _, split, complete, lacks, rfl⟩

theorem ApiListing.compileDocument_fails_iff {apiKey : Option String} {url : String}
    {document : Json} {error : GenerateError} :
    (compileDocument apiKey url document).result = .error error ↔
      ApiDescription.Fault url document error := by
  unfold compileDocument
  cases decoded : ApiDescription.ofJson document with
  | error mismatch =>
      constructor
      · intro failed
        cases failed
        exact .misshapen decoded
      · intro fault
        cases fault with
        | misshapen refused =>
            rw [decoded] at refused
            cases refused
            rfl
        | malformed decodedToo split complete lacks =>
            rw [decoded] at decodedToo
            cases decodedToo
  | ok api => exact ApiDescription.compile_result_eq_error_iff decoded

namespace Generate

/-- What is wrong with a source document itself, the documents that it lists left aside. -/
inductive DocumentFault (source : String) (document : Json) :
    Options.DocumentKind → GenerateError → Prop where
  | misshapen {mismatch : Json.Mismatch} (refused : ApiListing.ofJson document = .error mismatch) :
      DocumentFault source document .listing (.badJson source mismatch.toError)
  | unlisted {listing : ApiListing} (decoded : ApiListing.ofJson document = .ok listing)
      (absent : listing.items = none) : DocumentFault source document .listing (.noItems source)
  | api {error : GenerateError} (fault : ApiDescription.Fault source document error) :
      DocumentFault source document .api error

def SourceFault (files : Files) (network : Network) (sent : List Request) (source : Options.Source)
    (kind : Options.DocumentKind) : GenerateError → Prop :=
  Fetch.Fault files network sent source (.noDocument source.name) fun document =>
    DocumentFault source.name document kind

def EntryFault (files : Files) (network : Network) (sent : List Request) (url : String) :
    GenerateError → Prop :=
  Fetch.Fault files network sent (.url url) (.emptyDocument url) (ApiDescription.Fault url)

variable {files : Files} {network : Network} {sent : List Request} {error : GenerateError}

theorem entryLaunch_fails_iff {apiKey : Option String} {name url : String} :
    (ApiListing.entryLaunch files network apiKey name url sent).result = .error error ↔
      EntryFault files network sent url error := by
  have unfolded : ApiListing.treeOfReply apiKey url (network sent (.get url)).received =
      (Fetch.fetch? files network (.url url) sent).result.bind fun found =>
        (Fetch.required url found).bind fun document =>
          (ApiListing.compileDocument apiKey url document).result := rfl
  rw [ApiListing.entryLaunch_result, except_map_eq_error_iff, unfolded]
  exact Fetch.fault_iff rfl fun document error => ApiListing.compileDocument_fails_iff

/-- The source of a single API fails as the document of an entry does. -/
theorem ofDocument_api_fails_iff {apiKey : Option String} {source : String} {document : Json} :
    (ofDocument files network apiKey source .api document sent).result = .error error ↔
      ApiDescription.Fault source document error := by
  rw [← @ApiListing.compileDocument_fails_iff apiKey, ofDocument, ApiListing.compileDocument]
  cases ApiDescription.ofJson document with
  | error mismatch =>
      constructor
      · intro failed
        cases failed
        rfl
      · intro failed
        cases failed
        rfl
  | ok api =>
      dsimp only
      rw [Outcome.map_result_eq_error_iff, Outcome.logLast_result]

/-- A listing fails with an error of its own or as it is expanded. -/
theorem ofDocument_listing_fails_iff {apiKey : Option String} {source : String} {document : Json} :
    (ofDocument files network apiKey source .listing document sent).result = .error error ↔
      DocumentFault source document .listing error ∨
        ∃ listing entries, ApiListing.ofJson document = .ok listing ∧
          listing.items = some entries ∧
          (listing.expand files network apiKey source sent).result = .error error := by
  constructor
  · intro failed
    rw [ofDocument] at failed
    cases decoded : ApiListing.ofJson document with
    | error mismatch =>
        rw [decoded] at failed
        cases failed
        exact .inl (.misshapen decoded)
    | ok listing =>
        rw [decoded] at failed
        dsimp only at failed
        rw [Outcome.map_result_eq_error_iff, Outcome.logLast_result] at failed
        cases items : listing.items with
        | none =>
            rw [ApiListing.expand, items] at failed
            cases failed
            exact .inl (.unlisted decoded items)
        | some entries => exact .inr ⟨listing, entries, rfl, items, failed⟩
  · intro why
    rw [ofDocument]
    rcases why with own | ⟨listing, entries, decoded, items, failed⟩
    · cases own with
      | misshapen refused =>
          rw [refused]
          rfl
      | unlisted decoded absent =>
          rw [decoded]
          dsimp only
          rw [Outcome.map_result_eq_error_iff, Outcome.logLast_result, ApiListing.expand, absent]
          rfl
    · rw [decoded]
      dsimp only
      rw [Outcome.map_result_eq_error_iff, Outcome.logLast_result]
      exact failed

/-- A run fails with what goes wrong with its source, all that its document leads to included. -/
theorem run_fails_iff {options : Options} :
    (run files network options sent).result = .error error ↔
      Fetch.Fault files network sent options.resolve.1 (.noDocument options.resolve.1.name)
        (fun document error =>
          (ofDocument files network options.apiKey options.resolve.1.name options.resolve.2
            document (sent ++ sourceRequests options.resolve.1)).result = .error error) error := by
  rw [run_eq_andThen, Outcome.andThen_result]
  refine Fetch.fault_iff rfl fun document error => ?_
  rw [← @fetching_requests files network options sent]
  exact Iff.rfl

/-! ## What errors tell -/

/-- The errors of a source: all but those of a method of the API in it carry its name. -/
inductive SourceError (source : String) : Options.DocumentKind → GenerateError → Prop where
  | unreadable {kind : Options.DocumentKind} (fault : ReadFault) :
      SourceError source kind (.unreadable source fault)
  | unreachable {kind : Options.DocumentKind} (reason : String) :
      SourceError source kind (.unreachable source reason)
  | badJson {kind : Options.DocumentKind} (error : Json.Error) :
      SourceError source kind (.badJson source error)
  | noDocument {kind : Options.DocumentKind} : SourceError source kind (.noDocument source)
  | noItems : SourceError source .listing (.noItems source)
  | malformedMethod (name : String) (fault : MethodFault) :
      SourceError source .api (.malformedMethod name fault)

/-- The errors of an entry: all but those of a method of its API carry its address. -/
inductive EntryError (url : String) : GenerateError → Prop where
  | unreachable (reason : String) : EntryError url (.unreachable url reason)
  | badJson (error : Json.Error) : EntryError url (.badJson url error)
  | emptyDocument : EntryError url (.emptyDocument url)
  | malformedMethod (name : String) (fault : MethodFault) :
      EntryError url (.malformedMethod name fault)

theorem SourceFault.sourceError {source : Options.Source} {kind : Options.DocumentKind}
    (fault : SourceFault files network sent source kind error) :
    SourceError source.name kind error := by
  cases fault with
  | unfetched fetched =>
      cases fetched with
      | unreadable read => exact .unreadable _
      | unreachable replied => exact .unreachable _
      | notJson gives parsed => exact .badJson _
  | absent fetched => exact .noDocument
  | document fetched wrong =>
      cases wrong with
      | misshapen refused => exact .badJson _
      | unlisted decoded absent => exact .noItems
      | api fault =>
          cases fault with
          | misshapen refused => exact .badJson _
          | malformed decoded split complete lacks => exact .malformedMethod _ _

theorem EntryFault.entryError {url : String} (fault : EntryFault files network sent url error) :
    EntryError url error := by
  cases fault with
  | unfetched fetched =>
      cases fetched with
      | unreachable replied => exact .unreachable _
      | notJson gives parsed => exact .badJson _
  | absent fetched => exact .emptyDocument
  | document fetched wrong =>
      cases wrong with
      | misshapen refused => exact .badJson _
      | malformed decoded split complete lacks => exact .malformedMethod _ _

/-- What goes wrong with a source is what the run fails with. -/
theorem run_of_sourceFault {options : Options}
    (fault : SourceFault files network sent options.resolve.1 options.resolve.2 error) :
    (run files network options sent).result = .error error := by
  refine run_fails_iff.2 ?_
  cases fault with
  | unfetched fetched => exact .unfetched fetched
  | absent fetched => exact .absent fetched
  | @document document error fetched wrong =>
      refine .document fetched ?_
      revert wrong
      cases options.resolve.2 with
      | api =>
          intro wrong
          cases wrong with
          | api fault => exact ofDocument_api_fails_iff.2 fault
      | listing => exact fun wrong => ofDocument_listing_fails_iff.2 (.inl wrong)

/-- The error of an expansion is that of one of the entries, which has it by itself. -/
theorem exists_entry_of_expand {apiKey : Option String} {listing : ApiListing}
    {entries : List ListedApi} (items : listing.items = some entries) {source : String}
    (failed : (listing.expand files network apiKey source sent).result = .error error) :
    ∃ before entry after url, entries = before ++ entry :: after ∧ entry.ExpandsFrom url ∧
      (ApiListing.entryLaunch files network apiKey entry.name url
        (sent ++ before.filterMap entryRequest?)).result = .error error := by
  rw [ApiListing.expand_result items, except_map_eq_error_iff] at failed
  obtain ⟨task, member, fails, _⟩ := (FanOut.breaks_of_join failed).exists_mem
  obtain ⟨before, entry, after, url, split, expands, rfl⟩ :=
    ApiListing.exists_split_of_mem_attempts member
  rw [← filterMap_entryRequest?] at fails
  exact ⟨before, entry, after, url, split, expands, fails⟩

/--
A run fails with the error of one document: with what goes wrong with its
source, or else, if the source is a listing, with what goes wrong with one of
the entries that can be expanded.
-/
theorem fault_of_run {options : Options}
    (failed : (run files network options sent).result = .error error) :
    SourceFault files network sent options.resolve.1 options.resolve.2 error ∨
      options.resolve.2 = .listing ∧ ∃ before entry after url,
        listedEntries files network options sent = before ++ entry :: after ∧
        entry.ExpandsFrom url ∧
        (ApiListing.entryLaunch files network options.apiKey entry.name url
          (sent ++ sourceRequests options.resolve.1 ++ before.filterMap entryRequest?)).result =
            .error error := by
  cases run_fails_iff.1 failed with
  | unfetched fetched => exact .inl (.unfetched fetched)
  | absent fetched => exact .inl (.absent fetched)
  | @document document error fetched wrong =>
      have listed : listedEntries files network options sent =
          entriesOf options.resolve.2 document := by
        rw [listedEntries, fetching, fetched.result_eq]
      rw [listed]
      unfold SourceFault
      revert wrong
      cases options.resolve.2 with
      | api =>
          intro wrong
          exact .inl (.document fetched (.api (ofDocument_api_fails_iff.1 wrong)))
      | listing =>
          intro wrong
          rcases ofDocument_listing_fails_iff.1 wrong with
            own | ⟨listing, entries, decoded, items, fails⟩
          · exact .inl (.document fetched own)
          · rw [entriesOf_of_ok decoded, items, Option.getD_some]
            exact .inr ⟨rfl, exists_entry_of_expand items fails⟩

/--
What goes wrong with the source of a run is what the run fails with.  Whatever
else a run fails with, the source is a listing, and an entry that can be
expanded leads to this error by itself.  The errors of either carry the name of
their document unless they are about a method, and a document that is not there
has one error at the source and another one at an entry.
-/
theorem failure_names_its_document (files : Files) (network : Network) (options : Options)
    (sent : List Request) :
    (∀ error, SourceFault files network sent options.resolve.1 options.resolve.2 error →
      (run files network options sent).result = .error error) ∧
    (∀ error, (run files network options sent).result = .error error →
      SourceFault files network sent options.resolve.1 options.resolve.2 error ∧
          SourceError options.resolve.1.name options.resolve.2 error ∨
        options.resolve.2 = .listing ∧ ∃ before entry after url history,
          listedEntries files network options sent = before ++ entry :: after ∧
          entry.ExpandsFrom url ∧
          history =
            sent ++ sourceRequests options.resolve.1 ++ before.filterMap entryRequest? ∧
          (ApiListing.entryLaunch files network options.apiKey entry.name url history).result =
            .error error ∧
          EntryFault files network history url error ∧ EntryError url error) ∧
    (∀ source kind missing, ¬ SourceFault files network sent source kind (.emptyDocument missing)) ∧
    ∀ url history missing, ¬ EntryFault files network history url (.noDocument missing) := by
  refine ⟨fun error fault => run_of_sourceFault fault, ?_, ?_, ?_⟩
  · intro error failed
    rcases fault_of_run failed with
      fault | ⟨listing, before, entry, after, url, split, expands, fails⟩
    · exact .inl ⟨fault, fault.sourceError⟩
    · have fault := entryLaunch_fails_iff.1 fails
      exact .inr ⟨listing, before, entry, after, url, _, split, expands, rfl, fails, fault,
        fault.entryError⟩
  · intro source kind missing fault
    cases fault.sourceError
  · intro url history missing fault
    cases fault.entryError

/-- A document that is null is missed at the entry that leads to it. -/
example : (run (fun _ => .ok (Text.Utf8.encode ("\x7b\"items\":[\x7b\"preferred\":true," ++
      "\"discoveryRestUrl\":\"u\"\x7d]\x7d").toList))
    (fun _ _ => { received := .ok (some "null") }) { serviceFile := some "list" } []).result.map
      (fun _ => ()) = .error (.emptyDocument "u") := by decide +kernel

end Generate

end ApiDiscovery
