import ApiDiscovery.Generate
import ApiDiscovery.Proofs.Compile.AtOnce
import ApiDiscovery.Proofs.Compile.Mirror

/-!
# One entry of a listing

Expanding an entry sends one request and waits for its reply only.  What comes
of it depends on what is received and on nothing else: the received text has to
hold a document, the document has to describe an API, and the API has to
compile.
-/

namespace ApiDiscovery

namespace ApiListing

variable {files : Files} {network : Network} {apiKey : Option String}

theorem compileDocument_atOnce (url : String) (document : Json) :
    (compileDocument apiKey url document).AtOnce := by
  unfold compileDocument
  cases ApiDescription.ofJson document with
  | error mismatch => exact ⟨rfl, rfl⟩
  | ok api => exact api.compile_atOnce apiKey

/-- The callable methods that a reply leads to. -/
def treeOfReply (apiKey : Option String) (url : String)
    (received : Except String (Option String)) : Except GenerateError (ResourceTree ApiMethod) :=
  (Fetch.documentOfReply url received).bind fun document =>
    (Fetch.required url document).bind fun document =>
      (compileDocument apiKey url document).result

theorem entryLaunch_requests (name url : String) (sent : List Request) :
    (entryLaunch files network apiKey name url sent).requests = [.get url] := by
  unfold entryLaunch Fetch.fetch
  rw [Task.andThen_requests fun document => (compileDocument_atOnce url document).map _,
    Task.andThen_requests fun document => ⟨rfl, rfl⟩]
  rfl

theorem entryLaunch_rounds (name url : String) (sent : List Request) :
    (entryLaunch files network apiKey name url sent).rounds = (network sent (.get url)).rounds := by
  unfold entryLaunch Fetch.fetch
  rw [Task.andThen_rounds fun document => (compileDocument_atOnce url document).map _,
    Task.andThen_rounds fun document => ⟨rfl, rfl⟩]
  rfl

theorem entryLaunch_result (name url : String) (sent : List Request) :
    (entryLaunch files network apiKey name url sent).result =
      (treeOfReply apiKey url (network sent (.get url)).received).map fun tree => (name, tree) := by
  unfold entryLaunch Fetch.fetch treeOfReply
  rw [Task.andThen_result, Task.andThen_result]
  change ((Fetch.documentOfReply url (network sent (.get url)).received).bind _).bind _ = _
  cases Fetch.documentOfReply url (network sent (.get url)).received with
  | error error => rfl
  | ok document =>
      cases document with
      | none => rfl
      | some document => rfl

/-- What an entry's reply leads to is compiled from the document in it. -/
theorem treeOfReply_eq_ok_iff {url : String} {received : Except String (Option String)}
    {tree : ResourceTree ApiMethod} :
    treeOfReply apiKey url received = .ok tree ↔
      ∃ document api, Fetch.documentOfReply url received = .ok (some document) ∧
        ApiDescription.ofJson document = .ok api ∧ (api.compile apiKey).result = .ok tree := by
  unfold treeOfReply
  cases Fetch.documentOfReply url received with
  | error error => simp [Except.bind]
  | ok found =>
      cases found with
      | none => simp [Except.bind, Fetch.required]
      | some document =>
          change (compileDocument apiKey url document).result = .ok tree ↔ _
          unfold compileDocument
          cases decoded : ApiDescription.ofJson document with
          | error mismatch => simp [Outcome.fail, decoded]
          | ok api => simp [decoded]

/-- The names and addresses of the entries that can be expanded, in the order of the listing. -/
def expandable (entries : List ListedApi) : List (String × String) :=
  entries.filterMap fun entry => entry.expandableUrl.map fun url => (entry.name, url)

theorem mem_expandable {entries : List ListedApi} {name url : String} :
    (name, url) ∈ expandable entries ↔
      ∃ entry ∈ entries, entry.name = name ∧ entry.ExpandsFrom url := by
  unfold expandable
  rw [List.mem_filterMap]
  constructor
  · rintro ⟨entry, member, same⟩
    obtain ⟨found, known, pair⟩ := Option.map_eq_some_iff.1 same
    cases pair
    exact ⟨entry, member, rfl, ListedApi.expandableUrl_eq_some_iff.1 known⟩
  · rintro ⟨entry, member, rfl, expands⟩
    exact ⟨entry, member, by rw [ListedApi.expandableUrl_eq_some_iff.2 expands]; rfl⟩

theorem entryLaunches_eq_map (entries : List ListedApi) :
    entryLaunches files network apiKey entries =
      (expandable entries).map fun pair => entryLaunch files network apiKey pair.1 pair.2 := by
  unfold entryLaunches expandable
  rw [List.map_filterMap]
  refine congrArg (fun f => List.filterMap f entries) (funext fun entry => ?_)
  rw [Option.map_map]
  rfl

/-- The expansions of all entries that can be expanded, as they are started. -/
def attempts (files : Files) (network : Network) (apiKey : Option String)
    (entries : List ListedApi) (sent : List Request) :
    List (Task GenerateError (String × ResourceTree ApiMethod)) :=
  FanOut.launched sent (entryLaunches files network apiKey entries)

theorem entryLaunches_cons_none {entry : ListedApi} (entries : List ListedApi)
    (skipped : entry.expandableUrl = none) :
    entryLaunches files network apiKey (entry :: entries) =
      entryLaunches files network apiKey entries := by
  unfold entryLaunches
  rw [List.filterMap_cons, skipped]
  rfl

theorem entryLaunches_cons_some {entry : ListedApi} {url : String} (entries : List ListedApi)
    (address : entry.expandableUrl = some url) :
    entryLaunches files network apiKey (entry :: entries) =
      entryLaunch files network apiKey entry.name url ::
        entryLaunches files network apiKey entries := by
  unfold entryLaunches
  rw [List.filterMap_cons, address]
  rfl

/-- Every expansion that is started is that of an entry, behind the requests for those before it. -/
theorem exists_split_of_mem_attempts {entries : List ListedApi} {sent : List Request}
    {task : Task GenerateError (String × ResourceTree ApiMethod)}
    (member : task ∈ attempts files network apiKey entries sent) :
    ∃ before entry after url, entries = before ++ entry :: after ∧ entry.ExpandsFrom url ∧
      task = entryLaunch files network apiKey entry.name url
        (sent ++ (before.filterMap ListedApi.expandableUrl).map Request.get) := by
  unfold attempts at member
  induction entries generalizing sent with
  | nil => cases member
  | cons first entries ih =>
      cases address : first.expandableUrl with
      | none =>
          rw [entryLaunches_cons_none entries address] at member
          obtain ⟨before, entry, after, url, rfl, expands, same⟩ := ih member
          refine ⟨first :: before, entry, after, url, rfl, expands, ?_⟩
          rw [same, List.filterMap_cons_none address]
      | some firstUrl =>
          rw [entryLaunches_cons_some entries address, FanOut.launched] at member
          rcases List.mem_cons.1 member with same | later
          · refine ⟨[], first, entries, firstUrl, rfl,
              ListedApi.expandableUrl_eq_some_iff.1 address, ?_⟩
            rw [same, List.filterMap_nil, List.map_nil, List.append_nil]
          · obtain ⟨before, entry, after, url, rfl, expands, same⟩ := ih later
            refine ⟨first :: before, entry, after, url, rfl, expands, ?_⟩
            rw [same, entryLaunch_requests, List.filterMap_cons_some address, List.map_cons,
              List.append_assoc, List.singleton_append]

/-- What comes of an expansion that is started is in the reply. -/
theorem exists_of_mem_attempts {entries : List ListedApi} {sent : List Request}
    {task : Task GenerateError (String × ResourceTree ApiMethod)}
    (member : task ∈ attempts files network apiKey entries sent) :
    ∃ entry ∈ entries, ∃ url before, entry.ExpandsFrom url ∧
      task.requests = [.get url] ∧ task.rounds = (network before (.get url)).rounds ∧
      task.result = (treeOfReply apiKey url (network before (.get url)).received).map fun tree =>
        (entry.name, tree) := by
  obtain ⟨before, entry, after, url, rfl, expands, rfl⟩ := exists_split_of_mem_attempts member
  exact ⟨entry, List.mem_append_right _ List.mem_cons_self, url, _, expands,
    entryLaunch_requests entry.name url _, entryLaunch_rounds entry.name url _,
    entryLaunch_result entry.name url _⟩

/-- The entries that can be expanded are asked for in their order, each of them once. -/
theorem requestsOf_attempts (entries : List ListedApi) (sent : List Request) :
    FanOut.requestsOf (attempts files network apiKey entries sent) =
      (entries.filterMap ListedApi.expandableUrl).map Request.get := by
  unfold attempts
  induction entries generalizing sent with
  | nil => rfl
  | cons entry entries ih =>
      cases address : entry.expandableUrl with
      | none =>
          rw [entryLaunches_cons_none entries address, List.filterMap_cons_none address]
          exact ih sent
      | some url =>
          rw [entryLaunches_cons_some entries address, List.filterMap_cons_some address,
            FanOut.launched, FanOut.requestsOf, List.flatMap_cons, entryLaunch_requests,
            List.map_cons]
          exact congrArg (Request.get url :: ·) (ih _)

section

variable {listing : ApiListing} {entries : List ListedApi} {source : String} {sent : List Request}

theorem expand_requests (items : listing.items = some entries) :
    (listing.expand files network apiKey source sent).requests =
      (FanOut.join (.ofSize entries.length) (entryLaunches files network apiKey entries)
        sent).requests := by
  unfold expand
  rw [items]
  rfl

theorem expand_rounds (items : listing.items = some entries) :
    (listing.expand files network apiKey source sent).rounds =
      (FanOut.join (.ofSize entries.length) (entryLaunches files network apiKey entries)
        sent).rounds := by
  unfold expand
  rw [items]
  rfl

theorem expand_result (items : listing.items = some entries) :
    (listing.expand files network apiKey source sent).result =
      (FanOut.join (.ofSize entries.length) (entryLaunches files network apiKey entries)
        sent).result.map NameTable.ofList := by
  unfold expand
  rw [items]
  rfl

end

end ApiListing

end ApiDiscovery
