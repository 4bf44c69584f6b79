import ApiDiscovery.Proofs.Expand.Attempt

/-!
# The directory of a listing

Whether a listing expands, and to what, depends on what the network answers and
not on when.  The directory holds every entry that can be expanded under its
name, the last one of a repeated name winning.
-/

namespace ApiDiscovery

/-- Whenever and after whatever the network is asked for an address, it gives this answer. -/
def Network.AnswersFrom (network : Network) (answers : String → Except String (Option String)) :
    Prop :=
  ∀ sent url, (network sent (.get url)).received = answers url

namespace ApiListing

variable {files : Files} {network : Network} {apiKey : Option String}
  {answers : String → Except String (Option String)} {entries : List ListedApi}

/-- The answer at this address holds a document of an API that compiles to this tree. -/
structure CompilesFrom (answers : String → Except String (Option String))
    (apiKey : Option String) (url : String) (api : ApiDescription)
    (tree : ResourceTree ApiMethod) : Prop where
  decodes : ∃ document, Fetch.documentOfReply url (answers url) = .ok (some document) ∧
    ApiDescription.ofJson document = .ok api
  compiles : (api.compile apiKey).result = .ok tree

def Expanded (answers : String → Except String (Option String)) (apiKey : Option String) :
    List (String × String) → List (String × ResourceTree ApiMethod) → Prop :=
  NameTable.Aligned fun _ url tree => treeOfReply apiKey url (answers url) = .ok tree

theorem treeOfAnswer_eq_ok_iff {url : String} {tree : ResourceTree ApiMethod} :
    treeOfReply apiKey url (answers url) = .ok tree ↔
      ∃ api, CompilesFrom answers apiKey url api tree := by
  rw [treeOfReply_eq_ok_iff]
  constructor
  · rintro ⟨document, api, found, decoded, compiled⟩
    exact ⟨api, ⟨document, found, decoded⟩, compiled⟩
  · rintro ⟨api, ⟨document, found, decoded⟩, compiled⟩
    exact ⟨document, api, found, decoded, compiled⟩

/-- Every method of a tree that an answer leads to is bound to the address its document declares. -/
theorem CompilesFrom.binding_eq {url : String} {api : ApiDescription}
    {tree : ResourceTree ApiMethod} (compiles : CompilesFrom answers apiKey url api tree)
    {method : ApiMethod} (holds : tree.Holds method) :
    method.binding = ⟨apiKey, api.resolvedBaseUrl.getD ""⟩ := by
  have compiled := compiles.compiles
  rw [api.compile_result] at compiled
  exact ResourceTree.binding_of_compile compiled holds

/-- What the expansions of all entries give together, whatever their timing. -/
theorem succeed_entryLaunches_iff (answersFrom : network.AnswersFrom answers)
    {sent : List Request} {pairs : List (String × ResourceTree ApiMethod)} :
    FanOut.Succeed (attempts files network apiKey entries sent) pairs ↔
      Expanded answers apiKey (expandable entries) pairs := by
  rw [attempts, entryLaunches_eq_map]
  apply FanOut.succeed_launched_map_iff
  rintro ⟨name, url⟩ before ⟨other, tree⟩
  dsimp only
  rw [entryLaunch_result, answersFrom]
  cases treeOfReply apiKey url (answers url) with
  | error error => simp [Except.map]
  | ok value => simp [Except.map]

variable {listing : ApiListing} {source : String} {sent : List Request}
  {apis : NameTable (ResourceTree ApiMethod)}

theorem expand_result_eq_ok_iff (items : listing.items = some entries)
    (answersFrom : network.AnswersFrom answers) :
    (listing.expand files network apiKey source sent).result = .ok apis ↔
      ∃ pairs, Expanded answers apiKey (expandable entries) pairs ∧
        NameTable.ofList pairs = apis := by
  rw [expand_result items, except_map_eq_ok_iff]
  refine exists_congr fun pairs => and_congr_left fun _ => ?_
  rw [FanOut.join_result_eq_ok_iff]
  exact succeed_entryLaunches_iff answersFrom

/-- Entries expand together if each one does on its own. -/
theorem exists_expanded_iff :
    (∃ pairs, Expanded answers apiKey (expandable entries) pairs) ↔
      ∀ entry ∈ entries, ∀ url, entry.ExpandsFrom url →
        ∃ api tree, CompilesFrom answers apiKey url api tree := by
  constructor
  · rintro ⟨pairs, expanded⟩ entry member url expands
    obtain ⟨tree, done⟩ := NameTable.Aligned.of_mem expanded
      (mem_expandable.2 ⟨entry, member, rfl, expands⟩)
    obtain ⟨api, compiles⟩ := treeOfAnswer_eq_ok_iff.1 done
    exact ⟨api, tree, compiles⟩
  · intro each
    apply NameTable.exists_aligned
    rintro ⟨name, url⟩ member
    obtain ⟨entry, found, _, expands⟩ := mem_expandable.1 member
    obtain ⟨api, tree, compiles⟩ := each entry found url expands
    exact ⟨tree, treeOfAnswer_eq_ok_iff.2 ⟨api, compiles⟩⟩

/-- The directory of these entries: their names in increasing octets, the last entry of a name
giving what stands under it. -/
structure DirectoryOf (answers : String → Except String (Option String))
    (apiKey : Option String) (entries : List ListedApi)
    (apis : NameTable (ResourceTree ApiMethod)) : Prop where
  octets : apis.names.Pairwise fun left right =>
    Text.Utf8.encode left.toList < Text.Utf8.encode right.toList
  mem_names : ∀ name, name ∈ apis.names ↔
    ∃ entry ∈ entries, (∃ url, entry.ExpandsFrom url) ∧ entry.name = name
  tree : ∀ name tree, apis.get? name = some tree →
    ∃ before entry after url api, entries = before ++ entry :: after ∧ entry.name = name ∧
      entry.ExpandsFrom url ∧
      (∀ later ∈ after, (∃ other, later.ExpandsFrom other) → later.name ≠ name) ∧
      CompilesFrom answers apiKey url api tree ∧
      ∀ method, tree.Holds method →
        method.binding = ⟨apiKey, api.resolvedBaseUrl.getD ""⟩

theorem mem_names_expandable {name : String} :
    name ∈ NameTable.names (expandable entries) ↔
      ∃ entry ∈ entries, (∃ url, entry.ExpandsFrom url) ∧ entry.name = name := by
  unfold NameTable.names
  rw [List.mem_map]
  constructor
  · rintro ⟨⟨known, url⟩, member, rfl⟩
    obtain ⟨entry, found, same, expands⟩ := mem_expandable.1 member
    exact ⟨entry, found, ⟨url, expands⟩, same⟩
  · rintro ⟨entry, found, ⟨url, expands⟩, rfl⟩
    exact ⟨(entry.name, url), mem_expandable.2 ⟨entry, found, rfl, expands⟩, rfl⟩

/-- Where the entries that can be expanded split, the listing splits too. -/
theorem split_expandable {front back : List (String × String)} {name url : String}
    (split : expandable entries = front ++ (name, url) :: back) :
    ∃ before entry after, entries = before ++ entry :: after ∧ entry.name = name ∧
      entry.ExpandsFrom url ∧ expandable after = back := by
  obtain ⟨before, rest, rfl, _, tail⟩ := List.filterMap_eq_append_iff.1 split
  obtain ⟨skipped, entry, after, rfl, _, here, further⟩ := List.filterMap_eq_cons_iff.1 tail
  obtain ⟨found, address, pair⟩ := Option.map_eq_some_iff.1 here
  cases pair
  exact ⟨before ++ skipped, entry, after, by rw [List.append_assoc], rfl,
    ListedApi.expandableUrl_eq_some_iff.1 address, further⟩

theorem directoryOf_ofList {pairs : List (String × ResourceTree ApiMethod)}
    (expanded : Expanded answers apiKey (expandable entries) pairs) :
    DirectoryOf answers apiKey entries (NameTable.ofList pairs) := by
  have names : NameTable.names pairs = NameTable.names (expandable entries) :=
    NameTable.Aligned.names_eq expanded
  refine ⟨(NameTable.ordered_ofList pairs).octets, ?_, ?_⟩
  · intro name
    rw [NameTable.mem_names_ofList, ← mem_names_expandable, ← names, NameTable.names,
      List.mem_map]
  · intro name tree found
    obtain ⟨earlier, later, rfl, others⟩ := NameTable.get?_ofList_eq_some_iff.1 found
    obtain ⟨front, url, back, split, done, sameNames⟩ := NameTable.Aligned.split_right expanded
    obtain ⟨before, entry, after, rfl, same, expands, rfl⟩ := split_expandable split
    obtain ⟨api, compiles⟩ := treeOfAnswer_eq_ok_iff.1 done
    refine ⟨before, entry, after, url, api, rfl, same, expands, ?_, compiles,
      fun method holds => compiles.binding_eq holds⟩
    intro other member expandsToo clash
    have known : name ∈ NameTable.names later := by
      rw [sameNames]
      exact mem_names_expandable.2 ⟨other, member, expandsToo, clash⟩
    obtain ⟨pair, inLater, taken⟩ := List.mem_map.1 known
    exact others pair inLater taken

/--
Whether a listing expands does not depend on the timing: it does if and only if
each entry does on its own that is preferred and says where its document is.
Neither does the directory.
-/
theorem expand_independent_of_timing (files : Files) (apiKey : Option String)
    (answers : String → Except String (Option String)) (listing : ApiListing)
    (entries : List ListedApi) (items : listing.items = some entries) (source : String) :
    (∀ (network : Network) sent, network.AnswersFrom answers →
      ((∃ apis, (listing.expand files network apiKey source sent).result = .ok apis) ↔
        ∀ entry ∈ entries, ∀ url, entry.ExpandsFrom url →
          ∃ api tree, CompilesFrom answers apiKey url api tree)) ∧
    (∀ (network other : Network) sent before apis,
      network.AnswersFrom answers → other.AnswersFrom answers →
      (listing.expand files network apiKey source sent).result = .ok apis →
        (listing.expand files other apiKey source before).result = .ok apis) ∧
    ∀ (network : Network) sent apis, network.AnswersFrom answers →
      (listing.expand files network apiKey source sent).result = .ok apis →
        DirectoryOf answers apiKey entries apis := by
  refine ⟨?_, ?_, ?_⟩
  · intro network sent answersFrom
    rw [← exists_expanded_iff]
    constructor
    · rintro ⟨apis, done⟩
      obtain ⟨pairs, expanded, _⟩ := (expand_result_eq_ok_iff items answersFrom).1 done
      exact ⟨pairs, expanded⟩
    · rintro ⟨pairs, expanded⟩
      exact ⟨_, (expand_result_eq_ok_iff items answersFrom).2 ⟨pairs, expanded, rfl⟩⟩
  · intro network other sent before apis answersFrom answersToo done
    exact (expand_result_eq_ok_iff items answersToo).2
      ((expand_result_eq_ok_iff items answersFrom).1 done)
  · intro network sent apis answersFrom done
    obtain ⟨pairs, expanded, rfl⟩ := (expand_result_eq_ok_iff items answersFrom).1 done
    exact directoryOf_ofList expanded

/-- A listing with a repeated name and an entry that is passed over. -/
def drivesListing : ApiListing :=
  { items := some [
      { name := "drive", preferred := some true, documentUrl := some "https://x/old" },
      { name := "mail", preferred := some true, documentUrl := some "https://x/mail" },
      { name := "mail", preferred := some false, documentUrl := some "https://x/lost" },
      { name := "drive", preferred := some true, documentUrl := some "https://x/new" }] }

def drivesAnswers (url : String) : Except String (Option String) :=
  .ok (some (if url = "https://x/new" then
    "\x7b\"baseUrl\":\"https://n/\",\"methods\":\x7b\"get\":" ++
      "\x7b\"httpMethod\":\"GET\",\"path\":\"new\"\x7d\x7d\x7d"
    else "\x7b\"baseUrl\":\"https://o/\"\x7d"))

/-- A network that replies the sooner the later it is asked. -/
def latestFirst : Network := fun sent request =>
  { rounds := 5 - sent.length, received := drivesAnswers request.url }

/-- The name given twice is there once, with the methods of the document listed last. -/
theorem expand_drivesListing :
    ∃ entries, drivesListing.items = some entries ∧ latestFirst.AnswersFrom drivesAnswers ∧
      ∃ apis, (drivesListing.expand (Folder.files []) latestFirst (some "key") "listing"
          []).result = .ok apis ∧
        DirectoryOf drivesAnswers (some "key") entries apis ∧ apis.names = ["drive", "mail"] ∧
        ∃ drive, apis.get? "drive" = some drive ∧
          drive.methods = [("get", ⟨"$get", "GET", "new", ⟨some "key", "https://n/"⟩⟩)] := by
  have answersFrom : latestFirst.AnswersFrom drivesAnswers := fun _ _ => rfl
  have expands : (drivesListing.expand (Folder.files []) latestFirst (some "key") "listing"
      []).result.toOption.map (fun apis =>
        (apis.names, (apis.get? "drive").map ResourceTree.methods)) =
      some (["drive", "mail"],
        some [("get", ⟨"$get", "GET", "new", ⟨some "key", "https://n/"⟩⟩)]) := by decide +kernel
  refine ⟨_, rfl, answersFrom, ?_⟩
  cases done : (drivesListing.expand (Folder.files []) latestFirst (some "key") "listing"
      []).result with
  | error error =>
      rw [done] at expands
      cases expands
  | ok apis =>
      rw [done] at expands
      obtain ⟨names, drive⟩ := Prod.mk.inj (Option.some.inj expands)
      exact ⟨apis, rfl, (expand_independent_of_timing _ _ _ drivesListing _ rfl _).2.2 _ _ _
        answersFrom done, names, Option.map_eq_some_iff.1 drive⟩

end ApiListing

end ApiDiscovery
