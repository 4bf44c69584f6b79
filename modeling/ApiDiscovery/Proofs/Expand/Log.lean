import ApiDiscovery.Http
import ApiDiscovery.Proofs.Compile.InTurn
import ApiDiscovery.Proofs.Expand.Attempt
import ApiDiscovery.Proofs.FanOut.Log

/-!
# What the log of an expansion says of the entries

First come the entries that are passed over, all of them and in the order of the
listing, and only then is anything fetched.  From there on the log announces
each request, in the order in which they are sent, between events that come with
the replies.
-/

namespace ApiDiscovery

/-! ## What compiling logs -/

namespace Outcome

variable {ε α : Type}

/-- Nothing is logged in turn but what one of the computations logs. -/
theorem exists_mem_of_mem_inTurn_log {outcomes : List (Outcome ε α)} {event : Event}
    (logged : event ∈ (inTurn outcomes).log) : ∃ outcome ∈ outcomes, event ∈ outcome.log := by
  induction outcomes with
  | nil => cases logged
  | cons first rest ih =>
      rw [inTurn] at logged
      cases done : first.result with
      | error error =>
          rw [andThen_of_error done] at logged
          exact ⟨first, List.mem_cons_self, logged⟩
      | ok value =>
          rw [andThen_of_ok done] at logged
          rcases List.mem_append.1 logged with now | later
          · exact ⟨first, List.mem_cons_self, now⟩
          · obtain ⟨outcome, member, found⟩ := ih later
            exact ⟨outcome, List.mem_cons_of_mem _ member, found⟩

theorem mem_log_logLast {outcome : Outcome ε α} {events : α → List Event} {event : Event}
    (logged : event ∈ (outcome.logLast events).log) :
    event ∈ outcome.log ∨ ∃ value, event ∈ events value := by
  unfold logLast at logged
  split at logged
  · exact .inl logged
  · next value _ => exact (List.mem_append.1 logged).imp_right fun last => ⟨value, last⟩

end Outcome

/-- The compilation of a tree logs compiled methods and nothing else. -/
theorem ResourceTree.exists_loggedAt_of_mem_compile_log {binding : Binding}
    {declared : ResourceTree MethodDeclaration} {event : Event}
    (logged : event ∈ (declared.compile binding).log) :
    ∃ place ∈ declared.places, LoggedAt binding place event := by
  have course := compile_eq_compileInTurn binding declared ▸ course_compileInTurn binding declared
  rw [Outcome.log_eq_of_course course] at logged
  obtain ⟨outcome, member, found⟩ := Outcome.exists_mem_of_mem_inTurn_log logged
  obtain ⟨place, known, rfl⟩ := List.mem_map.1 member
  refine ⟨place, known, ?_⟩
  unfold placeAlone ApiMethod.compileAlone at found
  cases compiled : ApiMethod.compile binding place.name place.method with
  | error error =>
      rw [compiled] at found
      cases found
  | ok method =>
      rw [compiled] at found
      exact ⟨method, compiled, List.mem_singleton.1 found⟩

/-! ## Announcements -/

namespace Fetch

def announces (event : Event) : Bool := event.message == "Fetching discovery document"

def announcement (request : Request) : Event := fetchingEvent (.url request.url)

theorem announces_announcement (request : Request) : announces (announcement request) = true := rfl

/-- A network that does not itself say that a document is fetched. -/
def Unannounced (network : Network) : Prop :=
  ∀ sent request, ∀ event ∈ (network sent request).log, announces event = false

end Fetch

/-- A client logs answers and nothing else. -/
theorem Http.network_unannounced (client : Client) (peer : Peer) :
    Fetch.Unannounced (network client peer) := by
  intro sent request event logged
  unfold network reply at logged
  split at logged
  · cases logged
  · next url _ =>
      dsimp only at logged
      split at logged
      · unfold replyOf at logged
        split at logged
        · cases logged
        · rw [List.mem_singleton.1 logged]
          rfl
      · cases logged

/-- Compiling an API announces nothing. -/
theorem ApiDescription.announces_eq_false_of_mem_compile_log {apiKey : Option String}
    {api : ApiDescription} {event : Event} (logged : event ∈ (api.compile apiKey).log) :
    Fetch.announces event = false := by
  unfold compile at logged
  rcases List.mem_append.1 logged with warned | compiled
  · split at warned
    · rw [List.mem_singleton.1 warned]
      rfl
    · cases warned
  · rcases Outcome.mem_log_logLast compiled with inside | ⟨tree, last⟩
    · obtain ⟨place, _, method, _, rfl⟩ := ResourceTree.exists_loggedAt_of_mem_compile_log inside
      rfl
    · rw [List.mem_singleton.1 last]
      rfl

namespace ApiListing

variable {files : Files} {network : Network} {apiKey : Option String}

/-! ## One entry -/

/--
What is logged of an entry that is passed over: a warning if it is preferred but
does not say where its document is, and otherwise just that it is not preferred.
-/
inductive PassedOver (entry : ListedApi) : Event → Prop where
  | noAddress (preferred : entry.preferred = some true)
      (absent : entry.documentUrl = none ∨ entry.documentUrl = some "") :
      PassedOver entry
        ⟨.warning, "Preferred API has no discoveryRestUrl, skipping", [("api", entry.name)]⟩
  | notPreferred (other : entry.preferred ≠ some true) :
      PassedOver entry ⟨.debug, "Skipping non-preferred API", [("api", entry.name)]⟩

theorem expandableUrl_eq_none_iff {entry : ListedApi} :
    entry.expandableUrl = none ↔ entry.preferred = some true →
      entry.documentUrl = none ∨ entry.documentUrl = some "" := by
  unfold ListedApi.expandableUrl
  split
  · next url preferred address => simp [preferred, address]
  · next other =>
      refine ⟨fun _ preferred => ?_, fun _ => rfl⟩
      cases address : entry.documentUrl with
      | none => exact .inl rfl
      | some url => exact absurd address (other url preferred)

/-- Exactly the entries that cannot be expanded are passed over, each with its own event. -/
theorem passedOver_iff {entry : ListedApi} {event : Event} :
    PassedOver entry event ↔ entry.expandableUrl = none ∧ event = skipEvent entry := by
  unfold skipEvent
  rw [expandableUrl_eq_none_iff]
  constructor
  · rintro (⟨preferred, absent⟩ | other)
    · exact ⟨fun _ => absent, (if_pos preferred).symm⟩
    · exact ⟨fun preferred => absurd preferred other, (if_neg other).symm⟩
  · rintro ⟨skipped, rfl⟩
    split
    · next preferred => exact .noAddress preferred (skipped preferred)
    · next other => exact .notPreferred other

theorem PassedOver.announces_eq_false {entry : ListedApi} {event : Event}
    (passedOver : PassedOver entry event) : Fetch.announces event = false := by
  cases passedOver with
  | noAddress preferred absent => rfl
  | notPreferred other => rfl

/-- One event is logged of each entry that is passed over, in the order of the listing. -/
theorem forall₂_skipEvents (entries : List ListedApi) :
    List.Forall₂ PassedOver (entries.filter (·.expandableUrl.isNone)) (skipEvents entries) := by
  unfold skipEvents
  rw [List.forall₂_map_right_iff, List.forall₂_same]
  intro entry member
  exact passedOver_iff.2 ⟨Option.isNone_iff_eq_none.1 (List.mem_filter.1 member).2, rfl⟩

theorem announces_eq_false_of_mem_skipEvents {entries : List ListedApi} {event : Event}
    (member : event ∈ skipEvents entries) : Fetch.announces event = false := by
  obtain ⟨entry, known, rfl⟩ := List.mem_map.1 member
  have skipped := Option.isNone_iff_eq_none.1 (List.mem_filter.1 known).2
  exact (passedOver_iff.2 ⟨skipped, rfl⟩).announces_eq_false

/-- What a started expansion logs first is that it fetches the entry's document. -/
theorem entryLaunch_log (name url : String) (sent : List Request) :
    (entryLaunch files network apiKey name url sent).log = [Fetch.announcement (.get url)] := by
  unfold entryLaunch Fetch.fetch
  rw [Task.andThen_log, Task.andThen_log]
  rfl

/-- Only the reply itself may announce anything when an expansion lands. -/
theorem mem_reply_log_of_mem_landing {name url : String} {sent : List Request} {event : Event}
    (landing : event ∈ (entryLaunch files network apiKey name url sent).landing)
    (announces : Fetch.announces event = true) : event ∈ (network sent (.get url)).log := by
  unfold entryLaunch Fetch.fetch at landing
  rcases Task.mem_landing_andThen landing with fetched | ⟨document, compiled⟩
  · rcases Task.mem_landing_andThen fetched with replied | ⟨document, found⟩
    · exact replied
    · cases found
  · -- the rest of the landing is the compilation of the document
    unfold compileDocument at compiled
    split at compiled
    · cases compiled
    · next api _ =>
        rw [ApiDescription.announces_eq_false_of_mem_compile_log compiled] at announces
        cases announces

/-! ## All entries -/

def IsAttempt (files : Files) (network : Network) (apiKey : Option String) (entry : ListedApi)
    (task : Task GenerateError (String × ResourceTree ApiMethod)) : Prop :=
  ∃ url sent, entry.ExpandsFrom url ∧
    task = entryLaunch files network apiKey entry.name url sent

/-- The entries that can be expanded are attempted in their order, each of them once. -/
theorem forall₂_attempts (entries : List ListedApi) (sent : List Request) :
    List.Forall₂ (IsAttempt files network apiKey) (entries.filter (·.expandableUrl.isSome))
      (attempts files network apiKey entries sent) := by
  unfold attempts
  induction entries generalizing sent with
  | nil => exact .nil
  | cons entry entries ih =>
      cases address : entry.expandableUrl with
      | none =>
          rw [entryLaunches_cons_none entries address,
            List.filter_cons_of_neg (by rw [address]; exact Bool.false_ne_true)]
          exact ih sent
      | some url =>
          rw [entryLaunches_cons_some entries address, FanOut.launched,
            List.filter_cons_of_pos (by rw [address]; rfl)]
          exact .cons ⟨url, sent, ListedApi.expandableUrl_eq_some_iff.1 address, rfl⟩ (ih _)

/-- The attempts that are made are those of the first entries that can be expanded. -/
theorem exists_forall₂_of_isPrefix {entries : List ListedApi} {sent : List Request}
    {tasks : List (Task GenerateError (String × ResourceTree ApiMethod))}
    (early : tasks <+: attempts files network apiKey entries sent) :
    ∃ fetched, fetched <+: entries.filter (·.expandableUrl.isSome) ∧
      List.Forall₂ (IsAttempt files network apiKey) fetched tasks := by
  refine ⟨(entries.filter (·.expandableUrl.isSome)).take tasks.length, List.take_prefix _ _, ?_⟩
  rw [List.prefix_iff_eq_take.1 early, List.length_take_of_le early.length_le]
  exact List.forall₂_take _ (forall₂_attempts entries sent)

/-- The request asks for the document of the entry. -/
def AskedBy (entry : ListedApi) (request : Request) : Prop :=
  ∃ url, entry.ExpandsFrom url ∧ request = .get url

section

variable {fetched : List ListedApi}
  {tasks : List (Task GenerateError (String × ResourceTree ApiMethod))}

theorem askedBy_requestsOf
    (attempted : List.Forall₂ (IsAttempt files network apiKey) fetched tasks) :
    List.Forall₂ AskedBy fetched (FanOut.requestsOf tasks) := by
  unfold FanOut.requestsOf
  induction attempted with
  | nil => exact .nil
  | cons attempt rest ih =>
      obtain ⟨url, sent, expands, rfl⟩ := attempt
      rw [List.flatMap_cons, entryLaunch_requests, List.singleton_append]
      exact .cons ⟨url, expands, rfl⟩ ih

/-- Attempts announce the requests that they send. -/
theorem logsOf_eq_of_forall₂
    (attempted : List.Forall₂ (IsAttempt files network apiKey) fetched tasks) :
    FanOut.logsOf tasks = (FanOut.requestsOf tasks).map Fetch.announcement := by
  unfold FanOut.logsOf FanOut.requestsOf
  induction attempted with
  | nil => rfl
  | cons attempt rest ih =>
      obtain ⟨url, sent, _, rfl⟩ := attempt
      rw [List.flatMap_cons, List.flatMap_cons, entryLaunch_log, entryLaunch_requests, ih,
        List.map_append, List.map_singleton]

end

/-- What attempts announce when they land comes with the replies to their requests. -/
theorem exists_reply_of_mem_landingsOf {entries : List ListedApi} {sent : List Request}
    {landed : List (Task GenerateError (String × ResourceTree ApiMethod))}
    (attempted : landed ⊆ attempts files network apiKey entries sent) {event : Event}
    (landing : event ∈ FanOut.landingsOf landed) (announces : Fetch.announces event = true) :
    ∃ request ∈ FanOut.requestsOf landed, ∃ before, event ∈ (network before request).log := by
  obtain ⟨task, member, found⟩ := List.mem_flatMap.1 landing
  obtain ⟨_, entry, _, url, _, _, rfl⟩ := exists_split_of_mem_attempts (attempted member)
  refine ⟨.get url, List.mem_flatMap.2 ⟨_, member, ?_⟩, _,
    mem_reply_log_of_mem_landing found announces⟩
  rw [entryLaunch_requests]
  exact List.mem_singleton_self _

/-! ## The log of an expansion -/

section

variable {listing : ApiListing} {entries : List ListedApi} {source : String} {sent : List Request}

theorem expand_log (items : listing.items = some entries) :
    (listing.expand files network apiKey source sent).log = skipEvents entries ++
      (FanOut.join (.ofSize entries.length) (entryLaunches files network apiKey entries)
        sent).log := by
  unfold expand
  rw [items]
  rfl

/-- An expansion that succeeds has started all its attempts. -/
theorem started_eq_attempts (items : listing.items = some entries)
    {apis : NameTable (ResourceTree ApiMethod)}
    (done : (listing.expand files network apiKey source sent).result = .ok apis) :
    FanOut.started (.ofSize entries.length) [] (attempts files network apiKey entries sent) =
      attempts files network apiKey entries sent := by
  rw [expand_result items, except_map_eq_ok_iff] at done
  obtain ⟨pairs, joined, _⟩ := done
  have succeed := FanOut.join_result_eq_ok_iff.1 joined
  have quiet : FanOut.noticed (.ofSize entries.length)
      ([] : FanOut.Slots GenerateError (String × ResourceTree ApiMethod)) = none := by
    cases FanOut.Rule.ofSize entries.length <;> rfl
  exact FanOut.started_eq_self quiet fun task member _ => succeed.of_mem member

end

/--
How what an expansion logs accounts for the entries of the listing: `skips` are
the events of the entries that are passed over, `fetched` are the entries that
are asked for, and `rest` is what is logged from then on.
-/
structure Accounts (network : Network) (entries : List ListedApi)
    (expansion : Outcome GenerateError (NameTable (ResourceTree ApiMethod)))
    (skips : List Event) (fetched : List ListedApi) (rest : List Event) : Prop where
  log_eq : expansion.log = skips ++ rest
  passedOver : List.Forall₂ PassedOver (entries.filter (·.expandableUrl.isNone)) skips
  unannounced : ∀ event ∈ skips, Fetch.announces event = false
  fetched_isPrefix : fetched <+: entries.filter (·.expandableUrl.isSome)
  fetched_of_ok : ∀ apis, expansion.result = .ok apis →
    fetched = entries.filter (·.expandableUrl.isSome)
  not_passedOver : ∀ entry ∈ fetched, ∀ event, ¬ PassedOver entry event
  asked : List.Forall₂ AskedBy fetched expansion.requests
  interleaved : ∃ landed, Interleaved (expansion.requests.map Fetch.announcement) landed rest ∧
    ∀ event ∈ landed, Fetch.announces event = true →
      ∃ request ∈ expansion.requests, ∃ before, event ∈ (network before request).log

namespace Accounts

variable {entries : List ListedApi}
  {expansion : Outcome GenerateError (NameTable (ResourceTree ApiMethod))}
  {skips : List Event} {fetched : List ListedApi} {rest : List Event}

/-- Unless the network does so too, a log announces the requests that are sent and nothing else. -/
theorem filter_announces (accounts : Accounts network entries expansion skips fetched rest)
    (quiet : Fetch.Unannounced network) :
    expansion.log.filter Fetch.announces = expansion.requests.map Fetch.announcement := by
  obtain ⟨landed, interleaved, known⟩ := accounts.interleaved
  have skipped : skips.filter Fetch.announces = [] := by
    rw [List.filter_eq_nil_iff]
    intro event member
    exact Bool.eq_false_iff.1 (accounts.unannounced event member)
  rw [accounts.log_eq, List.filter_append, skipped, List.nil_append]
  apply interleaved.filter_eq_left
  · intro event member
    obtain ⟨request, _, rfl⟩ := List.mem_map.1 member
    exact Fetch.announces_announcement request
  · intro event member
    cases announces : Fetch.announces event with
    | false => rfl
    | true =>
        obtain ⟨request, _, before, logged⟩ := known event member announces
        rw [quiet before request event logged] at announces
        cases announces

end Accounts

/--
The log of an expansion begins with one event of each entry that is passed over.
Only behind these anything is announced, and what is announced are the requests
that are sent, in the order in which they are, whether or not the expansion
succeeds.
-/
theorem expand_accounts (files : Files) (network : Network) (apiKey : Option String)
    (listing : ApiListing) (entries : List ListedApi) (items : listing.items = some entries)
    (source : String) (sent : List Request) :
    ∃ skips fetched rest,
      Accounts network entries (listing.expand files network apiKey source sent) skips fetched
        rest ∧
      (Fetch.Unannounced network →
        (listing.expand files network apiKey source sent).log.filter Fetch.announces =
          (listing.expand files network apiKey source sent).requests.map Fetch.announcement) := by
  -- a join may give up before it has started all, so only the first entries need be asked for
  have early := FanOut.started_isPrefix (.ofSize entries.length) []
    (attempts files network apiKey entries sent)
  obtain ⟨fetched, first, attempted⟩ := exists_forall₂_of_isPrefix early
  obtain ⟨landed, started, interleaved⟩ := FanOut.join_log (.ofSize entries.length)
    (entryLaunches files network apiKey entries) sent
  have requests : (listing.expand files network apiKey source sent).requests =
      FanOut.requestsOf (FanOut.started (.ofSize entries.length) []
        (attempts files network apiKey entries sent)) :=
    (expand_requests items).trans (FanOut.join_requests _ _ _)
  have accounts : Accounts network entries (listing.expand files network apiKey source sent)
      (skipEvents entries) fetched
      (FanOut.join (.ofSize entries.length) (entryLaunches files network apiKey entries)
        sent).log := by
    refine ⟨expand_log items, forall₂_skipEvents entries,
      fun event member => announces_eq_false_of_mem_skipEvents member, first, ?_, ?_, ?_,
      FanOut.landingsOf landed, ?_, ?_⟩
    · intro apis done
      rw [started_eq_attempts items done] at attempted
      exact first.eq_of_length
        (attempted.length_eq.trans (forall₂_attempts entries sent).length_eq.symm)
    · intro entry member event passedOver
      have expandable := (List.mem_filter.1 (first.subset member)).2
      rw [(passedOver_iff.1 passedOver).1] at expandable
      cases expandable
    · exact requests ▸ askedBy_requestsOf attempted
    · rw [requests]
      exact logsOf_eq_of_forall₂ attempted ▸ interleaved
    · intro event landing announces
      obtain ⟨request, asked, reply⟩ :=
        exists_reply_of_mem_landingsOf (List.Subset.trans started early.subset) landing announces
      obtain ⟨task, member, sends⟩ := List.mem_flatMap.1 asked
      rw [requests]
      exact ⟨request, List.mem_flatMap.2 ⟨task, started member, sends⟩, reply⟩
  exact ⟨_, fetched, _, accounts, accounts.filter_announces⟩

/-- A listing with entries of all kinds, some of which are passed over. -/
def mixedListing : ApiListing :=
  { items := some [
      { name := "mail", preferred := some true, documentUrl := some "https://x/mail" },
      { name := "old", preferred := some false, documentUrl := some "https://x/old" },
      { name := "nowhere", preferred := some true },
      { name := "drive", preferred := some true, documentUrl := some "https://x/drive" },
      { name := "blank", preferred := some true, documentUrl := some "" },
      { name := "late", preferred := some true, documentUrl := some "https://x/late" }] }

def mailPeer : Http.Peer := fun _ message =>
  if message.url = "https://x/mail" then .answered 200 "\x7b\x7d".toUTF8.toList true else .dropped

theorem expand_mixedListing :
    ∃ entries, mixedListing.items = some entries ∧ Fetch.Unannounced (Http.network {} mailPeer) ∧
      (∃ skips fetched rest, Accounts (Http.network {} mailPeer) entries
        (mixedListing.expand (Folder.files []) (Http.network {} mailPeer) none "listing" [])
        skips fetched rest) ∧
      (mixedListing.expand (Folder.files []) (Http.network {} mailPeer) none "listing"
        []).log.filter Fetch.announces =
          ["https://x/mail", "https://x/drive"].map fun url => Fetch.fetchingEvent (.url url) := by
  have quiet := Http.network_unannounced {} mailPeer
  have asked : (mixedListing.expand (Folder.files []) (Http.network {} mailPeer) none "listing"
      []).requests.map Request.url = ["https://x/mail", "https://x/drive"] := by decide +kernel
  obtain ⟨skips, fetched, rest, accounts, announced⟩ := expand_accounts (Folder.files [])
    (Http.network {} mailPeer) none mixedListing _ rfl "listing" []
  refine ⟨_, rfl, quiet, ⟨skips, fetched, rest, accounts⟩, ?_⟩
  rw [announced quiet, ← asked, List.map_map]
  rfl

end ApiListing

end ApiDiscovery
