import ApiDiscovery.Proofs.Expand.Attempt

/-!
# Failing fast

The entry that fails first, in time and then in the order of the listing, is
the one whose error a small listing gives at once.  In a large listing its error
is noticed only when all entries before it are done; if one of these fails later
it is waited for, and its error is the one given.
-/

namespace ApiDiscovery

namespace FanOut

variable {ε α : Type} {tasks : List (Task ε α)} {place : Nat} {task : Task ε α} {error : ε}

/-- Unless a group fails later than its first failure, all tasks before that have landed by then. -/
theorem FailsFirst.rounds_le (failsFirst : FailsFirst tasks place task error) {seen : Nat}
    {reason : ε} (fails : FailsInOrder tasks seen task.rounds reason) {earlier : Nat}
    (less : earlier < place) {other : Task ε α} (started : tasks[earlier]? = some other) :
    other.rounds ≤ task.rounds := by
  obtain ⟨failing, failing_started, failed⟩ := fails.fails
  have early : failing.rounds ≤ task.rounds :=
    fails.last.1 failing (mem_take_of_lt (Nat.lt_succ_self seen) failing_started)
  have rival := failsFirst.first seen failing reason failing_started failed
  have within : earlier < seen + 1 := by omega
  exact fails.last.1 other (mem_take_of_lt within started)

/-- If all tasks before the first failure have landed by then, it is the first one in order too. -/
theorem FailsFirst.failsInOrder (failsFirst : FailsFirst tasks place task error)
    (done : ∀ earlier < place, ∀ other : Task ε α, tasks[earlier]? = some other →
      other.rounds ≤ task.rounds) :
    FailsInOrder tasks place task.rounds error := by
  have taken := mem_take_of_lt (Nat.lt_succ_self place) failsFirst.started
  refine ⟨⟨task, failsFirst.started, failsFirst.fails⟩, ?_, ?_, .inr ⟨task, taken, rfl⟩⟩
  · intro earlier less other started
    cases result : other.result with
    | ok value => exact ⟨value, rfl⟩
    | error reason =>
        have early := done earlier less other started
        have rival := failsFirst.first earlier other reason started result
        omega
  · intro other member
    obtain ⟨earlier, within, held⟩ := exists_lt_of_mem_take member
    rcases Nat.lt_or_eq_of_le (Nat.le_of_lt_succ within) with less | same
    · exact done earlier less other held
    · rw [same, failsFirst.started] at held
      exact Nat.le_of_eq (congrArg Task.rounds (Option.some.inj held).symm)

/-- A group breaks when and as its first failure says if the look for errors gets that far. -/
theorem FailsFirst.breaks_iff {rule : Rule} (failsFirst : FailsFirst tasks place task error) :
    rule.Breaks tasks task.rounds error ↔
      rule = .asAWhole ∨ ∀ earlier < place, ∀ other : Task ε α, tasks[earlier]? = some other →
        other.rounds ≤ task.rounds := by
  cases rule with
  | asAWhole =>
      constructor
      · exact fun _ => .inl rfl
      · exact fun _ => ⟨place, task, failsFirst, rfl⟩
  | inOrder =>
      constructor
      · rintro ⟨seen, fails⟩
        exact .inr fun earlier less other started => failsFirst.rounds_le fails less started
      · rintro (impossible | done)
        · cases impossible
        · exact ⟨place, failsFirst.failsInOrder done⟩

/-- A group with a failure does not succeed. -/
theorem FailsFirst.not_succeed (failsFirst : FailsFirst tasks place task error) {values : List α} :
    ¬ Succeed tasks values := by
  intro succeed
  obtain ⟨value, succeeds⟩ := succeed.of_mem (List.mem_of_getElem? failsFirst.started)
  rw [failsFirst.fails] at succeeds
  cases succeeds

/-- A join breaks no earlier than its first failure. -/
theorem FailsFirst.le_of_breaks {rule : Rule} (failsFirst : FailsFirst tasks place task error)
    {round : Nat} {reason : ε} (breaks : rule.Breaks tasks round reason) : task.rounds ≤ round := by
  obtain ⟨failing, member, failed, early⟩ := breaks.exists_mem
  obtain ⟨other, started⟩ := List.mem_iff_getElem?.1 member
  have rival := failsFirst.first other failing reason started failed
  omega

end FanOut

namespace ApiListing

variable {files : Files} {network : Network} {apiKey : Option String} {listing : ApiListing}
  {entries : List ListedApi} {source : String} {sent : List Request}

theorem expand_fails_iff (items : listing.items = some entries) {round : Nat}
    {error : GenerateError} :
    (listing.expand files network apiKey source sent).rounds = round ∧
        (listing.expand files network apiKey source sent).result = .error error ↔
      (FanOut.Rule.ofSize entries.length).Breaks (attempts files network apiKey entries sent)
        round error := by
  rw [expand_rounds items, expand_result items, except_map_eq_error_iff]
  exact FanOut.join_fails_iff

theorem ofSize_eq_asAWhole_iff (size : Nat) :
    FanOut.Rule.ofSize size = .asAWhole ↔ size ≤ FanOut.smallSize := by
  unfold FanOut.Rule.ofSize
  split
  · next small => exact ⟨fun _ => small, fun _ => rfl⟩
  · next large => exact ⟨fun impossible => (by cases impossible), fun small => absurd small large⟩

/--
The first failure ends the expansion in its own round if the listing is small,
or if all entries before the failing one are done by then; otherwise a later
round does, with the first error in the order of the listing.
-/
theorem expand_fails_fast_iff (files : Files) (network : Network) (apiKey : Option String)
    (listing : ApiListing) (entries : List ListedApi) (items : listing.items = some entries)
    (source : String) (sent : List Request) {place : Nat}
    {task : Task GenerateError (String × ResourceTree ApiMethod)} {error : GenerateError}
    (failsFirst : FanOut.FailsFirst (attempts files network apiKey entries sent) place task error) :
    ((listing.expand files network apiKey source sent).rounds = task.rounds ∧
        (listing.expand files network apiKey source sent).result = .error error ↔
      entries.length ≤ FanOut.smallSize ∨ ∀ earlier < place, ∀ other,
        (attempts files network apiKey entries sent)[earlier]? = some other →
          other.rounds ≤ task.rounds) ∧
    (FanOut.smallSize < entries.length →
      (∃ earlier < place, ∃ other,
        (attempts files network apiKey entries sent)[earlier]? = some other ∧
          task.rounds < other.rounds) →
      task.rounds < (listing.expand files network apiKey source sent).rounds ∧
        ∃ seen reason, FanOut.FailsInOrder (attempts files network apiKey entries sent) seen
            (listing.expand files network apiKey source sent).rounds reason ∧
          (listing.expand files network apiKey source sent).result = .error reason) := by
  refine ⟨?_, ?_⟩
  · rw [expand_fails_iff items, failsFirst.breaks_iff, ofSize_eq_asAWhole_iff]
  · rintro large ⟨earlier, less, other, started, slower⟩
    have inOrder : FanOut.Rule.ofSize entries.length = .inOrder :=
      if_neg (Nat.not_le_of_lt large)
    cases ended : (listing.expand files network apiKey source sent).result with
    | ok apis =>
        rw [expand_result items, except_map_eq_ok_iff] at ended
        obtain ⟨pairs, joined, _⟩ := ended
        exact absurd (FanOut.join_result_eq_ok_iff.1 joined) failsFirst.not_succeed
    | error reason =>
        have breaks := (expand_fails_iff items).1 ⟨rfl, ended⟩
        rw [inOrder] at breaks
        have reached := failsFirst.le_of_breaks breaks
        obtain ⟨seen, fails⟩ := breaks
        refine ⟨Nat.lt_of_le_of_ne reached fun same => ?_, seen, reason, fails, rfl⟩
        rw [← same] at fails
        exact absurd (failsFirst.rounds_le fails less started) (Nat.not_le_of_lt slower)

def entryNamed (name : String) : ListedApi :=
  { name, preferred := some true, documentUrl := some ("https://x/" ++ name) }

def slowAndFast (others : Nat) : List ListedApi :=
  entryNamed "slow" :: entryNamed "fast" :: List.replicate others (entryNamed "good")

/-- The first of the two entries fails after the second one, and all others succeed. -/
def slowAndFastNetwork : Network := fun _ request =>
  if request.url = "https://x/slow" then { rounds := 2, received := .error "slow" }
  else if request.url = "https://x/fast" then { rounds := 1, received := .error "fast" }
  else { received := .ok (some "\x7b\x7d") }

theorem failsFirst_slowAndFast (others : Nat) :
    ∃ task, task.rounds = 1 ∧
      FanOut.FailsFirst
        (attempts (Folder.files []) slowAndFastNetwork none (slowAndFast others) []) 1 task
        (.unreachable "https://x/fast" "fast") := by
  have good : (treeOfReply none "https://x/good" (.ok (some "\x7b\x7d"))).isOk = true := rfl
  refine ⟨_, rfl, rfl, rfl, ?_⟩
  intro other rival reason started fails
  rcases other with _ | _ | other
  · cases started
    exact .inl (Nat.lt_succ_self 1)
  · cases started
    exact .inr ⟨rfl, Nat.le_refl 1⟩
  · -- all tasks behind the two are alike, and none of them fails
    have member : rival ∈ attempts (Folder.files []) slowAndFastNetwork none
        (List.replicate others (entryNamed "good")) _ := List.mem_of_getElem? started
    obtain ⟨entry, listed, url, before, expands, _, _, result⟩ := exists_of_mem_attempts member
    rw [List.eq_of_mem_replicate listed] at expands
    cases expands.documentUrl
    rw [fails] at result
    have failed := except_map_eq_error_iff.1 result.symm
    change treeOfReply none "https://x/good" (.ok (some "\x7b\x7d")) = .error reason at failed
    rw [failed] at good
    cases good

def slowAndFastListing (others : Nat) : ApiListing := { items := some (slowAndFast others) }

/-- Of two entries alone the one that fails sooner ends the expansion. -/
theorem expand_slowAndFast :
    (slowAndFastListing 0).items = some (slowAndFast 0) ∧
      ∃ task, FanOut.FailsFirst
          (attempts (Folder.files []) slowAndFastNetwork none (slowAndFast 0) []) 1 task
          (.unreachable "https://x/fast" "fast") ∧ task.rounds = 1 ∧
        ((slowAndFastListing 0).expand (Folder.files []) slowAndFastNetwork none "listing"
          []).rounds = task.rounds ∧
        ((slowAndFastListing 0).expand (Folder.files []) slowAndFastNetwork none "listing"
          []).result = .error (.unreachable "https://x/fast" "fast") := by
  obtain ⟨task, rounds, failsFirst⟩ := failsFirst_slowAndFast 0
  have small : (slowAndFast 0).length ≤ FanOut.smallSize := by decide
  exact ⟨rfl, task, failsFirst, rounds,
    (expand_fails_fast_iff _ _ _ (slowAndFastListing 0) _ rfl "listing" _ failsFirst).1.2
      (.inl small)⟩

/-- With enough entries behind the two, the one that fails later is waited for. -/
theorem expand_slowAndFast_inOrder :
    (slowAndFastListing 29).items = some (slowAndFast 29) ∧
      ∃ task, FanOut.FailsFirst
          (attempts (Folder.files []) slowAndFastNetwork none (slowAndFast 29) []) 1 task
          (.unreachable "https://x/fast" "fast") ∧ task.rounds = 1 ∧
        ((slowAndFastListing 29).expand (Folder.files []) slowAndFastNetwork none "listing"
          []).rounds = 2 ∧
        ((slowAndFastListing 29).expand (Folder.files []) slowAndFastNetwork none "listing"
          []).result = .error (.unreachable "https://x/slow" "slow") ∧
        ¬ (((slowAndFastListing 29).expand (Folder.files []) slowAndFastNetwork none "listing"
            []).rounds = task.rounds ∧
          ((slowAndFastListing 29).expand (Folder.files []) slowAndFastNetwork none "listing"
            []).result = .error (.unreachable "https://x/fast" "fast")) := by
  obtain ⟨task, rounds, failsFirst⟩ := failsFirst_slowAndFast 29
  have late : ((slowAndFastListing 29).expand (Folder.files []) slowAndFastNetwork none "listing"
      []).rounds = 2 := rfl
  have other : ((slowAndFastListing 29).expand (Folder.files []) slowAndFastNetwork none "listing"
      []).result = .error (.unreachable "https://x/slow" "slow") := rfl
  refine ⟨rfl, task, failsFirst, rounds, late, other, ?_⟩
  rintro ⟨same, _⟩
  rw [late, rounds] at same
  cases same

end ApiListing

end ApiDiscovery
