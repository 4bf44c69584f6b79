import ApiDiscovery.Proofs.Compile.Paths
import ApiDiscovery.Proofs.Document.Ordered
import ApiDiscovery.Proofs.Fetch.Fetched
import ApiDiscovery.Proofs.Generate.Requests

/-!
# What is generated is ordered

Every document comes from a text, so the tree that it declares is ordered, and so
is the tree compiled from it.  A directory is a table built from pairs.  What is
known of ordered trees, of their lookups and their listings, is therefore known
of all that is generated, whatever is fetched.
-/

namespace ApiDiscovery

variable {files : Files} {network : Network} {apiKey : Option String} {sent : List Request}

theorem Fetch.fetched_ordered {source : Options.Source} {document : Json}
    (found : (fetch? files network source sent).result = .ok (some document)) :
    document.Ordered := by
  cases fetched_iff.2 found with
  | document gives parsed notNull => exact Json.parse_ordered parsed

theorem ApiDescription.compile_ordered {document : Json} {api : ApiDescription}
    {tree : ResourceTree ApiMethod} (ordered : document.Ordered)
    (described : ofJson document = .ok api) (compiled : (api.compile apiKey).result = .ok tree) :
    tree.Ordered := by
  rw [compile_result] at compiled
  have declared := ResourceTree.ordered_of_ofJson ordered (root_of_ofJson described)
  exact ResourceTree.ordered_of_compile declared compiled

/-! ## Directories -/

namespace ApiListing

theorem ordered_of_mem_attempts {entries : List ListedApi}
    {task : Task GenerateError (String × ResourceTree ApiMethod)}
    (member : task ∈ attempts files network apiKey entries sent)
    {pair : String × ResourceTree ApiMethod} (done : task.result = .ok pair) : pair.2.Ordered := by
  obtain ⟨entry, _, url, before, _, _, _, result⟩ := exists_of_mem_attempts member
  rw [result] at done
  obtain ⟨tree, replied, rfl⟩ := except_map_eq_ok_iff.1 done
  obtain ⟨document, api, found, described, compiled⟩ := treeOfReply_eq_ok_iff.1 replied
  have fetched : (Fetch.fetch? files network (.url url) before).result = .ok (some document) :=
    found
  exact ApiDescription.compile_ordered (Fetch.fetched_ordered fetched) described compiled

/-- The names of a directory increase, and so do the names at every node of its trees. -/
theorem expand_ordered {listing : ApiListing} {source : String}
    {apis : NameTable (ResourceTree ApiMethod)}
    (expanded : (listing.expand files network apiKey source sent).result = .ok apis) :
    apis.Ordered ∧ ∀ pair ∈ apis, pair.2.Ordered := by
  cases items : listing.items with
  | none =>
      rw [expand, items] at expanded
      cases expanded
  | some entries =>
      rw [expand_result items] at expanded
      obtain ⟨pairs, joined, rfl⟩ := except_map_eq_ok_iff.1 expanded
      refine ⟨NameTable.ordered_ofList pairs, ?_⟩
      intro pair member
      obtain ⟨task, started, done⟩ := (FanOut.join_result_eq_ok_iff.1 joined).exists_of_value
        (NameTable.mem_of_mem_ofList member)
      exact ordered_of_mem_attempts started done

end ApiListing

/-! ## Runs -/

/-- The names increase at every node of a tree, and in a directory as well. -/
def Generated.Ordered : Generated → Prop
  | .api tree => tree.Ordered
  | .directory apis => apis.Ordered ∧ ∀ pair ∈ apis, pair.2.Ordered

namespace Generate

variable {generated : Generated}

theorem ofDocument_ordered {source : String} {kind : Options.DocumentKind} {document : Json}
    (ordered : document.Ordered)
    (done : (ofDocument files network apiKey source kind document sent).result = .ok generated) :
    generated.Ordered := by
  unfold ofDocument at done
  cases kind with
  | listing =>
      cases decoded : ApiListing.ofJson document with
      | error mismatch =>
          rw [decoded] at done
          cases done
      | ok listing =>
          rw [decoded] at done
          obtain ⟨apis, expanded, rfl⟩ := Outcome.map_result_eq_ok_iff.1 done
          rw [Outcome.logLast_result] at expanded
          exact ApiListing.expand_ordered expanded
  | api =>
      cases decoded : ApiDescription.ofJson document with
      | error mismatch =>
          rw [decoded] at done
          cases done
      | ok api =>
          rw [decoded] at done
          obtain ⟨tree, compiled, rfl⟩ := Outcome.map_result_eq_ok_iff.1 done
          rw [Outcome.logLast_result] at compiled
          exact ApiDescription.compile_ordered ordered decoded compiled

/-- Whatever a run generates is ordered. -/
theorem run_ordered {options : Options}
    (done : (run files network options sent).result = .ok generated) : generated.Ordered := by
  by_cases obtained : ∃ document, (fetching files network options sent).result = .ok (some document)
  · obtain ⟨document, obtained⟩ := obtained
    obtain ⟨_, _, result⟩ := run_of_obtained obtained
    rw [result] at done
    exact ofDocument_ordered (Fetch.fetched_ordered obtained) done
  · obtain ⟨_, _, error, failed⟩ := run_of_missing (not_exists.1 obtained)
    rw [failed] at done
    cases done

end Generate

end ApiDiscovery
