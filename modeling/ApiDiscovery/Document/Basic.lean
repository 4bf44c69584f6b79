import ApiDiscovery.ResourceTree

/-!
# Discovery documents

What a discovery document declares, as far as callable methods need it.  One
kind of document describes a single API; the other lists APIs and says where
each one's own document is.  A method may be declared incompletely: what is
missing is found out when the method is compiled.
-/

namespace ApiDiscovery

/-- A method as declared, `path` being a template with placeholders in braces. -/
structure MethodDeclaration where
  id : Option String := none
  path : Option String := none
  httpMethod : Option String := none
  description : Option String := none
deriving DecidableEq, Repr, Inhabited

structure ApiDescription where
  name : Option String := none
  version : Option String := none
  title : Option String := none
  baseUrl : Option String := none
  rootUrl : Option String := none
  servicePath : Option String := none
  root : ResourceTree MethodDeclaration := .empty
deriving Repr, Inhabited

namespace ApiDescription

/-- The address that all paths are relative to: declared, or else put together of its two parts. -/
def resolvedBaseUrl (api : ApiDescription) : Option String :=
  match api.baseUrl, api.rootUrl, api.servicePath with
  | some base, _, _ => some base
  | none, some root, some path => some (root ++ path)
  | none, some root, none => some root
  | none, none, _ => none

def displayName (api : ApiDescription) : String :=
  match api.name, api.version with
  | some name, some version => name ++ ":" ++ version
  | some name, none => name
  | none, _ => "<unnamed>"

end ApiDescription

structure ListedApi where
  id : Option String := none
  name : String := ""
  version : Option String := none
  title : Option String := none
  description : Option String := none
  preferred : Option Bool := none
  documentUrl : Option String := none
deriving DecidableEq, Repr, Inhabited

/-- The address of the API's own document, if the API is preferred and gives one. -/
def ListedApi.expandableUrl (entry : ListedApi) : Option String :=
  match entry.preferred, entry.documentUrl with
  | some true, some url => if url = "" then none else some url
  | _, _ => none

/-- The API is preferred and says where its own document is. -/
structure ListedApi.ExpandsFrom (entry : ListedApi) (url : String) : Prop where
  preferred : entry.preferred = some true
  documentUrl : entry.documentUrl = some url
  url_ne : url ≠ ""

theorem ListedApi.expandableUrl_eq_some_iff {entry : ListedApi} {url : String} :
    entry.expandableUrl = some url ↔ entry.ExpandsFrom url := by
  constructor
  · intro known
    unfold expandableUrl at known
    split at known
    · next given preferred address =>
        split at known
        · cases known
        · next nonempty =>
            cases known
            exact ⟨preferred, address, nonempty⟩
    · cases known
  · rintro ⟨preferred, address, nonempty⟩
    unfold expandableUrl
    rw [preferred, address]
    exact if_neg nonempty

structure ApiListing where
  kind : Option String := none
  discoveryVersion : Option String := none
  items : Option (List ListedApi) := none
deriving DecidableEq, Repr, Inhabited

end ApiDiscovery
