import ApiDiscovery.Document.Stream
import ApiDiscovery.Proofs.Document.Parts
import ApiDiscovery.Proofs.Json.Streaming

/-!
# A resource tree has one reading

A text may be read as a resource tree in one pass, or parsed to a value that
describes an API, of which the tree is the root.  The one reading refuses repeated
fields and overlong arrays and passes over the rest of the text carelessly; the
other keeps the last of repeated members, bounds the depth of everything and takes
objects only at the root.  Where both give a tree it is the same one.
-/

namespace ApiDiscovery

open Json

/-! ## Methods -/

theorem storeText_reads {σ : Type} (name : String) (get : σ → Option String)
    (set : Option String → σ → σ) :
    Stream.Field.Reads ⟨name, storeText .string fun record text => set text record⟩
      (.text name get set) where
  name_eq := rfl
  reads := ⟨Stream.readText? .string, Stream.readText?_agrees .string, fun _ _ => rfl⟩

namespace MethodDeclaration

theorem streamFields_read : List.Forall₂ Stream.Field.Reads streamFields parts :=
  .cons (storeText_reads _ _ _) <| .cons (storeText_reads _ _ _) <|
    .cons (storeText_reads _ _ _) <| .cons (storeText_reads _ _ _) .nil

theorem readWithin_agrees (levels : Nat) : AgreesWith (readWithin levels) ofJson := by
  cases levels with
  | zero => exact Stream.readRecord_none_agrees shapeName {} ofJson
  | succ levels =>
      exact Stream.readRecord_agrees lawful streamFields_read shapeName excessOfSequence {}

end MethodDeclaration

/-! ## Resources -/

namespace ResourceTree

theorem readMethodsWithin_agrees (levels : Nat) :
    AgreesWith (readMethodsWithin levels) (toTable MethodDeclaration.ofJson) := by
  cases levels with
  | zero => exact Stream.readTable_none_agrees _
  | succ levels => exact Stream.readTable_agrees (MethodDeclaration.readWithin_agrees levels)

theorem streamFields_read {methods : Reader (NameTable MethodDeclaration)}
    {resources : Reader (NameTable (ResourceTree MethodDeclaration))}
    (own : AgreesWith methods (toTable MethodDeclaration.ofJson))
    (beneath : AgreesWith resources (toTable ofJson)) :
    List.Forall₂ Stream.Field.Reads (streamFields methods resources) parts :=
  .cons ⟨rfl, methods, own, fun _ _ => rfl⟩ <|
    .cons ⟨rfl, resources, beneath, fun _ _ => rfl⟩ .nil

/-- However many levels are left, resources and tables of them are read as they are decoded. -/
theorem readWithin_agrees (levels : Nat) :
    AgreesWith (readWithin levels) ofJson ∧
      AgreesWith (readResourcesWithin levels) (toTable ofJson) := by
  induction levels with
  | zero =>
      exact ⟨Stream.readRecord_none_agrees shapeName .empty ofJson,
        Stream.readTable_none_agrees _⟩
  | succ levels ih =>
      obtain ⟨tree, beneath⟩ := ih
      have fields := streamFields_read (readMethodsWithin_agrees levels) beneath
      refine ⟨?_, Stream.readTable_agrees tree⟩
      rw [ofJson_eq_toRecord]
      exact Stream.readRecord_agrees lawful fields shapeName excessOfSequence .empty

/-- A text gives the tree that its value is decoded as. -/
theorem parse_agrees {text : String} {tree : ResourceTree MethodDeclaration} {value : Json}
    (direct : parse text = .ok tree) (parsed : Json.parse text = .ok value) :
    OnlyAs ofJson tree value := by
  rw [parse] at direct
  rw [Json.parse] at parsed
  split at direct
  · next read =>
      cases direct
      split at parsed
      · next kept =>
          cases parsed
          exact ((readWithin_agrees nestingLimit).1 nestingLimit).complete read kept
      · cases parsed
  · cases direct

end ResourceTree

/-! ## Roots of API descriptions -/

namespace ApiDescription

/-- The members of an API description are those of its root resource too. -/
theorem root_of_ofJson {value : Json} {api : ApiDescription} (described : ofJson value = .ok api) :
    ResourceTree.ofJson value = .ok api.root := by
  cases value with
  | object members =>
      rw [ofJson] at described
      rw [ResourceTree.ofJson]
      split at described
      · cases described
      · obtain ⟨root, read, rfl⟩ := except_map_eq_ok_iff.1 described
        exact read
  | null => cases described
  | boolean flag => cases described
  | number number => cases described
  | string text => cases described
  | array items => cases described

/--
The two ways from a text to a resource tree never disagree: whatever text is
read directly as a tree and also describes an API once it is parsed to a value, the
tree is the root of the API.
-/
theorem root_eq_of_parse {text : String} {tree : ResourceTree MethodDeclaration} {value : Json}
    {api : ApiDescription} (direct : ResourceTree.parse text = .ok tree)
    (parsed : Json.parse text = .ok value) (described : ofJson value = .ok api) :
    tree = api.root :=
  ResourceTree.parse_agrees direct parsed (root_of_ofJson described)

/--
Names and texts with escapes, resources and methods by position, entries that are
overwritten, and between them an unknown member given twice.
-/
def variedText : String :=
  "\x7b\"resources\": \x7b\"b\": [\x7b\"copy\": [null, \"b\"]\x7d], " ++
    "\"a\": \x7b\x7d, \"b\": []\x7d, \"x\": [1e3], " ++
    "\"metho\\u0064s\": \x7b\"get\": \x7b\x7d, \"get\": [null, \"v1\\/a\"]\x7d, \"x\": null\x7d"

theorem root_eq_of_parse_variedText :
    ∃ tree value api, ResourceTree.parse variedText = .ok tree ∧
      Json.parse variedText = .ok value ∧ ofJson value = .ok api ∧ tree = api.root ∧
      tree.methods = [("get", { path := some "v1/a" })] ∧ tree.resources.names = ["a", "b"] := by
  have direct : ((ResourceTree.parse variedText).toOption.map fun tree =>
      (tree.methods, tree.resources.names)) =
        some ([("get", { path := some "v1/a" })], ["a", "b"]) := by decide +kernel
  have through : ((Json.parse variedText).toOption.bind fun value =>
      (ofJson value).toOption).isSome := by decide +kernel
  cases read : ResourceTree.parse variedText with
  | error error =>
      rw [read] at direct
      cases direct
  | ok tree =>
      cases parsed : Json.parse variedText with
      | error error =>
          rw [parsed] at through
          cases through
      | ok value =>
          rw [parsed] at through
          cases described : ofJson value with
          | error mismatch =>
              rw [Except.toOption, Option.bind_some, described] at through
              cases through
          | ok api =>
              rw [read] at direct
              obtain ⟨own, beneath⟩ := Prod.mk.inj (Option.some.inj direct)
              exact ⟨tree, value, api, rfl, rfl, described,
                root_eq_of_parse read parsed described, own, beneath⟩

end ApiDescription

end ApiDiscovery
