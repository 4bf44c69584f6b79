import ApiDiscovery.Json.Reader
import ApiDiscovery.Proofs.Activity
import ApiDiscovery.Proofs.NameTable

/-!
# Ordered JSON values

An induction rule that gives the hypothesis for every item and every member, and
the invariant of all objects: their members are in the order of their names.
Whatever text a value is read from, it is ordered at every depth.
-/

namespace ApiDiscovery.Json

/-- A property of values holds if every array and object passes it on from its parts to itself. -/
@[elab_as_elim, induction_eliminator]
theorem induction {motive : Json → Prop} (null : motive .null)
    (boolean : ∀ flag, motive (.boolean flag)) (number : ∀ value, motive (.number value))
    (string : ∀ text, motive (.string text))
    (array : ∀ items, (∀ item ∈ items, motive item) → motive (.array items))
    (object : ∀ members, (∀ pair ∈ members, motive pair.2) → motive (.object members))
    (value : Json) : motive value := by
  refine Json.rec (motive_1 := motive) (motive_2 := fun items => ∀ item ∈ items, motive item)
    (motive_3 := fun members => ∀ pair ∈ members, motive pair.2)
    (motive_4 := fun pair => motive pair.2)
    null boolean number string array object ?_ ?_ ?_ ?_ ?_ value
  · exact List.forall_mem_nil _
  · exact fun item items first others => List.forall_mem_cons.2 ⟨first, others⟩
  · exact List.forall_mem_nil _
  · exact fun pair members first others => List.forall_mem_cons.2 ⟨first, others⟩
  · exact fun name value holds => holds

/-- The same for one step that treats all values alike. -/
@[elab_as_elim]
theorem induction_on_parts {motive : Json → Prop}
    (step : ∀ value, (∀ items, value = .array items → ∀ item ∈ items, motive item) →
      (∀ members, value = .object members → ∀ pair ∈ members, motive pair.2) → motive value)
    (value : Json) : motive value := by
  induction value with
  | array items ih =>
      refine step _ ?_ nofun
      intro inner same
      cases same
      exact ih
  | object members ih =>
      refine step _ nofun ?_
      intro inner same
      cases same
      exact ih
  | null => exact step _ nofun nofun
  | boolean flag => exact step _ nofun nofun
  | number number => exact step _ nofun nofun
  | string text => exact step _ nofun nofun

mutual

/-- The members of every object are in the order of their names. -/
def Ordered : Json → Prop
  | .array items => OrderedItems items
  | .object members => NameTable.Ordered members ∧ OrderedMembers members
  | _ => True

def OrderedItems : List Json → Prop
  | [] => True
  | item :: items => Ordered item ∧ OrderedItems items

def OrderedMembers : List (String × Json) → Prop
  | [] => True
  | (_, value) :: members => Ordered value ∧ OrderedMembers members

end

mutual

instance decidableOrdered : (value : Json) → Decidable value.Ordered
  | .array items => decidableOrderedItems items
  | .object members =>
      have := decidableOrderedMembers members
      inferInstanceAs (Decidable (NameTable.Ordered members ∧ OrderedMembers members))
  | .null => .isTrue trivial
  | .boolean _ => .isTrue trivial
  | .number _ => .isTrue trivial
  | .string _ => .isTrue trivial

instance decidableOrderedItems : (items : List Json) → Decidable (OrderedItems items)
  | [] => .isTrue trivial
  | item :: items =>
      have := decidableOrdered item
      have := decidableOrderedItems items
      inferInstanceAs (Decidable (item.Ordered ∧ OrderedItems items))

instance decidableOrderedMembers :
    (members : List (String × Json)) → Decidable (OrderedMembers members)
  | [] => .isTrue trivial
  | (_, value) :: members =>
      have := decidableOrdered value
      have := decidableOrderedMembers members
      inferInstanceAs (Decidable (value.Ordered ∧ OrderedMembers members))

end

theorem orderedItems_iff {items : List Json} :
    OrderedItems items ↔ ∀ item ∈ items, Ordered item := by
  induction items with
  | nil => simp [OrderedItems]
  | cons item items ih => rw [OrderedItems, ih, List.forall_mem_cons]

theorem orderedMembers_iff {members : List (String × Json)} :
    OrderedMembers members ↔ ∀ pair ∈ members, Ordered pair.2 := by
  induction members with
  | nil => simp [OrderedMembers]
  | cons pair members ih => rw [OrderedMembers, ih, List.forall_mem_cons]

theorem ordered_array_iff {items : List Json} :
    (Json.array items).Ordered ↔ ∀ item ∈ items, Ordered item := by
  rw [Ordered, orderedItems_iff]

theorem ordered_object_iff {members : List (String × Json)} :
    (Json.object members).Ordered ↔
      NameTable.Ordered members ∧ ∀ pair ∈ members, Ordered pair.2 := by
  rw [Ordered, orderedMembers_iff]

/-- An object put together of ordered members is ordered. -/
theorem ordered_ofMembers {members : List (String × Json)}
    (each : ∀ pair ∈ members, Ordered pair.2) : (ofMembers members).Ordered := by
  refine ordered_object_iff.2 ⟨NameTable.ordered_ofList members, ?_⟩
  intro pair member
  exact each pair (NameTable.mem_of_mem_ofList member)

/-! ## Values read from texts -/

/-- Whatever holds of all items that can be read holds of all items read together. -/
theorem forall_of_readItems {α : Type} {P : α → Prop} {care : Care} {item : Reader α}
    (each : ∀ {text value rest}, item text = .ok (value, rest) → P value) {bound : Nat}
    {first : Bool} {text rest : List Char} {values : List α}
    (read : readItems care item bound first text = .ok (values, rest)) :
    ∀ value ∈ values, P value := by
  induction bound generalizing first text values rest with
  | zero => cases read
  | succ bound ih =>
      rw [readItems] at read
      split at read
      · cases read
      · cases read
        exact List.forall_mem_nil _
      · split at read
        · cases read
        · next value after done =>
            split at read
            · cases read
            · next more last later =>
                cases read
                exact List.forall_mem_cons.2 ⟨each done, ih later⟩

/-- Whatever holds of all values that can be read holds of all members read together. -/
theorem forall_of_readMembers {α : Type} {P : α → Prop} {care : Care} {value : String → Reader α}
    (each : ∀ {name text content rest}, value name text = .ok (content, rest) → P content)
    {bound : Nat} {first : Bool} {text rest : List Char} {members : List (String × α)}
    (read : readMembers care value bound first text = .ok (members, rest)) :
    ∀ pair ∈ members, P pair.2 := by
  induction bound generalizing first text members rest with
  | zero => cases read
  | succ bound ih =>
      rw [readMembers] at read
      split at read
      · cases read
      · cases read
        exact List.forall_mem_nil _
      · split at read
        · cases read
        · split at read
          · cases read
          · split at read
            · cases read
            · next content after done =>
                split at read
                · cases read
                · next more last later =>
                    cases read
                    exact List.forall_mem_cons.2 ⟨each done, ih later⟩

theorem ordered_of_map {α : Type} {f : α → Json × List Char} {result : Except Fault α}
    {value : Json} {rest : List Char} (read : result.map f = .ok (value, rest))
    (each : ∀ inner, result = .ok inner → (f inner).1.Ordered) : value.Ordered := by
  obtain ⟨inner, done, same⟩ := except_map_eq_ok_iff.1 read
  have ordered := each inner done
  rwa [same] at ordered

/-- The step: a value is ordered if those are that are read with fewer levels left. -/
theorem ordered_of_readValue {levels : Nat} {text rest : List Char} {value : Json}
    (parts : ∀ inner < levels, ∀ text value rest, readValue inner text = .ok (value, rest) →
      value.Ordered)
    (read : readValue levels text = .ok (value, rest)) : value.Ordered := by
  unfold readValue at read
  split at read
  · cases read
  · split at read
    · exact ordered_of_map read fun _ _ => trivial
    split at read
    · exact ordered_of_map read fun _ _ => trivial
    split at read
    · exact ordered_of_map read fun _ _ => trivial
    split at read
    · exact ordered_of_map read fun _ _ => trivial
    split at read
    · exact ordered_of_map read fun _ _ => trivial
    split at read
    · exact ordered_of_map read fun _ _ => trivial
    split at read
    · split at read
      · cases read
      · next inner =>
          have each := parts inner (Nat.lt_succ_self inner)
          exact ordered_of_map read fun _ done =>
            ordered_array_iff.2 (forall_of_readItems (each _ _ _) done)
    split at read
    · split at read
      · cases read
      · next inner =>
          have each := parts inner (Nat.lt_succ_self inner)
          exact ordered_of_map read fun _ done => ordered_ofMembers
            (forall_of_readMembers (each _ _ _) done)
    · cases read

/-- Whatever value is read is ordered. -/
theorem readValue_ordered {levels : Nat} {text rest : List Char} {value : Json}
    (read : readValue levels text = .ok (value, rest)) : value.Ordered := by
  induction levels using Nat.strongRecOn generalizing text rest value with
  | ind levels ih => exact ordered_of_readValue (fun inner less _ _ _ => ih inner less) read

/-- Every value that a text spells is ordered. -/
theorem parse_ordered {text : String} {value : Json} (parsed : parse text = .ok value) :
    value.Ordered := by
  rw [parse] at parsed
  split at parsed
  · next result done =>
      cases parsed
      obtain ⟨rest, read⟩ := complete_eq_ok done
      exact readValue_ordered read
  · cases parsed

end ApiDiscovery.Json
