import ApiDiscovery.Json.Shape
import ApiDiscovery.Proofs.Activity
import ApiDiscovery.Proofs.NameTable
import Mathlib.Data.List.Pairwise

/-!
# Records and tables read from values

A field of a record is a part of it that can be read, looked up and replaced.
Where the parts are independent of each other and make up the record, reading
an object amounts to reading each part for itself, whatever the order of the
members; an array is read as the object of its items under the names of the
fields.  Members that are no fields make no difference.  A table is read entry by
entry from an object.
-/

namespace ApiDiscovery.Json

variable {σ ρ : Type}

/-! ## Parts of a record -/

/-- What one field of a record is about. -/
structure Part (σ : Type) where
  name : String
  Held : Type
  read : Json → Except Mismatch Held
  get : σ → Held
  set : Held → σ → σ

namespace Part

def toField (part : Part σ) : Field σ :=
  ⟨part.name, fun value record => (part.read value).map fun held => part.set held record⟩

/-- The part of the record is what the value says, or what it was at the start if there is none. -/
def Given (part : Part σ) (start record : σ) : Option Json → Prop
  | none => part.get record = part.get start
  | some value => part.read value = .ok (part.get record)

def text (name : String) (get : σ → Option String) (set : Option String → σ → σ) : Part σ :=
  ⟨name, Option String, toText? .string, get, set⟩

@[simp] theorem text_name (name : String) (get : σ → Option String)
    (set : Option String → σ → σ) : (text name get set).name = name := rfl

/-- Two parts have different names, and neither changes with the other. -/
@[mk_iff]
structure Independent (first second : Part σ) : Prop where
  names_ne : first.name ≠ second.name
  get_set : ∀ held record, second.get (first.set held record) = second.get record
  get_set' : ∀ held record, first.get (second.set held record) = first.get record

end Part

instance : Std.Symm (Part.Independent (σ := σ)) :=
  ⟨fun _ _ apart => ⟨apart.names_ne.symm, apart.get_set', apart.get_set⟩⟩

/-- Parts that make up a record together with a remainder that none of them changes. -/
structure Lawful (remainder : σ → ρ) (parts : List (Part σ)) : Prop where
  independent : parts.Pairwise Part.Independent
  get_set : ∀ part ∈ parts, ∀ held record, part.get (part.set held record) = held
  remainder_set : ∀ part ∈ parts, ∀ held record, remainder (part.set held record) = remainder record
  ext : ∀ first second, remainder first = remainder second →
    (∀ part ∈ parts, part.get first = part.get second) → first = second

def Distinct (members : List (String × Json)) : Prop :=
  members.Pairwise fun left right => left.1 ≠ right.1

theorem distinct_of_ordered {members : NameTable Json} (ordered : members.Ordered) :
    Distinct members :=
  List.Pairwise.imp (fun less => String.ne_of_lt less) ordered

theorem Distinct.get?_tail {head : String × Json} {rest : List (String × Json)}
    (distinct : Distinct (head :: rest)) : NameTable.get? rest head.1 = none := by
  cases found : NameTable.get? rest head.1 with
  | none => rfl
  | some other =>
      have apart := (List.pairwise_cons.1 distinct).1 _ (NameTable.mem_of_get? found)
      exact absurd rfl apart

/-! ## Members -/

theorem storeMembers_cons_of_forall_ne {parts : List (Part σ)} {name : String}
    (unknown : ∀ part ∈ parts, part.name ≠ name) (value : Json) (rest : List (String × Json))
    (start : σ) :
    storeMembers (parts.map Part.toField) ((name, value) :: rest) start =
      storeMembers (parts.map Part.toField) rest start := by
  have missing : (parts.map Part.toField).find? (fun field => field.name == name) = none := by
    rw [List.find?_map, Option.map_eq_none_iff, List.find?_eq_none]
    intro part member same
    exact unknown part member (by simpa [Part.toField] using same)
  rw [storeMembers, missing]

namespace Lawful

variable {remainder : σ → ρ} {parts : List (Part σ)}

theorem eq_of_name_eq (lawful : Lawful remainder parts) {first second : Part σ}
    (firstMember : first ∈ parts) (secondMember : second ∈ parts)
    (same : first.name = second.name) : first = second := by
  by_contra different
  exact (lawful.independent.forall firstMember secondMember different).names_ne same

/-- The field of a name is that of the part of this name. -/
theorem find_toField (lawful : Lawful remainder parts) {part : Part σ} (member : part ∈ parts) :
    (parts.map Part.toField).find? (fun field => field.name == part.name) =
      some part.toField := by
  rw [List.find?_map]
  cases found : parts.find? ((fun field => field.name == part.name) ∘ Part.toField) with
  | none =>
      have refused := List.find?_eq_none.1 found part member
      simp [Part.toField] at refused
  | some other =>
      have same : other.name = part.name := by simpa [Part.toField] using List.find?_some found
      rw [lawful.eq_of_name_eq (List.mem_of_find?_eq_some found) member same]
      rfl

/-- One member read: its part is set, and the others are left to the members behind it. -/
theorem given_cons_iff (lawful : Lawful remainder parts) {part : Part σ} (member : part ∈ parts)
    {value : Json} {rest : List (String × Json)}
    (distinct : Distinct ((part.name, value) :: rest)) {start record : σ} :
    (∀ other ∈ parts,
        other.Given start record (NameTable.get? ((part.name, value) :: rest) other.name)) ↔
      ∃ held, part.read value = .ok held ∧ ∀ other ∈ parts,
        other.Given (part.set held start) record (NameTable.get? rest other.name) := by
  have unchanged : ∀ held, ∀ other ∈ parts, other ≠ part →
      (other.Given start record (NameTable.get? ((part.name, value) :: rest) other.name) ↔
        other.Given (part.set held start) record (NameTable.get? rest other.name)) := by
    intro held other otherMember different
    have apart := lawful.independent.forall member otherMember different.symm
    rw [NameTable.get?, if_neg apart.names_ne]
    cases NameTable.get? rest other.name with
    | none => rw [Part.Given, Part.Given, apart.get_set]
    | some _ => rfl
  constructor
  · intro given
    have own := given part member
    rw [NameTable.get?, if_pos rfl] at own
    refine ⟨part.get record, own, ?_⟩
    intro other otherMember
    by_cases same : other = part
    · rw [same, distinct.get?_tail, Part.Given, lawful.get_set part member]
    · exact (unchanged _ other otherMember same).1 (given other otherMember)
  · rintro ⟨held, read, given⟩ other otherMember
    by_cases same : other = part
    · have own := given part member
      rw [distinct.get?_tail, Part.Given, lawful.get_set part member] at own
      rw [same, NameTable.get?, if_pos rfl, Part.Given, read, own]
    · exact (unchanged held other otherMember same).2 (given other otherMember)

theorem storeMembers_cons (lawful : Lawful remainder parts) {part : Part σ} (member : part ∈ parts)
    (value : Json) (rest : List (String × Json)) (start : σ) :
    storeMembers (parts.map Part.toField) ((part.name, value) :: rest) start =
      (part.read value).bind fun held =>
        storeMembers (parts.map Part.toField) rest (part.set held start) := by
  rw [storeMembers, lawful.find_toField member]
  dsimp only [Part.toField]
  cases part.read value with
  | error mismatch => rfl
  | ok held => rfl

/-- Members entered one after the other leave in each part what its own member says. -/
theorem storeMembers_eq_ok_iff (lawful : Lawful remainder parts) {members : List (String × Json)}
    (distinct : Distinct members) {start record : σ} :
    storeMembers (parts.map Part.toField) members start = .ok record ↔
      (∀ part ∈ parts, part.Given start record (NameTable.get? members part.name)) ∧
        remainder record = remainder start := by
  induction members generalizing start with
  | nil =>
      rw [storeMembers]
      constructor
      · intro same
        cases same
        exact ⟨fun part _ => rfl, rfl⟩
      · rintro ⟨given, kept⟩
        rw [lawful.ext start record kept.symm fun part member => (given part member).symm]
  | cons head rest ih =>
      obtain ⟨name, value⟩ := head
      have tail : Distinct rest := (List.pairwise_cons.1 distinct).2
      by_cases known : ∃ part ∈ parts, part.name = name
      · obtain ⟨part, member, rfl⟩ := known
        rw [lawful.storeMembers_cons member, lawful.given_cons_iff member distinct]
        cases read : part.read value with
        | error mismatch => simp [Except.bind]
        | ok held =>
            rw [Except.bind, ih tail, lawful.remainder_set part member]
            simp
      · have apart : ∀ part ∈ parts, part.name ≠ name := fun part member same =>
          known ⟨part, member, same⟩
        rw [storeMembers_cons_of_forall_ne apart, ih tail]
        refine and_congr_left fun _ => forall₂_congr fun part member => ?_
        rw [NameTable.get?, if_neg fun same => known ⟨part, member, same.symm⟩]

end Lawful

/-! ## Objects and arrays -/

/--
The members that a record is given by: those of an object, or the items of an
array under the names of the fields in order, if there are no more items.
-/
def givenBy (names : List String) : Json → Option (List (String × Json))
  | .object members => some members
  | .array items => if items.length ≤ names.length then some (names.zip items) else none
  | _ => none

/-- Whatever holds of all parts of a value holds of the members that a record is given by. -/
theorem forall_of_givenBy {P : Json → Prop} {names : List String} {value : Json}
    {members : List (String × Json)} (given : givenBy names value = some members)
    (array : ∀ items, value = .array items → ∀ item ∈ items, P item)
    (object : ∀ inner, value = .object inner → ∀ pair ∈ inner, P pair.2) :
    ∀ pair ∈ members, P pair.2 := by
  cases value with
  | object inner =>
      cases given
      exact object members rfl
  | array items =>
      rw [givenBy] at given
      split at given
      · cases given
        intro pair member
        exact array items rfl pair.2 (List.of_mem_zip member).2
      · cases given
  | null => cases given
  | boolean flag => cases given
  | number number => cases given
  | string text => cases given

/-- Items are entered into the fields as members of their names are. -/
theorem storeItems_eq_storeMembers {all fields : List (Field σ)} {items : List Json}
    (found : ∀ field ∈ fields, all.find? (fun other => other.name == field.name) = some field)
    (start : σ) :
    storeItems fields items start =
      storeMembers all ((fields.map Field.name).zip items) start := by
  induction fields generalizing items start with
  | nil =>
      rw [storeItems]
      · rfl
      · intro _ _ _ _ impossible
        cases impossible
  | cons field fields ih =>
      cases items with
      | nil =>
          rw [storeItems]
          · rfl
          · intro _ _ _ _ _ impossible
            cases impossible
      | cons value values =>
          rw [storeItems, List.map_cons, List.zip_cons_cons, storeMembers,
            found field List.mem_cons_self]
          dsimp only
          cases field.store value start with
          | error mismatch => rfl
          | ok next =>
              exact ih (fun other member => found other (List.mem_cons_of_mem _ member)) next

theorem distinct_zip {names : List String} (different : names.Pairwise (· ≠ ·))
    (items : List Json) : Distinct (names.zip items) := by
  induction names generalizing items with
  | nil => exact .nil
  | cons name names ih =>
      obtain ⟨apart, tail⟩ := List.pairwise_cons.1 different
      cases items with
      | nil => exact .nil
      | cons value values =>
          refine List.pairwise_cons.2 ⟨?_, ih tail values⟩
          intro pair member
          exact apart pair.1 (List.of_mem_zip member).1

namespace Lawful

variable {remainder : σ → ρ} {parts : List (Part σ)}

theorem names_pairwise_ne (lawful : Lawful remainder parts) :
    (parts.map Part.name).Pairwise (· ≠ ·) :=
  List.pairwise_map.2 (lawful.independent.imp fun apart => apart.names_ne)

theorem storeItems_eq (lawful : Lawful remainder parts) (items : List Json) (start : σ) :
    storeItems (parts.map Part.toField) items start =
      storeMembers (parts.map Part.toField) ((parts.map Part.name).zip items) start := by
  have names : (parts.map Part.toField).map Field.name = parts.map Part.name := by
    rw [List.map_map]
    rfl
  rw [← names]
  refine storeItems_eq_storeMembers ?_ start
  intro field member
  obtain ⟨part, partMember, rfl⟩ := List.mem_map.1 member
  exact lawful.find_toField partMember

theorem toRecord_array_eq_ok_iff (lawful : Lawful remainder parts) {title : String}
    {excess : Nat → Nat → Mismatch} {items : List Json} {start record : σ} :
    toRecord title excess (parts.map Part.toField) start (.array items) = .ok record ↔
      items.length ≤ parts.length ∧
        storeMembers (parts.map Part.toField) ((parts.map Part.name).zip items) start =
          .ok record := by
  rw [toRecord, lawful.storeItems_eq, List.length_map]
  cases storeMembers (parts.map Part.toField) ((parts.map Part.name).zip items) start with
  | error mismatch => simp
  | ok stored =>
      by_cases few : items.length ≤ parts.length
      · simp [few, Nat.not_lt.2 few]
      · simp [few, Nat.lt_of_not_le few]

/-- A record is read from a value that gives it, and then every part is what its member says. -/
theorem toRecord_eq_ok_iff (lawful : Lawful remainder parts) {title : String}
    {excess : Nat → Nat → Mismatch} {value : Json}
    (distinct : ∀ members, value = .object members → Distinct members) {start record : σ} :
    toRecord title excess (parts.map Part.toField) start value = .ok record ↔
      ∃ members, givenBy (parts.map Part.name) value = some members ∧
        (∀ part ∈ parts, part.Given start record (NameTable.get? members part.name)) ∧
          remainder record = remainder start := by
  cases value with
  | object members =>
      rw [toRecord, lawful.storeMembers_eq_ok_iff (distinct members rfl)]
      simp [givenBy]
  | array items =>
      rw [lawful.toRecord_array_eq_ok_iff,
        lawful.storeMembers_eq_ok_iff (distinct_zip lawful.names_pairwise_ne items), givenBy]
      by_cases few : items.length ≤ parts.length
      · simp [few]
      · simp [few]
  | null => simp [toRecord, givenBy]
  | boolean flag => simp [toRecord, givenBy]
  | number number => simp [toRecord, givenBy]
  | string text => simp [toRecord, givenBy]

end Lawful

/-! ## Members that are no fields -/

def only (names : List String) (members : List (String × Json)) : List (String × Json) :=
  members.filter fun pair => names.contains pair.1

/-- Members that are no fields are passed over. -/
theorem storeMembers_only {fields : List (Field σ)} {names : List String}
    (all : ∀ field ∈ fields, names.contains field.name) (members : List (String × Json))
    (start : σ) :
    storeMembers fields (only names members) start = storeMembers fields members start := by
  rw [only]
  induction members generalizing start with
  | nil => rfl
  | cons head rest ih =>
      obtain ⟨name, value⟩ := head
      cases keep : names.contains name with
      | true =>
          simp only [List.filter_cons, keep, if_true, storeMembers, ih]
      | false =>
          have unknown : fields.find? (fun field => field.name == name) = none := by
            rw [List.find?_eq_none]
            intro field member same
            have wanted := all field member
            rw [beq_iff_eq.1 same, keep] at wanted
            cases wanted
          simp only [List.filter_cons, keep, Bool.false_eq_true, if_false, storeMembers, unknown,
            ih]

/-- Values that their fields cannot tell apart may stand for each other. -/
theorem storeMembers_map {fields : List (Field σ)} {change : String → Json → Json}
    (same : ∀ field ∈ fields, ∀ value, field.store (change field.name value) = field.store value)
    (members : List (String × Json)) (start : σ) :
    storeMembers fields (members.map fun pair => (pair.1, change pair.1 pair.2)) start =
      storeMembers fields members start := by
  induction members generalizing start with
  | nil => rfl
  | cons head rest ih =>
      obtain ⟨name, value⟩ := head
      rw [List.map_cons, storeMembers, storeMembers]
      cases found : fields.find? (fun field => field.name == name) with
      | none => exact ih start
      | some field =>
          have named : field.name = name := by simpa using List.find?_some found
          have stored := same field (List.mem_of_find?_eq_some found) value
          rw [named] at stored
          simp only [stored, ih]

/-! ## Tables -/

def readEntries {α : Type} (entry : Json → Except Mismatch α) :
    List (String × Json) → Except Mismatch (NameTable α)
  | [] => .ok []
  | (name, value) :: rest =>
      (entry value).bind fun content => (readEntries entry rest).map ((name, content) :: ·)

def toTable {α : Type} (entry : Json → Except Mismatch α) : Json → Except Mismatch (NameTable α)
  | .object members => readEntries entry members
  | other => .error (unexpected .map other)

def Part.table {α : Type} (name : String) (entry : Json → Except Mismatch α) (get : σ → NameTable α)
    (set : NameTable α → σ → σ) : Part σ :=
  ⟨name, NameTable α, toTable entry, get, set⟩

@[simp] theorem Part.table_name {α : Type} (name : String) (entry : Json → Except Mismatch α)
    (get : σ → NameTable α) (set : NameTable α → σ → σ) :
    (Part.table name entry get set).name = name := rfl

section Tables

variable {α : Type} {entry : Json → Except Mismatch α}

theorem readEntries_cons_eq_ok_iff {name : String} {value : Json} {rest : List (String × Json)}
    {table : NameTable α} :
    readEntries entry ((name, value) :: rest) = .ok table ↔
      ∃ content others, entry value = .ok content ∧ readEntries entry rest = .ok others ∧
        (name, content) :: others = table := by
  rw [readEntries]
  cases entry value with
  | error mismatch => simp [Except.bind]
  | ok content => simp [Except.bind, except_map_eq_ok_iff]

/-- A table written entry by entry is read back if every entry is. -/
theorem toTable_mapEntries {write : α → Json} {table : NameTable α}
    (each : ∀ pair ∈ table, entry (write pair.2) = .ok pair.2) :
    toTable entry (.object (table.mapEntries write)) = .ok table := by
  rw [toTable]
  induction table with
  | nil => rfl
  | cons head rest ih =>
      obtain ⟨first, others⟩ := List.forall_mem_cons.1 each
      exact readEntries_cons_eq_ok_iff.2 ⟨head.2, rest, first, ih others, rfl⟩

/-- Values that an entry cannot tell apart may stand for each other. -/
theorem readEntries_mapEntries {change : Json → Json} {members : NameTable Json}
    (same : ∀ pair ∈ members, entry (change pair.2) = entry pair.2) :
    readEntries entry (members.mapEntries change) = readEntries entry members := by
  induction members with
  | nil => rfl
  | cons head rest ih =>
      obtain ⟨first, others⟩ := List.forall_mem_cons.1 same
      rw [NameTable.mapEntries] at ih ⊢
      rw [List.map_cons, readEntries, readEntries, first, ih others]

end Tables

end ApiDiscovery.Json
