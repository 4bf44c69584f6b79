/-!
# Name tables

Finite maps from names to entries, kept as lists in strictly increasing order
of the names.  Names are compared code point by code point, which is the order
of their UTF-8 octets.  `ofList` builds a table from any list of pairs, the
last entry of a repeated name winning; whatever is built so is `Ordered`.
-/

namespace ApiDiscovery

abbrev NameTable (α : Type) := List (String × α)

namespace NameTable

variable {α β : Type}

/-- The names increase strictly; in particular none is repeated. -/
def Ordered (table : NameTable α) : Prop :=
  table.Pairwise fun left right => left.1 < right.1

def names (table : NameTable α) : List String := table.map Prod.fst

def get? : NameTable α → String → Option α
  | [], _ => none
  | (key, value) :: rest, name => if key = name then some value else get? rest name

def insert (name : String) (value : α) : NameTable α → NameTable α
  | [] => [(name, value)]
  | (key, old) :: rest =>
      if name < key then (name, value) :: (key, old) :: rest
      else if key = name then (name, value) :: rest
      else (key, old) :: insert name value rest

/-- The table of the pairs, taken in order: a later entry replaces an earlier one of its name. -/
def ofList (pairs : List (String × α)) : NameTable α :=
  pairs.foldl (fun table (name, value) => insert name value table) []

def mapEntries (f : α → β) (table : NameTable α) : NameTable β :=
  table.map fun (name, value) => (name, f value)

theorem name_lt_or_eq_or_gt (a b : String) : a < b ∨ a = b ∨ b < a := by
  by_cases hlt : a < b
  · exact .inl hlt
  · by_cases hgt : b < a
    · exact .inr (.inr hgt)
    · exact .inr (.inl (String.le_antisymm (String.not_lt.1 hgt) (String.not_lt.1 hlt)))

theorem mem_insert {name : String} {value : α} {table : NameTable α} {pair : String × α}
    (member : pair ∈ insert name value table) : pair = (name, value) ∨ pair ∈ table := by
  induction table with
  | nil => simpa [insert] using member
  | cons head rest ih =>
      obtain ⟨key, old⟩ := head
      unfold insert at member
      split at member
      · simpa using member
      · split at member
        · simp only [List.mem_cons] at member ⊢
          rcases member with rfl | later
          · exact .inl rfl
          · exact .inr (.inr later)
        · simp only [List.mem_cons] at member ⊢
          rcases member with rfl | later
          · exact .inr (.inl rfl)
          · exact (ih later).imp_right .inr

theorem Ordered.insert {table : NameTable α} (ordered : table.Ordered) (name : String)
    (value : α) : (NameTable.insert name value table).Ordered := by
  induction table with
  | nil => simp [NameTable.insert, Ordered]
  | cons head rest ih =>
      obtain ⟨key, old⟩ := head
      obtain ⟨below, tail⟩ := List.pairwise_cons.1 ordered
      unfold NameTable.insert
      split
      · next before =>
          refine List.pairwise_cons.2 ⟨?_, ordered⟩
          intro pair member
          rcases List.mem_cons.1 member with rfl | later
          · exact before
          · exact String.lt_trans before (below pair later)
      · split
        · next same => exact List.pairwise_cons.2 ⟨fun pair member => same ▸ below pair member, tail⟩
        · next notBefore different =>
            refine List.pairwise_cons.2 ⟨?_, ih tail⟩
            intro pair member
            rcases mem_insert member with rfl | later
            · rcases name_lt_or_eq_or_gt name key with h | h | h
              · exact absurd h notBefore
              · exact absurd h.symm different
              · exact h
            · exact below pair later

theorem ordered_ofList (pairs : List (String × α)) : (ofList pairs).Ordered := by
  suffices general : ∀ table : NameTable α, table.Ordered →
      (pairs.foldl (fun table (name, value) => insert name value table) table).Ordered from
    general [] List.Pairwise.nil
  induction pairs with
  | nil => exact fun _ ordered => ordered
  | cons pair rest ih => exact fun table ordered => ih _ (ordered.insert pair.1 pair.2)

theorem get?_insert (name : String) (value : α) (table : NameTable α) (wanted : String) :
    get? (insert name value table) wanted =
      if name = wanted then some value else get? table wanted := by
  induction table with
  | nil => simp [insert, get?]
  | cons head rest ih =>
      obtain ⟨key, old⟩ := head
      unfold insert
      split
      · simp [get?]
      · split
        · next same => subst same; simp only [get?]; split <;> rfl
        · next different =>
            simp only [get?, ih]
            by_cases hk : key = wanted
            · have : name ≠ wanted := fun h => different (hk.trans h.symm)
              simp [hk, this]
            · simp [hk]

end NameTable

end ApiDiscovery
