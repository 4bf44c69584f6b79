import ApiDiscovery.NameTable
import ApiDiscovery.Proofs.Text.OctetOrder
import Mathlib.Data.List.Forall2
import Mathlib.Data.List.Induction

/-!
# Looking up names

What a table holds under a name, read off the list of its entries: an ordered
table holds each of its entries, and a table built from pairs holds the last
pair of every name.  Two tables are `Aligned` if they have the same names in the
same order and related entries under them.
-/

namespace ApiDiscovery.NameTable

variable {α β : Type}

theorem mem_of_get? {table : NameTable α} {name : String} {value : α}
    (found : table.get? name = some value) : (name, value) ∈ table := by
  induction table with
  | nil => cases found
  | cons head rest ih =>
      obtain ⟨key, first⟩ := head
      rw [get?] at found
      split at found
      · next same =>
          subst same
          cases found
          exact List.mem_cons_self
      · exact List.mem_cons_of_mem _ (ih found)

theorem mem_names_of_get? {table : NameTable α} {name : String} {value : α}
    (found : table.get? name = some value) : name ∈ table.names :=
  List.mem_map.2 ⟨(name, value), mem_of_get? found, rfl⟩

/-- In an ordered table no entry hides another. -/
theorem get?_of_mem {table : NameTable α} (ordered : table.Ordered) {name : String} {value : α}
    (member : (name, value) ∈ table) : table.get? name = some value := by
  induction table with
  | nil => cases member
  | cons head rest ih =>
      obtain ⟨key, first⟩ := head
      obtain ⟨below, tail⟩ := List.pairwise_cons.1 ordered
      rw [get?]
      rcases List.mem_cons.1 member with same | later
      · cases same
        exact if_pos rfl
      · have less : key < name := below _ later
        rw [if_neg (String.ne_of_lt less)]
        exact ih tail later

instance decidableOrdered (table : NameTable α) : Decidable table.Ordered :=
  inferInstanceAs (Decidable (List.Pairwise _ _))

theorem ordered_iff {table : NameTable α} :
    table.Ordered ↔ table.names.Pairwise fun left right => left < right :=
  List.pairwise_map.symm

/-- The names of an ordered table increase octet by octet. -/
theorem Ordered.octets {table : NameTable α} (ordered : table.Ordered) :
    table.names.Pairwise fun left right =>
      Text.Utf8.encode left.toList < Text.Utf8.encode right.toList :=
  (ordered_iff.1 ordered).imp Text.Utf8.encode_lt_encode

/-! ## Tables of pairs -/

theorem ofList_concat (pairs : List (String × α)) (pair : String × α) :
    ofList (pairs ++ [pair]) = insert pair.1 pair.2 (ofList pairs) := by
  rw [ofList, List.foldl_append]
  rfl

theorem mem_of_mem_ofList {pairs : List (String × α)} {pair : String × α}
    (member : pair ∈ ofList pairs) : pair ∈ pairs := by
  induction pairs using List.reverseRecOn with
  | nil => exact member
  | append_singleton pairs last ih =>
      rw [ofList_concat] at member
      rcases mem_insert member with rfl | old
      · exact List.mem_append_right _ List.mem_cons_self
      · exact List.mem_append_left _ (ih old)

/-- A table built from pairs holds the last pair of a name, if there is one. -/
theorem get?_ofList_eq_some_iff {pairs : List (String × α)} {name : String} {value : α} :
    (ofList pairs).get? name = some value ↔
      ∃ before after, pairs = before ++ (name, value) :: after ∧
        ∀ pair ∈ after, pair.1 ≠ name := by
  induction pairs using List.reverseRecOn with
  | nil =>
      constructor
      · intro found
        cases found
      · rintro ⟨before, after, same, _⟩
        cases before <;> cases same
  | append_singleton pairs last ih =>
      rw [ofList_concat, get?_insert]
      by_cases same : last.1 = name
      · rw [if_pos same]
        constructor
        · intro found
          refine ⟨pairs, [], ?_, fun pair member => absurd member List.not_mem_nil⟩
          rw [← same, ← Option.some.inj found]
        · rintro ⟨before, after, split, others⟩
          rcases List.eq_nil_or_concat' after with rfl | ⟨inner, final, rfl⟩
          · have tails := (List.append_inj' split rfl).2
            rw [List.singleton_inj.1 tails]
          · rw [← List.cons_append, ← List.append_assoc] at split
            have tails := List.singleton_inj.1 (List.append_inj' split rfl).2
            exact absurd same (others last (by rw [tails]; simp))
      · rw [if_neg same, ih]
        constructor
        · rintro ⟨before, after, rfl, others⟩
          refine ⟨before, after ++ [last], by simp, ?_⟩
          intro pair member
          rcases List.mem_append.1 member with old | new
          · exact others pair old
          · rw [List.mem_singleton.1 new]
            exact same
        · rintro ⟨before, after, split, others⟩
          rcases List.eq_nil_or_concat' after with rfl | ⟨inner, final, rfl⟩
          · have tails := List.singleton_inj.1 (List.append_inj' split rfl).2
            exact absurd (congrArg Prod.fst tails) same
          · rw [← List.cons_append, ← List.append_assoc] at split
            refine ⟨before, inner, (List.append_inj' split rfl).1, ?_⟩
            intro pair member
            exact others pair (List.mem_append_left _ member)

theorem mem_names_insert {table : NameTable α} {name : String} {value : α} {wanted : String} :
    wanted ∈ (insert name value table).names ↔ wanted = name ∨ wanted ∈ table.names := by
  induction table with
  | nil => simp [insert, names]
  | cons head rest ih =>
      obtain ⟨key, old⟩ := head
      rw [names] at ih
      unfold insert
      split
      · simp [names]
      · split
        · next same => simp [names, same]
        · simp only [names, List.map_cons, List.mem_cons] at ih ⊢
          rw [ih]
          exact or_left_comm

/-- A table built from pairs has the names of the pairs. -/
theorem mem_names_ofList {pairs : List (String × α)} {name : String} :
    name ∈ (ofList pairs).names ↔ ∃ pair ∈ pairs, pair.1 = name := by
  induction pairs using List.reverseRecOn with
  | nil => simp [ofList, names]
  | append_singleton pairs last ih =>
      rw [ofList_concat, mem_names_insert, ih]
      constructor
      · rintro (same | ⟨pair, member, same⟩)
        · exact ⟨last, by simp, same.symm⟩
        · exact ⟨pair, List.mem_append_left _ member, same⟩
      · rintro ⟨pair, member, same⟩
        rcases List.mem_append.1 member with old | new
        · exact .inr ⟨pair, old, same⟩
        · exact .inl (List.mem_singleton.1 new ▸ same.symm)

/-- Where a table built from pairs holds nothing, there was no pair. -/
theorem not_mem_of_get?_ofList {pairs : List (String × α)} {name : String}
    (missing : (ofList pairs).get? name = none) (value : α) : (name, value) ∉ pairs := by
  intro member
  obtain ⟨⟨_, held⟩, found, rfl⟩ := List.mem_map.1 (mem_names_ofList.2 ⟨_, member, rfl⟩)
  cases missing.symm.trans (get?_of_mem (ordered_ofList pairs) found)

theorem insert_perm {table : NameTable α} {name : String} (fresh : name ∉ table.names) (value : α) :
    (insert name value table).Perm ((name, value) :: table) := by
  induction table with
  | nil => exact .refl _
  | cons head rest ih =>
      obtain ⟨key, old⟩ := head
      rw [names, List.map_cons, List.mem_cons, not_or] at fresh
      rw [insert, if_neg (Ne.symm fresh.1)]
      split
      · exact .refl _
      · exact ((ih fresh.2).cons _).trans (.swap _ _ _)

/-- A table built from pairs of different names holds just these pairs. -/
theorem ofList_perm {pairs : List (String × α)} (distinct : (pairs.map Prod.fst).Nodup) :
    (ofList pairs).Perm pairs := by
  induction pairs using List.reverseRecOn with
  | nil => exact .refl _
  | append_singleton pairs last ih =>
      rw [List.map_append, List.nodup_append] at distinct
      obtain ⟨distinctBefore, _, apart⟩ := distinct
      have fresh : last.1 ∉ (ofList pairs).names := by
        rw [mem_names_ofList]
        rintro ⟨pair, member, same⟩
        exact apart _ (List.mem_map_of_mem member) _ (List.mem_singleton_self _) same
      rw [ofList_concat]
      exact (insert_perm fresh last.2).trans
        (((ih distinctBefore).cons _).trans (List.perm_append_singleton _ _).symm)

/-! ## Tables side by side -/

/-- Two tables with the same names in the same order and related entries under them. -/
def Aligned (R : String → α → β → Prop) : NameTable α → NameTable β → Prop :=
  List.Forall₂ fun left right => left.1 = right.1 ∧ R left.1 left.2 right.2

namespace Aligned

variable {R : String → α → β → Prop} {left : NameTable α} {right : NameTable β}

theorem names_eq (aligned : Aligned R left right) : right.names = left.names := by
  induction aligned with
  | nil => rfl
  | cons first rest ih =>
      rw [names, names, List.map_cons, List.map_cons, first.1]
      exact congrArg _ ih

theorem of_mem (aligned : Aligned R left right) {pair : String × α} (member : pair ∈ left) :
    ∃ value, R pair.1 pair.2 value := by
  induction aligned with
  | nil => cases member
  | cons first rest ih =>
      rcases List.mem_cons.1 member with rfl | later
      · exact ⟨_, first.2⟩
      · exact ih later

theorem of_mem_right (aligned : Aligned R left right) {pair : String × β} (member : pair ∈ right) :
    ∃ entry, (pair.1, entry) ∈ left ∧ R pair.1 entry pair.2 := by
  induction aligned with
  | nil => cases member
  | @cons one other _ _ first rest ih =>
      rcases List.mem_cons.1 member with rfl | later
      · exact ⟨one.2, first.1 ▸ List.mem_cons_self, first.1 ▸ first.2⟩
      · obtain ⟨entry, found, related⟩ := ih later
        exact ⟨entry, List.mem_cons_of_mem _ found, related⟩

/-- Where the right table splits, the left one splits too. -/
theorem split_right {before after : NameTable β} {pair : String × β}
    (aligned : Aligned R left (before ++ pair :: after)) :
    ∃ front entry back, left = front ++ (pair.1, entry) :: back ∧ R pair.1 entry pair.2 ∧
      names after = names back := by
  induction before generalizing left with
  | nil =>
      cases aligned with
      | @cons one _ back _ first rest =>
          exact ⟨[], one.2, back, by rw [← first.1]; rfl, first.1 ▸ first.2,
            names_eq rest⟩
  | cons head before ih =>
      cases aligned with
      | @cons one _ _ _ first rest =>
          obtain ⟨front, entry, back, same, related, names⟩ := ih rest
          exact ⟨one :: front, entry, back, by rw [same]; rfl, related, names⟩

theorem get?_left (aligned : Aligned R left right) {name : String} {entry : α}
    (found : left.get? name = some entry) :
    ∃ value, right.get? name = some value ∧ R name entry value := by
  induction aligned with
  | nil => cases found
  | @cons one other _ _ first rest ih =>
      obtain ⟨same, related⟩ := first
      rw [get?] at found
      rw [get?]
      by_cases here : one.1 = name
      · rw [if_pos here] at found
        rw [if_pos (same.symm.trans here)]
        cases found
        exact ⟨other.2, rfl, here ▸ related⟩
      · rw [if_neg here] at found
        rw [if_neg fun there => here (same.trans there)]
        exact ih found

theorem get?_right (aligned : Aligned R left right) {name : String} {value : β}
    (found : right.get? name = some value) :
    ∃ entry, left.get? name = some entry ∧ R name entry value := by
  induction aligned with
  | nil => cases found
  | @cons one other _ _ first rest ih =>
      obtain ⟨same, related⟩ := first
      rw [get?] at found
      rw [get?]
      by_cases here : one.1 = name
      · rw [if_pos (same.symm.trans here)] at found
        rw [if_pos here]
        cases found
        exact ⟨one.2, rfl, here ▸ related⟩
      · rw [if_neg fun there => here (same.trans there)] at found
        rw [if_neg here]
        exact ih found

end Aligned

section

variable {R : String → α → β → Prop}

theorem insert_aligned {name : String} {value : α} {other : β} (related : R name value other)
    {table : NameTable α} {table' : NameTable β} (aligned : Aligned R table table') :
    Aligned R (insert name value table) (insert name other table') := by
  induction aligned with
  | nil => exact .cons ⟨rfl, related⟩ .nil
  | @cons one two _ _ first rest ih =>
      obtain ⟨key, old⟩ := one
      obtain ⟨key', old'⟩ := two
      obtain ⟨same, oldRelated⟩ := first
      dsimp only at same oldRelated
      subst same
      unfold insert
      split
      · exact .cons ⟨rfl, related⟩ (.cons ⟨rfl, oldRelated⟩ rest)
      · split
        · exact .cons ⟨rfl, related⟩ rest
        · exact .cons ⟨rfl, oldRelated⟩ ih

/-- Tables built from aligned pairs are aligned. -/
theorem ofList_aligned {pairs : List (String × α)} {pairs' : List (String × β)}
    (aligned : Aligned R pairs pairs') : Aligned R (ofList pairs) (ofList pairs') := by
  refine List.rel_foldl (fun table table' tables pair pair' related => ?_) .nil aligned
  obtain ⟨name, value⟩ := pair
  obtain ⟨name', value'⟩ := pair'
  obtain ⟨same, valuesRelated⟩ := related
  dsimp only at same valuesRelated
  subst same
  exact insert_aligned valuesRelated tables

end

/-- A table every entry of which is related to something has one aligned with it. -/
theorem exists_aligned {R : String → α → β → Prop} {table : NameTable α}
    (each : ∀ pair ∈ table, ∃ value, R pair.1 pair.2 value) : ∃ right, Aligned R table right := by
  induction table with
  | nil => exact ⟨[], .nil⟩
  | cons head rest ih =>
      obtain ⟨value, related⟩ := each head List.mem_cons_self
      obtain ⟨right, aligned⟩ := ih fun pair member => each pair (List.mem_cons_of_mem _ member)
      exact ⟨(head.1, value) :: right, .cons ⟨rfl, related⟩ aligned⟩

end ApiDiscovery.NameTable
