import ApiDiscovery.Proofs.Method.Template

/-!
# Filling placeholders

A template with a value put in takes the value into the leftmost empty
placeholder of its name and is as it was if there is none.  Values of different
names do not meet, and which names still have an empty placeholder does not
change with a value of another name.
-/

namespace ApiDiscovery

namespace Slot

/-- The slots with the leftmost empty one of a name filled, if there is one. -/
def put (name : String) (value : List Char) (slots : List Slot) : List Slot :=
  (fillFirst name value slots).getD slots

theorem put_cons (name : String) (value : List Char) (slot : Slot) (slots : List Slot) :
    put name value (slot :: slots) =
      if slot.name = name ∧ slot.value = none then { slot with value := some value } :: slots
      else slot :: put name value slots := by
  rw [put, fillFirst]
  split
  · rfl
  · rw [put]
    cases fillFirst name value slots <;> rfl

/-- Values of different names do not meet. -/
theorem put_comm {name other : String} (different : name ≠ other) (value value' : List Char)
    (slots : List Slot) :
    put other value' (put name value slots) = put name value (put other value' slots) := by
  induction slots with
  | nil => rfl
  | cons slot slots ih =>
      rw [put_cons, put_cons other]
      by_cases mine : slot.name = name ∧ slot.value = none
      · have notYours : ¬ (slot.name = other ∧ slot.value = none) := fun yours =>
          different (mine.1.symm.trans yours.1)
        have notYoursToo : ¬ (slot.name = other ∧ some value = none) := fun yours =>
          notYours ⟨yours.1, mine.2⟩
        rw [if_pos mine, if_neg notYours, put_cons, put_cons, if_neg notYoursToo, if_pos mine]
      · rw [if_neg mine]
        by_cases yours : slot.name = other ∧ slot.value = none
        · have notMine : ¬ (slot.name = name ∧ some value' = none) := fun held => nomatch held.2
          rw [if_pos yours, put_cons, put_cons, if_pos yours, if_neg notMine]
        · rw [if_neg yours, put_cons, put_cons, if_neg yours, if_neg mine, ih]

/-- A value finds a slot exactly if an empty one of its name is left. -/
theorem fillFirst_eq_none_iff {name : String} {value : List Char} {slots : List Slot} :
    fillFirst name value slots = none ↔ (name, false) ∉ outline slots := by
  induction slots with
  | nil => simp [fillFirst, outline]
  | cons slot slots ih =>
      have outline_cons : outline (slot :: slots) =
          (slot.name, slot.value.isSome) :: outline slots := rfl
      rw [fillFirst, outline_cons, List.mem_cons, not_or, ← ih, Prod.mk.injEq]
      by_cases fits : slot.name = name ∧ slot.value = none
      · simp [fits]
      · have apart : ¬ (name = slot.name ∧ false = slot.value.isSome) := by
          rintro ⟨rfl, empty⟩
          exact fits ⟨rfl, by simpa using empty.symm⟩
        rw [if_neg fits, Option.map_eq_none_iff, and_iff_right apart]

theorem mem_mark_iff {name other : String} (different : name ≠ other)
    {slots : List (String × Bool)} : (name, false) ∈ mark other slots ↔ (name, false) ∈ slots := by
  induction slots with
  | nil => rfl
  | cons slot slots ih =>
      obtain ⟨held, filled⟩ := slot
      rw [mark]
      split
      · next fits =>
          have apart : (name, false) ≠ (held, filled) := fun same =>
            different ((congrArg Prod.fst same).trans fits.1)
          simp [apart]
      · rw [List.mem_cons, List.mem_cons, ih]

end Slot

namespace PathTemplate

/-- The names of the placeholders, as often as they occur. -/
def names (template : PathTemplate) : List String := template.slots.map Slot.name

def put (template : PathTemplate) (name : String) (value : List Char) : PathTemplate :=
  { template with slots := Slot.put name value template.slots }

theorem put_comm (template : PathTemplate) {name other : String} (different : name ≠ other)
    (value value' : List Char) :
    (template.put name value).put other value' = (template.put other value').put name value := by
  rw [put, put, put, put, Slot.put_comm different]

/-- A placeholder of a path as it is documented is empty. -/
theorem Documents.mem_outline_iff {template : PathTemplate} {path : List Char}
    (documented : template.Documents path) {name : String} :
    (name, false) ∈ Slot.outline template.slots ↔ name ∈ template.names := by
  rw [Slot.outline, names, List.mem_map, List.mem_map]
  constructor
  · rintro ⟨slot, member, same⟩
    exact ⟨slot, member, congrArg Prod.fst same⟩
  · rintro ⟨slot, member, rfl⟩
    exact ⟨slot, member, by rw [documented.unfilled slot member]; rfl⟩

end PathTemplate

namespace Assembly

theorem template_give (assembly : Assembly) (name : String) (argument : Json) :
    (assembly.give name argument).template =
      assembly.template.put name (Text.Percent.encode (ApiMethod.argumentText argument)) := by
  rw [give, PathTemplate.put, Slot.put, PathTemplate.fill]
  cases Slot.fillFirst name (Text.Percent.encode (ApiMethod.argumentText argument))
      assembly.template.slots with
  | none => rfl
  | some slots => rfl

theorem template_giveAll (assembly : Assembly) (arguments : List (String × Json)) :
    (assembly.giveAll arguments).template =
      arguments.foldl (fun template (name, argument) =>
        template.put name (Text.Percent.encode (ApiMethod.argumentText argument)))
        assembly.template := by
  induction arguments generalizing assembly with
  | nil => rfl
  | cons pair arguments ih =>
      rw [List.foldl_cons]
      dsimp only
      rw [← template_give]
      exact ih _

end Assembly

end ApiDiscovery
