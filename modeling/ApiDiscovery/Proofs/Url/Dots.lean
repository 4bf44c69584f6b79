import ApiDiscovery.Proofs.Text.Percent
import ApiDiscovery.Url.Basic
import Mathlib.Data.List.Infix

/-!
# Dot segments

However a dot segment is spelled, decoding it gives one dot or two.  Resolving
the dots of a path looks at nothing of a segment but whether it is one of these,
so two paths whose segments agree on that keep the same segments.
-/

namespace ApiDiscovery.Url

open Text

/-- A segment that resolving takes away, in any of its spellings. -/
def IsDotSegment (segment : List Char) : Prop := isHere segment = true ∨ isUp segment = true

instance (segment : List Char) : Decidable (IsDotSegment segment) :=
  inferInstanceAs (Decidable (_ ∨ _))

/-! ## Spellings -/

theorem toNat_toLower (c : Char) :
    c.toLower.toNat = if 65 ≤ c.toNat ∧ c.toNat ≤ 90 then c.toNat + 32 else c.toNat := by
  have bounds : c.val ≥ 'A'.val ∧ c.val ≤ 'Z'.val ↔ 65 ≤ c.toNat ∧ c.toNat ≤ 90 := Iff.rfl
  by_cases capital : 65 ≤ c.toNat ∧ c.toNat ≤ 90
  · have sum : (c.val + 32).toNat = (c.val.toNat + 32) % 2 ^ 32 := UInt32.toNat_add ..
    have small : (c.val.toNat + 32) % 2 ^ 32 = c.val.toNat + 32 := by
      have bound : c.val.toNat ≤ 90 := capital.2
      omega
    have changed : c.toLower.val = c.val + 32 :=
      congrArg Char.val (dif_pos (bounds.2 capital))
    rw [if_pos capital, Char.toNat, changed]
    exact sum.trans small
  · have unchanged : c.toLower = c := dif_neg (mt bounds.1 capital)
    rw [if_neg capital, unchanged]

/-- Only a capital letter changes when it is made small. -/
theorem eq_of_toLower_eq {c d : Char} (lower : c.toLower = d) (other : d.toNat < 97) : c = d := by
  have code := toNat_toLower c
  rw [lower] at code
  split at code
  · omega
  · exact (Char.toNat_inj.1 code).symm

theorem digitValue?_of_toLower_eq_e {c : Char} (lower : c.toLower = 'e') :
    Percent.digitValue? c = some 14 := by
  have code : 101 = if 65 ≤ c.toNat ∧ c.toNat ≤ 90 then c.toNat + 32 else c.toNat := by
    rw [← toNat_toLower, lower]
    rfl
  split at code
  · have capital : c = 'E' := Char.toNat_inj.1 (show c.toNat = 69 by omega)
    rw [capital]
    rfl
  · have small : c = 'e' := Char.toNat_inj.1 code.symm
    rw [small]
    rfl

/-- A dot in the small form of a text is a dot of the text. -/
theorem octets_of_dot {text form : List Char} (small : text.map Char.toLower = '.' :: form) :
    ∃ rest, rest.map Char.toLower = form ∧
      Percent.octets text = 0x2E :: Percent.octets rest := by
  obtain ⟨c, rest, rfl, dot, behind⟩ := List.map_eq_cons_iff.1 small
  have same : c = '.' := eq_of_toLower_eq dot (by decide)
  refine ⟨rest, behind, ?_⟩
  rw [same, Percent.octets_cons_of_ne (by decide)]
  rfl

/-- A dot written as a triple, with a letter of either case, decodes to a dot. -/
theorem octets_of_triple {text form : List Char}
    (small : text.map Char.toLower = '%' :: '2' :: 'e' :: form) :
    ∃ rest, rest.map Char.toLower = form ∧
      Percent.octets text = 0x2E :: Percent.octets rest := by
  obtain ⟨c, behindSign, rfl, sign, small⟩ := List.map_eq_cons_iff.1 small
  obtain ⟨high, behindHigh, rfl, two, small⟩ := List.map_eq_cons_iff.1 small
  obtain ⟨low, rest, rfl, letter, behind⟩ := List.map_eq_cons_iff.1 small
  have isSign : c = '%' := eq_of_toLower_eq sign (by decide)
  have isTwo : high = '2' := eq_of_toLower_eq two (by decide)
  subst isSign isTwo
  refine ⟨rest, behind, ?_⟩
  rw [Percent.octets, digitValue?_of_toLower_eq_e letter]
  rfl

theorem octets_of_nothing {text : List Char} (small : text.map Char.toLower = []) :
    Percent.octets text = [] := by
  rw [List.map_eq_nil_iff.1 small]
  rfl

/-- Every spelling of the segment that stays decodes to one dot. -/
theorem octets_of_isHere {segment : List Char} (here : isHere segment = true) :
    Percent.octets segment = [0x2E] := by
  simp only [isHere, List.any_cons, List.any_nil, Bool.or_false, Bool.or_eq_true,
    beq_iff_eq] at here
  rcases here with form | form
  · obtain ⟨rest, behind, dot⟩ := octets_of_dot form.symm
    rw [dot, octets_of_nothing behind]
  · obtain ⟨rest, behind, dot⟩ := octets_of_triple form.symm
    rw [dot, octets_of_nothing behind]

/-- Every spelling of the segment that goes up decodes to two dots. -/
theorem octets_of_isUp {segment : List Char} (up : isUp segment = true) :
    Percent.octets segment = [0x2E, 0x2E] := by
  simp only [isUp, List.any_cons, List.any_nil, Bool.or_false, Bool.or_eq_true,
    beq_iff_eq] at up
  rcases up with form | form | form | form
  · obtain ⟨_, form, first⟩ := octets_of_dot form.symm
    obtain ⟨_, form, second⟩ := octets_of_dot form
    rw [first, second, octets_of_nothing form]
  · obtain ⟨_, form, first⟩ := octets_of_dot form.symm
    obtain ⟨_, form, second⟩ := octets_of_triple form
    rw [first, second, octets_of_nothing form]
  · obtain ⟨_, form, first⟩ := octets_of_triple form.symm
    obtain ⟨_, form, second⟩ := octets_of_dot form
    rw [first, second, octets_of_nothing form]
  · obtain ⟨_, form, first⟩ := octets_of_triple form.symm
    obtain ⟨_, form, second⟩ := octets_of_triple form
    rw [first, second, octets_of_nothing form]

/-- A dot segment is spelled with these characters alone. -/
theorem toLower_mem_of_isDotSegment {segment : List Char} (dots : IsDotSegment segment) {c : Char}
    (member : c ∈ segment) : c.toLower ∈ "%.2e".toList := by
  have small : c.toLower ∈ segment.map Char.toLower := List.mem_map_of_mem member
  rcases dots with here | up
  · obtain ⟨form, listed, same⟩ := List.any_eq_true.1 here
    have spelled : ∀ form ∈ [".", "%2e"], form.toList ⊆ "%.2e".toList := by decide
    exact spelled form listed (beq_iff_eq.1 same ▸ small)
  · obtain ⟨form, listed, same⟩ := List.any_eq_true.1 up
    have spelled : ∀ form ∈ ["..", ".%2e", "%2e.", "%2e%2e"], form.toList ⊆ "%.2e".toList := by
      decide
    exact spelled form listed (beq_iff_eq.1 same ▸ small)

/-! ## Resolving side by side -/

section

variable {α : Type} {mine yours : α → List Char} {known : List α} {done : List (List Char)}

/-- Behind a common front the two lists hold the same known items, each list in its own form. -/
def HoldSame (mine yours : α → List Char) (known : List α) (done first second : List (List Char)) :
    Prop :=
  ∃ (front : List (List Char)) (kept : List α), front <+: done ∧ (∀ item ∈ kept, item ∈ known) ∧
    first = front ++ kept.map mine ∧ second = front ++ kept.map yours

variable {first second : List (List Char)} {item blank : α}

theorem HoldSame.dropLast (same : HoldSame mine yours known done first second) :
    HoldSame mine yours known done first.dropLast second.dropLast := by
  obtain ⟨front, kept, common, held, rfl, rfl⟩ := same
  rcases List.eq_nil_or_concat' kept with rfl | ⟨others, last, rfl⟩
  -- With nothing kept the step up takes from the front, which both lists have.
  · exact ⟨front.dropLast, [], (List.dropLast_prefix front).trans common,
      List.forall_mem_nil _, by simp, by simp⟩
  · refine ⟨front, others, common, ?_, ?_, ?_⟩
    · exact fun item member => held item (List.mem_append_left _ member)
    · simp [← List.append_assoc]
    · simp [← List.append_assoc]

theorem HoldSame.concat (same : HoldSame mine yours known done first second)
    (member : item ∈ known) :
    HoldSame mine yours known done (first ++ [mine item]) (second ++ [yours item]) := by
  obtain ⟨front, kept, common, held, rfl, rfl⟩ := same
  refine ⟨front, kept ++ [item], common, ?_, by simp, by simp⟩
  intro other given
  rcases List.mem_append.1 given with old | new
  · exact held other old
  · rw [List.mem_singleton.1 new]
    exact member

def resolveStep (done : List (List Char)) (segment : List Char) : List (List Char) :=
  if isUp segment then done.dropLast else if isHere segment then done else done ++ [segment]

theorem resolveDots_cons (done : List (List Char)) (segment : List Char)
    (rest : List (List Char)) :
    resolveDots done (segment :: rest) =
      if rest.isEmpty && (isUp segment || isHere segment) then resolveStep done segment ++ [[]]
      else resolveDots (resolveStep done segment) rest := rfl

theorem HoldSame.resolveStep (same : HoldSame mine yours known done first second)
    (member : item ∈ known) (up : isUp (mine item) = isUp (yours item))
    (here : isHere (mine item) = isHere (yours item)) :
    HoldSame mine yours known done (resolveStep first (mine item))
      (resolveStep second (yours item)) := by
  rw [Url.resolveStep, Url.resolveStep, up, here]
  split
  · exact same.dropLast
  · split
    · exact same
    · exact same.concat member

/-- Segments that agree on which of them are dots resolve to the same segments. -/
theorem HoldSame.resolveDots {items : List α}
    (same : HoldSame mine yours known done first second)
    (members : ∀ item ∈ items, item ∈ known) (blankKnown : blank ∈ known)
    (blankMine : mine blank = []) (blankYours : yours blank = [])
    (agree : ∀ item ∈ items, isUp (mine item) = isUp (yours item) ∧
      isHere (mine item) = isHere (yours item)) :
    HoldSame mine yours known done (resolveDots first (items.map mine))
      (resolveDots second (items.map yours)) := by
  induction items generalizing first second with
  | nil => exact same
  | cons item items ih =>
      obtain ⟨member, others⟩ := List.forall_mem_cons.1 members
      obtain ⟨⟨up, here⟩, agreeBehind⟩ := List.forall_mem_cons.1 agree
      have next := same.resolveStep member up here
      rw [List.map_cons, List.map_cons, resolveDots_cons, resolveDots_cons, up, here]
      simp only [List.isEmpty_map]
      split
      · have closed := next.concat blankKnown
        rwa [blankMine, blankYours] at closed
      · exact ih next others agreeBehind

end

end ApiDiscovery.Url
