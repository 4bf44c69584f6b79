import ApiDiscovery.Text.Pieces
import Mathlib.Data.List.Infix

/-!
# Pieces between separators

Cutting a text at every separator is undone by joining with it, and undoes it
for pieces free of the separator; so a text has one such list of pieces.
Cutting at the first or the last separator only gives a piece free of it and
all the rest.  A pattern is not found before its first character occurs.
-/

namespace ApiDiscovery.Text

variable {sep : Char}

/-! ## All separators -/

theorem splitAll_of_not_mem {text : List Char} (free : sep ∉ text) :
    splitAll sep text = [text] := by
  induction text with
  | nil => rfl
  | cons c rest ih =>
      rw [List.mem_cons, not_or] at free
      rw [splitAll, if_neg (Ne.symm free.1), ih free.2]

theorem splitAll_append {before : List Char} (free : sep ∉ before) (after : List Char) :
    splitAll sep (before ++ sep :: after) = before :: splitAll sep after := by
  induction before with
  | nil => rw [List.nil_append, splitAll, if_pos rfl]
  | cons c rest ih =>
      rw [List.mem_cons, not_or] at free
      rw [List.cons_append, splitAll, if_neg (Ne.symm free.1), ih free.2]

/-- Pieces free of the separator are found again between the separators. -/
theorem splitAll_intercalate {pieces : List (List Char)} (some_piece : pieces ≠ [])
    (free : ∀ piece ∈ pieces, sep ∉ piece) :
    splitAll sep (List.intercalate [sep] pieces) = pieces := by
  induction pieces with
  | nil => exact absurd rfl some_piece
  | cons piece pieces ih =>
      have first := free piece List.mem_cons_self
      cases pieces with
      | nil => rw [List.intercalate_singleton, splitAll_of_not_mem first]
      | cons next pieces =>
          have rest := ih (List.cons_ne_nil _ _) fun other member =>
            free other (List.mem_cons_of_mem _ member)
          rw [List.intercalate_cons_cons, List.append_assoc, List.singleton_append,
            splitAll_append first, rest]

/-- The pieces between the separators, joined again, are the text. -/
theorem intercalate_splitAll (text : List Char) :
    List.intercalate [sep] (splitAll sep text) = text := by
  induction text with
  | nil => rfl
  | cons c rest ih =>
      have cut := splitAll_ne_nil sep rest
      rw [splitAll]
      split
      · next same =>
          obtain ⟨piece, pieces, found⟩ := List.exists_cons_of_ne_nil cut
          rw [found] at ih ⊢
          rw [List.intercalate_cons_cons, ih, same]
          rfl
      · split
        · next none => exact absurd none cut
        · next piece pieces found =>
            rw [found] at ih
            cases pieces with
            | nil =>
                rw [List.intercalate_singleton] at ih ⊢
                rw [ih]
            | cons next pieces =>
                rw [List.intercalate_cons_cons] at ih ⊢
                rw [List.cons_append, List.cons_append, ih]

theorem not_mem_of_mem_splitAll {text piece : List Char} (member : piece ∈ splitAll sep text) :
    sep ∉ piece := by
  induction text generalizing piece with
  | nil =>
      rw [splitAll, List.mem_singleton] at member
      rw [member]
      exact List.not_mem_nil
  | cons c rest ih =>
      rw [splitAll] at member
      split at member
      · rcases List.mem_cons.1 member with rfl | later
        · exact List.not_mem_nil
        · exact ih later
      · next different =>
          split at member
          · next none => exact absurd none (splitAll_ne_nil sep rest)
          · next first pieces found =>
              rcases List.mem_cons.1 member with rfl | later
              · rw [List.mem_cons, not_or]
                exact ⟨Ne.symm different, ih (found ▸ List.mem_cons_self)⟩
              · exact ih (found ▸ List.mem_cons_of_mem _ later)

theorem joinWith_eq_intercalate (sep : List Char) (pieces : List (List Char)) :
    joinWith sep pieces = List.intercalate sep pieces := by
  induction pieces with
  | nil => rfl
  | cons piece pieces ih =>
      cases pieces with
      | nil => rw [joinWith, List.intercalate_singleton]
      | cons next pieces => rw [joinWith, ih, List.intercalate_cons_cons]

/-! ## One separator -/

theorem splitFirst_eq_none_iff {text : List Char} : splitFirst sep text = none ↔ sep ∉ text := by
  induction text with
  | nil => simp [splitFirst]
  | cons c rest ih =>
      rw [splitFirst, List.mem_cons, not_or]
      split
      · next same => simp [same]
      · next different => simp [ih, Ne.symm different]

theorem splitFirst_append {before : List Char} (free : sep ∉ before) (after : List Char) :
    splitFirst sep (before ++ sep :: after) = some (before, after) := by
  induction before with
  | nil => rw [List.nil_append, splitFirst, if_pos rfl]
  | cons c rest ih =>
      rw [List.mem_cons, not_or] at free
      rw [List.cons_append, splitFirst, if_neg (Ne.symm free.1), ih free.2]
      rfl

theorem splitLast_eq_none_iff {text : List Char} : splitLast sep text = none ↔ sep ∉ text := by
  induction text with
  | nil => simp [splitLast]
  | cons c rest ih =>
      rw [splitLast, List.mem_cons, not_or]
      cases found : splitLast sep rest with
      | some cut =>
          have member : sep ∈ rest := Classical.not_not.1 fun free => by
            rw [ih.2 free] at found
            cases found
          simp [member]
      | none => simp [ih.1 found, eq_comm]

theorem splitLast_append (before : List Char) {after : List Char} (free : sep ∉ after) :
    splitLast sep (before ++ sep :: after) = some (before, after) := by
  induction before with
  | nil =>
      rw [List.nil_append, splitLast, splitLast_eq_none_iff.2 free]
      exact if_pos rfl
  | cons c rest ih => rw [List.cons_append, splitLast, ih]

/-! ## Patterns -/

theorem dropLeading_append (pattern after : List Char) :
    dropLeading pattern (pattern ++ after) = some after := by
  induction pattern with
  | nil => rfl
  | cons p pattern ih => rw [List.cons_append, dropLeading, if_pos rfl, ih]

theorem dropLeading_eq_none_iff {pattern text : List Char} :
    dropLeading pattern text = none ↔ ¬ pattern <+: text := by
  constructor
  · rintro missed ⟨after, rfl⟩
    rw [dropLeading_append] at missed
    cases missed
  · intro no_prefix
    cases found : dropLeading pattern text with
    | none => rfl
    | some after => exact absurd ⟨after, (dropLeading_eq_some found).symm⟩ no_prefix

/-- A pattern is replaced exactly if the text holds it somewhere. -/
theorem replaceFirst_eq_none_iff {pattern replacement text : List Char} :
    replaceFirst pattern replacement text = none ↔ ¬ pattern <:+: text := by
  induction text with
  | nil =>
      cases pattern with
      | nil => simp [replaceFirst]
      | cons p pattern => simp [replaceFirst]
  | cons c rest ih =>
      rw [replaceFirst, List.infix_cons_iff, not_or, ← dropLeading_eq_none_iff, ← ih]
      cases dropLeading pattern (c :: rest) with
      | none => simp
      | some after => simp

/-- Up to a closing character two texts without it have to be the same. -/
theorem dropLeading_closed_of_ne {close : Char} {pattern text : List Char}
    (patternFree : close ∉ pattern) (textFree : close ∉ text) (different : pattern ≠ text)
    (after : List Char) : dropLeading (pattern ++ [close]) (text ++ close :: after) = none := by
  induction pattern generalizing text with
  | nil =>
      obtain ⟨c, rest, rfl⟩ := List.exists_cons_of_ne_nil (Ne.symm different)
      exact if_neg (List.ne_of_not_mem_cons textFree)
  | cons p pattern ih =>
      rw [List.mem_cons, not_or] at patternFree
      cases text with
      | nil => exact if_neg (Ne.symm patternFree.1)
      | cons c text =>
          rw [List.cons_append, List.cons_append, dropLeading]
          split
          · next same =>
              refine ih patternFree.2 (List.not_mem_of_not_mem_cons textFree) ?_
              rintro rfl
              exact different (by rw [same])
          · rfl

theorem replaceFirst_append_left {pattern : List Char} (some_pattern : pattern ≠ [])
    (replacement after : List Char) :
    replaceFirst pattern replacement (pattern ++ after) = some (replacement ++ after) := by
  obtain ⟨p, pattern, rfl⟩ := List.exists_cons_of_ne_nil some_pattern
  rw [List.cons_append, replaceFirst, ← List.cons_append, dropLeading_append]

/-- Text free of the first character of a pattern is passed over. -/
theorem replaceFirst_append_right {p : Char} {before : List Char} (free : p ∉ before)
    (pattern replacement after : List Char) :
    replaceFirst (p :: pattern) replacement (before ++ after) =
      (replaceFirst (p :: pattern) replacement after).map (before ++ ·) := by
  induction before with
  | nil => simp
  | cons c before ih =>
      rw [List.mem_cons, not_or] at free
      rw [List.cons_append, replaceFirst, dropLeading, if_neg free.1, ih free.2, Option.map_map]
      rfl

theorem mem_of_replaceFirst {pattern replacement text changed : List Char}
    (replaced : replaceFirst pattern replacement text = some changed) {c : Char}
    (member : c ∈ changed) : c ∈ replacement ∨ c ∈ text := by
  induction text generalizing changed with
  | nil =>
      cases pattern with
      | nil =>
          cases replaced
          exact .inl member
      | cons p pattern => cases replaced
  | cons d rest ih =>
      rw [replaceFirst] at replaced
      split at replaced
      · next after found =>
          cases replaced
          rw [dropLeading_eq_some found]
          exact (List.mem_append.1 member).imp_right fun inside => List.mem_append_right _ inside
      · obtain ⟨inner, innerReplaced, rfl⟩ := Option.map_eq_some_iff.1 replaced
        rcases List.mem_cons.1 member with rfl | inside
        · exact .inr List.mem_cons_self
        · exact (ih innerReplaced inside).imp_right (List.mem_cons_of_mem _)

end ApiDiscovery.Text
