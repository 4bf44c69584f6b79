/-!
# Splitting and joining

Texts cut at a separator and put together again.  `splitAll` inverts
`joinWith` on pieces free of the separator; `replaceFirst` substitutes the
leftmost occurrence of a pattern only.
-/

namespace ApiDiscovery.Text

/-- The pieces between the separators, at least one. -/
def splitAll (sep : Char) : List Char → List (List Char)
  | [] => [[]]
  | c :: rest =>
      if c = sep then [] :: splitAll sep rest
      else
        match splitAll sep rest with
        | [] => [[c]]
        | piece :: pieces => (c :: piece) :: pieces

def splitFirst (sep : Char) : List Char → Option (List Char × List Char)
  | [] => none
  | c :: rest =>
      if c = sep then some ([], rest)
      else (splitFirst sep rest).map fun (before, after) => (c :: before, after)

def splitLast (sep : Char) : List Char → Option (List Char × List Char)
  | [] => none
  | c :: rest =>
      match splitLast sep rest with
      | some (before, after) => some (c :: before, after)
      | none => if c = sep then some ([], rest) else none

def joinWith (sep : List Char) : List (List Char) → List Char
  | [] => []
  | [piece] => piece
  | piece :: next :: pieces => piece ++ sep ++ joinWith sep (next :: pieces)

def dropLeading : List Char → List Char → Option (List Char)
  | [], text => some text
  | _ :: _, [] => none
  | p :: pattern, c :: text => if p = c then dropLeading pattern text else none

/-- The text with the leftmost occurrence of the pattern replaced; `none` if there is none. -/
def replaceFirst (pattern replacement : List Char) : List Char → Option (List Char)
  | [] =>
      match pattern with
      | [] => some replacement
      | _ :: _ => none
  | c :: rest =>
      match dropLeading pattern (c :: rest) with
      | some after => some (replacement ++ after)
      | none => (replaceFirst pattern replacement rest).map (c :: ·)

theorem splitAll_ne_nil (sep : Char) (text : List Char) : splitAll sep text ≠ [] := by
  cases text with
  | nil => simp [splitAll]
  | cons c rest =>
      unfold splitAll
      split
      · simp
      · split <;> simp

theorem dropLeading_eq_some {pattern text after : List Char}
    (h : dropLeading pattern text = some after) : text = pattern ++ after := by
  induction pattern generalizing text with
  | nil => simpa [dropLeading] using h
  | cons p pattern ih =>
      cases text with
      | nil => simp [dropLeading] at h
      | cons c text =>
          by_cases hp : p = c
          · simp [dropLeading, hp] at h
            simp [hp, ih h]
          · simp [dropLeading, hp] at h

end ApiDiscovery.Text
