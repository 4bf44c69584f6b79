import ApiDiscovery.Json.Reader
import ApiDiscovery.Proofs.Json.Lexical
import Mathlib.Data.List.Forall2

/-!
# Readings side by side

Two readings agree if they stop at the same place, with related results,
wherever both of them succeed.  Lists and objects carry agreement from their
parts to themselves, whatever care is taken.  So a value ends where it ends,
whether it is kept or passed over, at every depth.
-/

namespace ApiDiscovery.Json

variable {α β : Type}

/--
Wherever both readings succeed on texts that differ in leading blanks only, they
stop at the same place with related results.
-/
def Agree (R : α → β → Prop) (left : Reader α) (right : Reader β) : Prop :=
  ∀ ⦃text text' content content' rest rest'⦄, skipSpace text = skipSpace text' →
    left text = .ok (content, rest) → right text' = .ok (content', rest') →
      R content content' ∧ rest = rest'

/-! ## Lists and objects -/

section

variable {R : α → β → Prop} {left : Reader α} {right : Reader β} {care : Care}

/-- Lists of items that are read in agreement are read in agreement. -/
theorem Agree.readItems (agree : Agree R left right) {bound bound' : Nat} {first : Bool}
    {text rest rest' : List Char} {values : List α} {values' : List β}
    (read : readItems care left bound first text = .ok (values, rest))
    (kept : readItems .kept right bound' first text = .ok (values', rest')) :
    List.Forall₂ R values values' ∧ rest = rest' := by
  induction bound generalizing bound' first text rest rest' values values' with
  | zero => cases read
  | succ bound ih =>
      rcases readItems_eq_ok read with
        ⟨closed, rfl⟩ | ⟨itemText, value, behind, others, isNext, done, later, rfl⟩
      · rcases readItems_eq_ok kept with ⟨closedToo, rfl⟩ | ⟨_, _, _, _, isNext, _, _, _⟩
        · cases nextItem_alike closed closedToo
          exact ⟨.nil, rfl⟩
        · cases nextItem_alike closed isNext
      · rcases readItems_eq_ok kept with
          ⟨closed, rfl⟩ | ⟨itemText', value', behind', others', isNextToo, doneToo, laterToo, rfl⟩
        · cases nextItem_alike isNext closed
        · obtain ⟨blanks⟩ := nextItem_alike isNext isNextToo
          obtain ⟨related, rfl⟩ := agree blanks done doneToo
          obtain ⟨more, same⟩ := ih later laterToo
          exact ⟨.cons related more, same⟩

/-- Objects of values that are read in agreement are read in agreement. -/
theorem Agree.readMembers (agree : Agree R left right) {bound bound' : Nat} {first : Bool}
    {text rest rest' : List Char} {members : List (String × α)} {members' : List (String × β)}
    (read : readMembers care (fun _ => left) bound first text = .ok (members, rest))
    (kept : readMembers .kept (fun _ => right) bound' first text = .ok (members', rest')) :
    List.Forall₂ (fun pair pair' => (care = .kept → pair.1 = pair'.1) ∧ R pair.2 pair'.2)
        members members' ∧ rest = rest' := by
  induction bound generalizing bound' first text rest rest' members members' with
  | zero => cases read
  | succ bound ih =>
      rcases readMembers_eq_ok read with
        ⟨closed, rfl⟩ | ⟨name, valueText, content, behind, others, ahead, done, later, rfl⟩
      · rcases readMembers_eq_ok kept with
          ⟨closedToo, rfl⟩ | ⟨_, _, _, _, _, ahead, _, _, _⟩
        · cases nextName_eq closed closedToo
          exact ⟨.nil, rfl⟩
        · exact absurd closed ahead.not_close
      · rcases readMembers_eq_ok kept with
          ⟨closed, rfl⟩ | ⟨name', valueText', content', behind', others', aheadToo, doneToo,
            laterToo, rfl⟩
        · exact absurd ahead (MemberAhead.not_of_close closed)
        · obtain ⟨named, rfl⟩ := ahead.alike aheadToo
          obtain ⟨related, rfl⟩ := agree rfl done doneToo
          obtain ⟨more, same⟩ := ih later laterToo
          exact ⟨.cons ⟨named, related⟩ more, same⟩

end

/-- Agreement on whole texts leaves nothing but the results to be compared. -/
theorem Agree.complete {R : α → β → Prop} {left : Reader α} {right : Reader β}
    (agree : Agree R left right) {text : List Char} {content : α} {content' : β}
    (read : complete left text = .ok content) (kept : complete right text = .ok content') :
    R content content' := by
  obtain ⟨rest, done⟩ := complete_eq_ok read
  obtain ⟨rest', doneToo⟩ := complete_eq_ok kept
  exact (agree rfl done doneToo).1

/-! ## Values -/

/-- Where two results that end alike are wrapped, the wrapped ones end alike. -/
theorem rest_eq_of_map {γ δ : Type} {result : Except Fault γ} {result' : Except Fault δ}
    {f : γ → α × List Char} {g : δ → β × List Char} {content : α} {content' : β}
    {rest rest' : List Char}
    (alike : ∀ inner inner', result = .ok inner → result' = .ok inner' → (f inner).2 = (g inner').2)
    (left : result.map f = .ok (content, rest)) (right : result'.map g = .ok (content', rest')) :
    rest = rest' := by
  obtain ⟨inner, done, same⟩ := except_map_eq_ok_iff.1 left
  obtain ⟨inner', doneToo, sameToo⟩ := except_map_eq_ok_iff.1 right
  have ends := alike inner inner' done doneToo
  rwa [same, sameToo] at ends

/-- A value to be passed over ends where it ends when it is kept. -/
theorem passOverWithin_agrees (bound levels : Nat) :
    Agree (fun _ _ => True) (passOverWithin bound) (readValue levels) := by
  -- The two readings count depth differently, so the levels of the other one stay free.
  induction bound generalizing levels with
  | zero =>
      intro text text' content content' rest rest' blanks passed kept
      cases passed
  | succ bound ih =>
      intro text text' content content' rest rest' blanks passed kept
      refine ⟨trivial, ?_⟩
      rw [passOverWithin] at passed
      rw [readValue, ← blanks] at kept
      cases ahead : skipSpace text with
      | nil =>
          rw [ahead] at passed
          cases passed
      | cons c behind =>
          rw [ahead] at passed kept
          dsimp only at passed kept
          have sameWord : ∀ {result : Except Fault (List Char)} after after',
              result = .ok after → result = .ok after' → after = after' :=
            fun _ _ done doneToo => Except.ok.inj (done.symm.trans doneToo)
          by_cases isNull : c = 'n'
          · rw [if_pos isNull] at passed kept
            exact rest_eq_of_map sameWord passed kept
          rw [if_neg isNull] at passed kept
          by_cases isTrue : c = 't'
          · rw [if_pos isTrue] at passed kept
            exact rest_eq_of_map sameWord passed kept
          rw [if_neg isTrue] at passed kept
          by_cases isFalse : c = 'f'
          · rw [if_pos isFalse] at passed kept
            exact rest_eq_of_map sameWord passed kept
          rw [if_neg isFalse] at passed kept
          by_cases isNegative : c = '-'
          · rw [if_pos isNegative] at passed kept
            refine rest_eq_of_map (fun after number done doneToo => ?_) passed kept
            exact Except.ok.inj (done.symm.trans (skipNumber_of_readNumber doneToo))
          rw [if_neg isNegative] at passed kept
          by_cases isDigit : c.isDigit
          · rw [if_pos isDigit] at passed kept
            refine rest_eq_of_map (fun after number done doneToo => ?_) passed kept
            exact Except.ok.inj (done.symm.trans (skipNumber_of_readNumber doneToo))
          rw [if_neg isDigit] at passed kept
          by_cases isString : c = '"'
          · rw [if_pos isString] at passed kept
            refine rest_eq_of_map (fun ignored string done doneToo => ?_) passed kept
            obtain ⟨other, read⟩ := readString_ignored doneToo
            exact congrArg Prod.snd (Except.ok.inj (done.symm.trans read))
          rw [if_neg isString] at passed kept
          by_cases isList : c = '['
          · rw [if_pos isList] at passed kept
            cases levels with
            | zero => cases kept
            | succ inner =>
                refine rest_eq_of_map (fun ignored items done doneToo => ?_) passed kept
                exact ((ih inner).readItems done doneToo).2
          rw [if_neg isList] at passed kept
          by_cases isObject : c = '\x7b'
          · rw [if_pos isObject] at passed kept
            cases levels with
            | zero => cases kept
            | succ inner =>
                refine rest_eq_of_map (fun ignored members done doneToo => ?_) passed kept
                exact ((ih inner).readMembers done doneToo).2
          · rw [if_neg isObject] at passed
            cases passed

/-- Passing over a value and keeping it end at the same place. -/
theorem passOver_agrees (levels : Nat) :
    Agree (fun _ _ => True) passOver (readValue levels) := by
  intro text text' content content' rest rest' blanks passed kept
  exact passOverWithin_agrees _ levels blanks passed kept

end ApiDiscovery.Json
