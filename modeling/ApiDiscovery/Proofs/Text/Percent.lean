import ApiDiscovery.Proofs.Text.Utf8
import ApiDiscovery.Text.Percent

/-!
# Percent-encoded texts

An encoded text consists of characters that need no encoding and of percent
signs, so that no delimiter of an address occurs in it.  Decoding undoes
encoding: a triple spells its octet, and the triples of a text its octets.
-/

namespace ApiDiscovery.Text.Percent

/-! ## Digits -/

theorem digitValue?_upperDigit {n : Nat} (small : n < 16) :
    digitValue? (upperDigit n) = some n := by
  revert n
  decide

theorem isUnreserved_upperDigit {n : Nat} (small : n < 16) :
    isUnreserved (upperDigit n) = true := by
  revert n
  decide

theorem mem_triple {octet : UInt8} {c : Char} (member : c ∈ triple octet) :
    isUnreserved c = true ∨ c = '%' := by
  have bounded : octet.toNat < 256 := octet.toNat_lt
  rw [triple] at member
  rcases List.mem_cons.1 member with rfl | digit
  · exact .inr rfl
  · rcases List.mem_cons.1 digit with rfl | last
    · exact .inl (isUnreserved_upperDigit (by omega))
    · rw [List.mem_singleton.1 last]
      exact .inl (isUnreserved_upperDigit (by omega))

/-! ## Encoded texts -/

theorem mem_encode {text : List Char} {c : Char} (member : c ∈ encode text) :
    isUnreserved c = true ∨ c = '%' := by
  obtain ⟨plain, _, inside⟩ := List.mem_flatMap.1 member
  rw [encodeChar] at inside
  split at inside
  · next unreserved =>
      rw [List.mem_singleton.1 inside]
      exact .inl unreserved
  · obtain ⟨octet, _, inTriple⟩ := List.mem_flatMap.1 inside
    exact mem_triple inTriple

/-- A character that needs encoding does not occur in an encoded text. -/
theorem not_mem_encode {c : Char} (reserved : isUnreserved c = false) (other : c ≠ '%')
    (text : List Char) : c ∉ encode text := by
  intro member
  rcases mem_encode member with unreserved | percent
  · rw [reserved] at unreserved
    cases unreserved
  · exact other percent

/-- A text that needs no encoding is its own encoding. -/
theorem encode_of_isUnreserved {text : List Char}
    (unreserved : ∀ c ∈ text, isUnreserved c = true) : encode text = text := by
  induction text with
  | nil => rfl
  | cons c text ih =>
      obtain ⟨first, others⟩ := List.forall_mem_cons.1 unreserved
      have behind := ih others
      rw [encode] at behind ⊢
      rw [List.flatMap_cons, encodeChar, if_pos first, behind, List.singleton_append]

theorem percent_mem_encodeChar {c : Char} (reserved : isUnreserved c = false) :
    '%' ∈ encodeChar c := by
  have nonempty : String.utf8EncodeChar c ≠ [] := String.utf8EncodeChar_ne_nil
  obtain ⟨octet, octets, spelled⟩ := List.exists_cons_of_ne_nil nonempty
  rw [encodeChar, if_neg (by simp [reserved]), spelled, List.flatMap_cons, triple]
  exact List.mem_cons_self

/-- An encoded text without a percent sign is the text itself. -/
theorem encode_of_not_mem {text : List Char} (free : '%' ∉ encode text) : encode text = text := by
  refine encode_of_isUnreserved fun c member => ?_
  cases reserved : isUnreserved c with
  | true => rfl
  | false =>
      exact absurd (List.mem_flatMap.2 ⟨c, member, percent_mem_encodeChar reserved⟩) free

/-! ## Decoding -/

theorem octets_cons_of_ne {c : Char} (other : c ≠ '%') (rest : List Char) :
    octets (c :: rest) = String.utf8EncodeChar c ++ octets rest := by
  rw [octets]
  intro _ _ _ percent
  exact absurd percent other

/-- A triple spells its octet. -/
theorem octets_triple_append (octet : UInt8) (rest : List Char) :
    octets (triple octet ++ rest) = octet :: octets rest := by
  have bounded : octet.toNat < 256 := octet.toNat_lt
  have whole : 16 * (octet.toNat / 16) + octet.toNat % 16 = octet.toNat := by omega
  simp only [triple, List.cons_append, List.nil_append]
  rw [octets, digitValue?_upperDigit (by omega), digitValue?_upperDigit (by omega)]
  dsimp only
  rw [whole, UInt8.ofNat_toNat]

theorem octets_triples_append (spelled : List UInt8) (rest : List Char) :
    octets (spelled.flatMap triple ++ rest) = spelled ++ octets rest := by
  induction spelled with
  | nil => rfl
  | cons octet spelled ih =>
      rw [List.flatMap_cons, List.append_assoc, octets_triple_append, ih, List.cons_append]

/-- An encoded character spells the octets of the character. -/
theorem octets_encodeChar_append (c : Char) (rest : List Char) :
    octets (encodeChar c ++ rest) = String.utf8EncodeChar c ++ octets rest := by
  rw [encodeChar]
  split
  · next unreserved =>
      have other : c ≠ '%' := by
        rintro rfl
        exact absurd unreserved (by decide)
      exact octets_cons_of_ne other rest
  · exact octets_triples_append _ rest

theorem octets_encode_append (text rest : List Char) :
    octets (encode text ++ rest) = Utf8.encode text ++ octets rest := by
  induction text with
  | nil => rfl
  | cons c text ih =>
      rw [encode] at ih ⊢
      rw [List.flatMap_cons, List.append_assoc, octets_encodeChar_append, ih, Utf8.encode,
        Utf8.encode, List.flatMap_cons, List.append_assoc]

theorem octets_encode (text : List Char) : octets (encode text) = Utf8.encode text := by
  have whole := octets_encode_append text []
  rwa [List.append_nil, octets, List.append_nil] at whole

/-- Every text is read back from its encoding. -/
theorem decode_encode (text : List Char) : decode (encode text) = some text := by
  rw [decode, octets_encode, Utf8.decode_encode]

end ApiDiscovery.Text.Percent
