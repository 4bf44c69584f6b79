import ApiDiscovery.Text.Utf8

/-!
# Decoding undoes encoding

The octets of a text are read back as the text, by the strict reading and by the
one that replaces: what encodes one character takes the machine from between
characters to between characters and leaves just that character behind.
-/

namespace ApiDiscovery.Text.Utf8

/-! ## One octet -/

theorem pieces_ofNat_cons (state : Option Pending) {octet : Nat} (small : octet < 256)
    (rest : List UInt8) :
    pieces state (UInt8.ofNat octet :: rest) =
      (step state octet).1 ++ pieces (step state octet).2 rest := by
  rw [pieces, UInt8.toNat_ofNat_of_lt' small]

/-- An octet that adds a digit while more of them are owed. -/
theorem pieces_digit {gathered owed low high digit : Nat} (small : digit < 64)
    (above : low ≤ digit + 0x80) (below : digit + 0x80 ≤ high) (rest : List UInt8) :
    pieces (some ⟨gathered, owed + 1, low, high⟩) (UInt8.ofNat (digit + 0x80) :: rest) =
      pieces (some ⟨gathered * 64 + digit, owed, 0x80, 0xBF⟩) rest := by
  have value : (digit + 0x80) % 64 = digit := by omega
  rw [pieces_ofNat_cons _ (by omega), step, if_pos ⟨above, below⟩]
  dsimp only
  rw [value, List.nil_append]

/-- An octet that adds the last digit. -/
theorem pieces_last_digit {gathered low high digit : Nat} (small : digit < 64)
    (above : low ≤ digit + 0x80) (below : digit + 0x80 ≤ high) (rest : List UInt8) :
    pieces (some ⟨gathered, 0, low, high⟩) (UInt8.ofNat (digit + 0x80) :: rest) =
      some (Char.ofNat (gathered * 64 + digit)) :: pieces none rest := by
  have value : (digit + 0x80) % 64 = digit := by omega
  rw [pieces_ofNat_cons _ (by omega), step, if_pos ⟨above, below⟩]
  dsimp only
  rw [value, List.singleton_append]

/-- An octet that begins a character and finishes it. -/
theorem pieces_single {n : Nat} (small : n < 0x80) (rest : List UInt8) :
    pieces none (UInt8.ofNat n :: rest) = some (Char.ofNat n) :: pieces none rest := by
  rw [pieces_ofNat_cons _ (by omega), step, opening, first, if_pos small]
  rfl

theorem pieces_first_of_two {lead : Nat} (least : 2 ≤ lead) (small : lead < 32)
    (rest : List UInt8) :
    pieces none (UInt8.ofNat (lead + 0xC0) :: rest) =
      pieces (some ⟨lead, 0, 0x80, 0xBF⟩) rest := by
  rw [pieces_ofNat_cons _ (by omega), step, opening, first, if_neg (by omega),
    if_neg (by omega), if_pos (by omega), Nat.add_sub_cancel]
  rfl

theorem pieces_first_of_three {lead : Nat} (small : lead < 16) (rest : List UInt8) :
    pieces none (UInt8.ofNat (lead + 0xE0) :: rest) =
      pieces (some ⟨lead, 1, if lead = 0 then 0xA0 else 0x80,
        if lead = 13 then 0x9F else 0xBF⟩) rest := by
  rw [pieces_ofNat_cons _ (by omega), step, opening, first, if_neg (by omega),
    if_neg (by omega), if_neg (by omega), if_pos (by omega), Nat.add_sub_cancel]
  have least : lead + 0xE0 = 0xE0 ↔ lead = 0 := by omega
  have surrogate : lead + 0xE0 = 0xED ↔ lead = 13 := by omega
  simp only [least, surrogate]
  rfl

theorem pieces_first_of_four {lead : Nat} (small : lead < 5) (rest : List UInt8) :
    pieces none (UInt8.ofNat (lead + 0xF0) :: rest) =
      pieces (some ⟨lead, 2, if lead = 0 then 0x90 else 0x80,
        if lead = 4 then 0x8F else 0xBF⟩) rest := by
  rw [pieces_ofNat_cons _ (by omega), step, opening, first, if_neg (by omega),
    if_neg (by omega), if_neg (by omega), if_neg (by omega), if_pos (by omega), Nat.add_sub_cancel]
  have least : lead + 0xF0 = 0xF0 ↔ lead = 0 := by omega
  have greatest : lead + 0xF0 = 0xF4 ↔ lead = 4 := by omega
  simp only [least, greatest]
  rfl

/-! ## One character, and a text -/

/-- The octets of a character leave the character behind. -/
theorem pieces_utf8EncodeChar (c : Char) (rest : List UInt8) :
    pieces none (String.utf8EncodeChar c ++ rest) = some c :: pieces none rest := by
  have same : Char.ofNat c.val.toNat = c := Char.ofNat_toNat c
  have valid : c.val.toNat < 0xD800 ∨ 0xDFFF < c.val.toNat ∧ c.val.toNat < 0x110000 := c.valid
  unfold String.utf8EncodeChar
  generalize c.val.toNat = n at *
  dsimp only
  -- one case for each number of octets
  split
  · rw [List.singleton_append, pieces_single (by omega), same]
  · split
    · have lead : n / 64 % 32 = n / 64 := by omega
      have whole : n / 64 * 64 + n % 64 = n := by omega
      simp only [List.cons_append, List.nil_append]
      rw [lead, pieces_first_of_two (by omega) (by omega),
        pieces_last_digit (by omega) (by omega) (by omega), whole, same]
    · split
      · have lead : n / 4096 % 16 = n / 4096 := by omega
        have whole : (n / 4096 * 64 + n / 64 % 64) * 64 + n % 64 = n := by omega
        simp only [List.cons_append, List.nil_append]
        rw [lead, pieces_first_of_three (by omega), pieces_digit (by omega) ?_ ?_,
          pieces_last_digit (by omega) (by omega) (by omega), whole, same]
        · split <;> omega
        · split <;> omega
      · have lead : n / 262144 % 8 = n / 262144 := by omega
        have whole :
            ((n / 262144 * 64 + n / 4096 % 64) * 64 + n / 64 % 64) * 64 + n % 64 = n := by omega
        simp only [List.cons_append, List.nil_append]
        rw [lead, pieces_first_of_four (by omega), pieces_digit (by omega) ?_ ?_,
          pieces_digit (by omega) (by omega) (by omega),
          pieces_last_digit (by omega) (by omega) (by omega), whole, same]
        · split <;> omega
        · split <;> omega

theorem pieces_encode (text : List Char) : pieces none (encode text) = text.map some := by
  induction text with
  | nil => rfl
  | cons c rest ih =>
      rw [encode, List.flatMap_cons, pieces_utf8EncodeChar, List.map_cons]
      exact congrArg (some c :: ·) ih

theorem decode_encode (text : List Char) : decode (encode text) = some text := by
  rw [decode, pieces_encode, List.mapM_map]
  exact (List.mapM_pure (m := Option) (f := id)).trans (congrArg some (List.map_id text))

theorem decodeLossy_encode (text : List Char) : decodeLossy (encode text) = text := by
  rw [decodeLossy, pieces_encode, List.map_map]
  exact List.map_id text

end ApiDiscovery.Text.Utf8
