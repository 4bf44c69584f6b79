import ApiDiscovery.Text.Utf8
import Mathlib.Tactic.SplitIfs

/-!
# The order of octets

Texts compared character by character are in the order of their UTF-8 octets:
the first octet of an encoding tells how long it is, and longer encodings are
those of greater characters.
-/

namespace ApiDiscovery.Text.Utf8

/-- Of two different characters the smaller one is encoded below the other, whatever follows. -/
theorem utf8EncodeChar_append_lt {c d : Char} (less : c < d) (left right : List UInt8) :
    String.utf8EncodeChar c ++ left < String.utf8EncodeChar d ++ right := by
  have smaller : c.val.toNat < d.val.toNat := less
  have bounded : d.val.toNat < 0x110000 := by
    rcases d.valid with low | high <;> omega
  have twice (n : Nat) : n / 4096 = n / 64 / 64 := by rw [Nat.div_div_eq_div_mul]
  have thrice (n : Nat) : n / 262144 = n / 64 / 64 / 64 := by
    rw [Nat.div_div_eq_div_mul, Nat.div_div_eq_div_mul]
  unfold String.utf8EncodeChar
  generalize c.val.toNat = m at *
  generalize d.val.toNat = n at *
  dsimp only
  -- one case for each pair of lengths; digits in base 64 decide within a length
  split_ifs <;>
    simp only [List.cons_append, List.nil_append, List.cons_lt_cons_iff, UInt8.lt_iff_toNat_lt,
      ← UInt8.toNat_inj, UInt8.toNat_ofNat', twice, thrice] <;>
    omega

theorem append_lt_append_left {left right : List UInt8} (first : List UInt8)
    (less : left < right) : first ++ left < first ++ right := by
  induction first with
  | nil => exact less
  | cons octet first ih => exact List.cons_lt_cons_iff.2 (.inr ⟨rfl, ih⟩)

/-- Encoding keeps the order of texts. -/
theorem encode_lt_encode {left right : List Char} (less : left < right) :
    encode left < encode right := by
  induction less with
  | @nil c rest =>
      cases first : String.utf8EncodeChar c with
      | nil => exact absurd first String.utf8EncodeChar_ne_nil
      | cons octet octets =>
          rw [encode, encode, List.flatMap_cons, first]
          exact .nil
  | rel smaller => exact utf8EncodeChar_append_lt smaller _ _
  | cons _ ih => exact append_lt_append_left _ ih

end ApiDiscovery.Text.Utf8
