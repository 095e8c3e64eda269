import Mathlib.Data.List.GetD
import Mathlib.Data.Nat.Bitwise
import OpenIotRsp.Library.Octets

/-!
# Bits of octet strings

The bits of an octet string, the most significant of each octet first, and the
number that a list of bits spells in that order.
-/

namespace Octets

/-- The bit at a position of an octet string, zero past its end. -/
def bitAt (data : Bytes) (i : Nat) : Bool :=
  (data.getD (i / 8) 0).toNat.testBit (7 - i % 8)

/-- The number that the first bits of a list spell; missing bits are zero. -/
def ofLeadingBits (bits : List Bool) (width : Nat) : Nat :=
  (List.range width).foldl (fun n i => 2 * n + (bits.getD i false).toNat) 0

theorem ofLeadingBits_succ (bits : List Bool) (width : Nat) :
    ofLeadingBits bits (width + 1) =
      2 * ofLeadingBits bits width + (bits.getD width false).toNat := by
  simp [ofLeadingBits, List.range_succ]

theorem ofLeadingBits_lt (bits : List Bool) (width : Nat) :
    ofLeadingBits bits width < 2 ^ width := by
  induction width with
  | zero => simp [ofLeadingBits]
  | succ width ih =>
      rw [ofLeadingBits_succ, pow_succ]
      have hbit := (bits.getD width false).toNat_le
      omega

theorem testBit_ofLeadingBits (bits : List Bool) {width i : Nat} (h : i < width) :
    (ofLeadingBits bits width).testBit (width - 1 - i) = bits.getD i false := by
  induction width with
  | zero => omega
  | succ width ih =>
      rw [ofLeadingBits_succ]
      by_cases hi : i = width
      · subst hi
        rw [Nat.add_sub_cancel, Nat.sub_self, Nat.testBit_zero]
        cases bits.getD i false <;> simp
      · have hpred : width + 1 - 1 - i = width - 1 - i + 1 := by omega
        have hhalf : (2 * ofLeadingBits bits width + (bits.getD width false).toNat) / 2 =
            ofLeadingBits bits width := by
          have hbit := (bits.getD width false).toNat_le
          omega
        rw [hpred, Nat.testBit_add_one, hhalf, ih (by omega)]

/-- Octets are equal when their bits are. -/
theorem eq_of_testBit_eq {a b : UInt8} (h : ∀ i < 8, a.toNat.testBit i = b.toNat.testBit i) :
    a = b := by
  apply UInt8.toNat_inj.mp
  apply Nat.eq_of_testBit_eq
  intro i
  by_cases hi : i < 8
  · exact h i hi
  · have hsmall : ∀ x : UInt8, x.toNat < 2 ^ i := fun x =>
      x.toNat_lt.trans_le (Nat.pow_le_pow_right (by norm_num) (Nat.le_of_not_lt hi))
    rw [Nat.testBit_lt_two_pow (hsmall a), Nat.testBit_lt_two_pow (hsmall b)]

/-- Octet strings of one length are equal when their bits are. -/
theorem eq_of_bitAt_eq {a b : Bytes} (hlen : a.length = b.length)
    (h : ∀ i < 8 * a.length, bitAt a i = bitAt b i) : a = b := by
  apply List.ext_getElem hlen
  intro q ha hb
  apply eq_of_testBit_eq
  intro j hj
  have hbit := h (8 * q + (7 - j)) (by omega)
  have hindex : (8 * q + (7 - j)) / 8 = q := by omega
  have hoffset : 7 - (8 * q + (7 - j)) % 8 = j := by omega
  simpa only [bitAt, hindex, hoffset, List.getD_eq_getElem _ _ ha,
    List.getD_eq_getElem _ _ hb] using hbit

/-- The low bits of a number are zero when a power of two divides it. -/
theorem mod_two_pow_eq_zero_iff (n k : Nat) :
    n % 2 ^ k = 0 ↔ ∀ i < k, n.testBit i = false := by
  refine ⟨fun h i hi => ?_, fun h => Nat.eq_of_testBit_eq fun i => ?_⟩
  · have hbit := congrArg (Nat.testBit · i) h
    simpa [Nat.testBit_mod_two_pow, hi] using hbit
  · rw [Nat.testBit_mod_two_pow, Nat.zero_testBit]
    by_cases hi : i < k
    · rw [h i hi, Bool.and_false]
    · rw [decide_eq_false hi, Bool.false_and]

/-! ## Masks -/

theorem and_0x80_eq_zero (b : UInt8) : b &&& 0x80 = 0 ↔ b < 0x80 := by
  have hlt := b.toNat_lt
  have htop : b.toNat &&& 2 ^ 7 = (decide (b.toNat / 2 ^ 7 % 2 = 1)).toNat * 2 ^ 7 := by
    rw [Nat.and_two_pow, Nat.testBit_eq_decide_div_mod_eq]
  rw [← UInt8.toNat_inj, UInt8.lt_iff_toNat_lt, UInt8.toNat_and]
  change b.toNat &&& 2 ^ 7 = 0 ↔ b.toNat < 2 ^ 7
  rw [htop]
  by_cases h : b.toNat / 2 ^ 7 % 2 = 1
  all_goals
    simp only [h, decide_true, decide_false, Bool.toNat_true, Bool.toNat_false]
    omega

theorem toNat_and_0x7f (b : UInt8) : (b &&& 0x7f).toNat = b.toNat % 2 ^ 7 := by
  rw [UInt8.toNat_and]
  exact Nat.and_two_pow_sub_one_eq_mod b.toNat 7

end Octets
