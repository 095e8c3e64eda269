import OpenIotRsp.Library.Octets

/-!
# INTEGER contents

Minimal two's complement octets of an integer, and their reading for
integers of at most eight octets.
-/

namespace Ber

open Octets

/-- The magnitude that decides how many octets an integer takes. -/
def signMagnitude (v : Int) : Nat :=
  if 0 ≤ v then v.toNat else (-v - 1).toNat

def integerOctetCount (v : Int) : Nat :=
  (Nat.log2 (signMagnitude v) + 1) / 8 + 1

def encodeInteger (v : Int) : Bytes :=
  bigEndian (integerOctetCount v) (v % 256 ^ integerOctetCount v).toNat

/-- The two's complement reading of an octet string. -/
def twosComplement (b : Bytes) : Int :=
  if 2 * ofBigEndian b < 256 ^ b.length then ofBigEndian b
  else (ofBigEndian b : Int) - 256 ^ b.length

def decodeInteger (b : Bytes) : Option Int :=
  if b = [] ∨ 8 < b.length then none else some (twosComplement b)

theorem signMagnitude_lt (v : Int) :
    2 * signMagnitude v < 256 ^ integerOctetCount v := by
  have hlog : signMagnitude v < 2 ^ (Nat.log2 (signMagnitude v) + 1) := Nat.lt_log2_self
  calc 2 * signMagnitude v < 2 * 2 ^ (Nat.log2 (signMagnitude v) + 1) := by omega
    _ = 2 ^ (Nat.log2 (signMagnitude v) + 2) := by rw [← pow_succ']
    _ ≤ 2 ^ (8 * integerOctetCount v) :=
        Nat.pow_le_pow_right (by norm_num) (by unfold integerOctetCount; omega)
    _ = 256 ^ integerOctetCount v := by rw [pow_mul]; norm_num

theorem twosComplement_encodeInteger (v : Int) : twosComplement (encodeInteger v) = v := by
  have hbound := signMagnitude_lt v
  generalize hk : integerOctetCount v = k at hbound
  have heven : 2 ∣ 256 ^ k := dvd_pow (by norm_num) (by rw [← hk, integerOctetCount]; omega)
  have hpos : (0 : Int) < 256 ^ k := by positivity
  have hcast : ((256 ^ k : Nat) : Int) = 256 ^ k := by push_cast; rfl
  have hval : ofBigEndian (encodeInteger v) = (v % 256 ^ k).toNat := by
    rw [encodeInteger, hk, ofBigEndian_bigEndian]
    apply Nat.mod_eq_of_lt
    have := Int.emod_lt_of_pos v hpos
    omega
  have hlen : (encodeInteger v).length = k := by simp [encodeInteger, hk]
  rw [twosComplement, hval, hlen]
  by_cases hv : 0 ≤ v
  · have hmag : signMagnitude v = v.toNat := by simp [signMagnitude, hv]
    have hmod : v % 256 ^ k = v := Int.emod_eq_of_lt hv (by omega)
    have hsmall : 2 * v.toNat < 256 ^ k := by omega
    rw [hmod, if_pos hsmall]
    exact Int.toNat_of_nonneg hv
  · have hmag : signMagnitude v = (-v - 1).toNat := by simp [signMagnitude, hv]
    have hmod : v % 256 ^ k = v + 256 ^ k := by
      rw [← Int.add_emod_right, Int.emod_eq_of_lt (by omega) (by omega)]
    have hlarge : ¬ 2 * (v + 256 ^ k).toNat < 256 ^ k := by omega
    rw [hmod, if_neg hlarge]
    omega

/-- Every 64-bit integer is read back from its octets. -/
theorem decodeInteger_encodeInteger {v : Int} (hlow : -2 ^ 63 ≤ v) (hhigh : v < 2 ^ 63) :
    decodeInteger (encodeInteger v) = some v := by
  have hmag : signMagnitude v < 2 ^ 63 := by
    unfold signMagnitude
    split <;> omega
  have hlog : Nat.log2 (signMagnitude v) < 63 := by
    by_cases hzero : signMagnitude v = 0
    · simp [hzero]
    · exact (Nat.log2_lt hzero).mpr hmag
  have hlen : (encodeInteger v).length = integerOctetCount v := by simp [encodeInteger]
  have hcount : integerOctetCount v ≤ 8 := by unfold integerOctetCount; omega
  have hne : encodeInteger v ≠ [] := by
    apply List.ne_nil_of_length_pos
    rw [hlen, integerOctetCount]
    omega
  rw [decodeInteger, if_neg (by rw [hlen]; simp [hne, hcount]), twosComplement_encodeInteger]

end Ber
