import Mathlib.Data.List.Induction
import Mathlib.Data.Nat.Digits.Lemmas

/-!
# Octet strings

Octet strings and their big-endian reading, in the fixed-width form used by
length octets, integers and counters.
-/

namespace Octets

abbrev Bytes := List UInt8

/-- The octets of a text literal. -/
def text (s : String) : Bytes :=
  s.toUTF8.data.toList

/-! ## Big-endian numbers -/

/-- The base-256 number an octet string spells, most significant octet first. -/
def ofBigEndian (b : Bytes) : Nat :=
  Nat.ofDigits 256 (b.reverse.map UInt8.toNat)

/-- The low `k` base-256 digits of `n`, most significant first. -/
def bigEndian : Nat → Nat → Bytes
  | 0, _ => []
  | k + 1, n => bigEndian k (n / 256) ++ [UInt8.ofNat n]

@[simp]
theorem ofBigEndian_nil : ofBigEndian [] = 0 := rfl

@[simp]
theorem ofBigEndian_concat (b : Bytes) (x : UInt8) :
    ofBigEndian (b ++ [x]) = x.toNat + 256 * ofBigEndian b := by
  simp [ofBigEndian, Nat.ofDigits_cons]

@[simp]
theorem length_bigEndian (k n : Nat) : (bigEndian k n).length = k := by
  induction k generalizing n with
  | zero => rfl
  | succ k ih => simp [bigEndian, ih]

theorem ofBigEndian_bigEndian (k n : Nat) :
    ofBigEndian (bigEndian k n) = n % 256 ^ k := by
  induction k generalizing n with
  | zero => simp [bigEndian, Nat.mod_one]
  | succ k ih =>
      calc ofBigEndian (bigEndian (k + 1) n)
          = n % 256 + 256 * (n / 256 % 256 ^ k) := by simp [bigEndian, ih]
        _ = n % (256 * 256 ^ k) := (Nat.mod_mul).symm
        _ = n % 256 ^ (k + 1) := by rw [pow_succ']

private theorem digits_lt {b : Bytes} {d : Nat} (hd : d ∈ b.reverse.map UInt8.toNat) :
    d < 256 := by
  obtain ⟨x, -, rfl⟩ := List.mem_map.mp hd
  exact x.toNat_lt

theorem ofBigEndian_lt (b : Bytes) : ofBigEndian b < 256 ^ b.length := by
  simpa [ofBigEndian] using
    Nat.ofDigits_lt_base_pow_length (by norm_num : 1 < 256) fun d => digits_lt (b := b)

theorem bigEndian_injOn {k m n : Nat} (hm : m < 256 ^ k) (hn : n < 256 ^ k)
    (h : bigEndian k m = bigEndian k n) : m = n := by
  have hval := congrArg ofBigEndian h
  rwa [ofBigEndian_bigEndian, ofBigEndian_bigEndian, Nat.mod_eq_of_lt hm,
    Nat.mod_eq_of_lt hn] at hval

end Octets
