import OpenIotRsp.Library.Octets

/-!
# Hexadecimal text

The lower-case hexadecimal text of an octet string, and its reading, which also
takes upper-case digits.
-/

namespace Hex

open Octets

def digit (n : Nat) : UInt8 :=
  UInt8.ofNat (if n < 10 then 48 + n else 87 + n)

def digitValue (c : UInt8) : Option Nat :=
  if 48 ≤ c.toNat ∧ c.toNat ≤ 57 then some (c.toNat - 48)
  else if 97 ≤ c.toNat ∧ c.toNat ≤ 102 then some (c.toNat - 87)
  else if 65 ≤ c.toNat ∧ c.toNat ≤ 70 then some (c.toNat - 55)
  else none

def encode (b : Bytes) : Bytes :=
  b.flatMap fun x => [digit (x.toNat / 16), digit (x.toNat % 16)]

def decode : Bytes → Option Bytes
  | [] => some []
  | [_] => none
  | hi :: lo :: rest =>
      (digitValue hi).bind fun h =>
        (digitValue lo).bind fun l => (decode rest).map (UInt8.ofNat (16 * h + l) :: ·)

theorem digitValue_digit {n : Nat} (hn : n < 16) : digitValue (digit n) = some n := by
  interval_cases n <;> rfl

theorem decode_encode (b : Bytes) : decode (encode b) = some b := by
  induction b with
  | nil => rfl
  | cons x xs ih =>
      have hx : x.toNat < 256 := x.toNat_lt
      have hsum : UInt8.ofNat (16 * (x.toNat / 16) + x.toNat % 16) = x := by
        rw [Nat.div_add_mod]
        exact UInt8.ofNat_toNat
      simp only [encode, List.flatMap_cons, List.cons_append, List.nil_append] at ih ⊢
      simp only [decode, digitValue_digit (show x.toNat / 16 < 16 by omega),
        digitValue_digit (Nat.mod_lt x.toNat (by norm_num : 0 < 16)), ih, Option.bind_some,
        Option.map_some, hsum]

theorem encode_visible (b : Bytes) : ∀ c ∈ encode b, 0x21 ≤ c ∧ c < 0x7f := by
  have hdigit {n : Nat} (hn : n < 16) : 0x21 ≤ digit n ∧ digit n < 0x7f := by
    interval_cases n <;> decide
  intro c hc
  obtain ⟨x, -, hc⟩ := List.mem_flatMap.mp hc
  have hx := x.toNat_lt
  simp only [List.mem_cons, List.not_mem_nil, or_false] at hc
  rcases hc with rfl | rfl
  · exact hdigit (by omega)
  · exact hdigit (by omega)

theorem encode_injective : Function.Injective encode := by
  intro a b h
  have hdecode := congrArg decode h
  rw [decode_encode, decode_encode] at hdecode
  exact Option.some.inj hdecode

end Hex
