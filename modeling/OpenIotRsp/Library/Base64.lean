import OpenIotRsp.Library.Octets

/-!
# Base64 text

The standard alphabet with padding, and its reading with padding or without.
Line breaks are passed over, and the bits that the padding leaves unused are not
looked at.
-/

namespace Base64

open Octets

def digitValue (c : UInt8) : Option Nat :=
  if 65 ≤ c.toNat ∧ c.toNat ≤ 90 then some (c.toNat - 65)
  else if 97 ≤ c.toNat ∧ c.toNat ≤ 122 then some (c.toNat - 71)
  else if 48 ≤ c.toNat ∧ c.toNat ≤ 57 then some (c.toNat + 4)
  else if c = 0x2b then some 62
  else if c = 0x2f then some 63
  else none

/-- The value of a run of digits, most significant first. -/
def digitsValue (cs : Bytes) : Option Nat :=
  cs.foldl (fun value c => value.bind fun n => (digitValue c).map fun d => 64 * n + d) (some 0)

/-- One quantum of four characters after the other; only the last one may be padded. -/
def decodeQuanta : Bytes → Option Bytes
  | [] => some []
  | a :: b :: c :: d :: rest =>
      if d = 0x3d then
        if rest ≠ [] then none
        else if c = 0x3d then (digitsValue [a, b]).map fun n => bigEndian 1 (n / 16)
        else (digitsValue [a, b, c]).map fun n => bigEndian 2 (n / 4)
      else
        (digitsValue [a, b, c, d]).bind fun n => (decodeQuanta rest).map (bigEndian 3 n ++ ·)
  | _ => none

def decode (s : Bytes) : Option Bytes :=
  decodeQuanta (s.filter fun c => c ≠ 0x0a ∧ c ≠ 0x0d)

/-- Without padding, the last quantum has what is left. -/
def decodeRawQuanta : Bytes → Option Bytes
  | [] => some []
  | [_] => none
  | [a, b] => (digitsValue [a, b]).map fun n => bigEndian 1 (n / 16)
  | [a, b, c] => (digitsValue [a, b, c]).map fun n => bigEndian 2 (n / 4)
  | a :: b :: c :: d :: rest =>
      (digitsValue [a, b, c, d]).bind fun n => (decodeRawQuanta rest).map (bigEndian 3 n ++ ·)

def decodeRaw (s : Bytes) : Option Bytes :=
  decodeRawQuanta (s.filter fun c => c ≠ 0x0a ∧ c ≠ 0x0d)

example : decode [0x54, 0x57, 0x0a, 0x46, 0x75, 0x54, 0x51, 0x3d, 0x3d] =
    some [0x4d, 0x61, 0x6e, 0x4d] := by
  decide

/-! ## Writing -/

def digit (n : Nat) : UInt8 :=
  UInt8.ofNat (if n < 26 then 65 + n else if n < 52 then 71 + n else if n < 62 then n - 4
    else if n = 62 then 43 else 47)

/-- Quanta of three octets in four digits; the last one is padded. -/
def encode : Bytes → Bytes
  | [] => []
  | [x] => [digit (x.toNat / 4), digit (x.toNat % 4 * 16), 0x3d, 0x3d]
  | [x, y] =>
      [digit (x.toNat / 4), digit (x.toNat % 4 * 16 + y.toNat / 16), digit (y.toNat % 16 * 4), 0x3d]
  | x :: y :: z :: rest =>
      digit (x.toNat / 4) :: digit (x.toNat % 4 * 16 + y.toNat / 16) ::
        digit (y.toNat % 16 * 4 + z.toNat / 64) :: digit (z.toNat % 64) :: encode rest

theorem digitValue_digit {n : Nat} (hn : n < 64) : digitValue (digit n) = some n := by
  interval_cases n <;> rfl

/-- A digit is a visible character and no padding. -/
theorem digit_visible {n : Nat} (hn : n < 64) :
    0x21 ≤ digit n ∧ digit n < 0x7f ∧ digit n ≠ 0x3d := by
  interval_cases n <;> decide

theorem encode_visible (b : Bytes) : ∀ c ∈ encode b, 0x21 ≤ c ∧ c < 0x7f := by
  have hpad : (0x21 : UInt8) ≤ 0x3d ∧ (0x3d : UInt8) < 0x7f := by decide
  have hdigit {n : Nat} (hn : n < 64) : 0x21 ≤ digit n ∧ digit n < 0x7f :=
    ⟨(digit_visible hn).1, (digit_visible hn).2.1⟩
  fun_induction encode b with
  | case1 => simp
  | case2 x =>
      have hx := x.toNat_lt
      simp only [List.forall_mem_cons, List.not_mem_nil, false_imp_iff, implies_true, and_true]
      exact ⟨hdigit (by omega), hdigit (by omega), hpad, hpad⟩
  | case3 x y =>
      have hx := x.toNat_lt
      have hy := y.toNat_lt
      simp only [List.forall_mem_cons, List.not_mem_nil, false_imp_iff, implies_true, and_true]
      exact ⟨hdigit (by omega), hdigit (by omega), hdigit (by omega), hpad⟩
  | case4 x y z rest ih =>
      have hx := x.toNat_lt
      have hy := y.toNat_lt
      have hz := z.toNat_lt
      simp only [List.forall_mem_cons]
      exact ⟨hdigit (by omega), hdigit (by omega), hdigit (by omega), hdigit (by omega), ih⟩

/-- Octets put together from their parts. -/
theorem ofNat_eq {n : Nat} {x : UInt8} (h : n % 256 = x.toNat) : UInt8.ofNat n = x := by
  rw [← UInt8.toNat_inj, UInt8.toNat_ofNat', h]

theorem decodeQuanta_encode (b : Bytes) : decodeQuanta (encode b) = some b := by
  fun_induction encode b with
  | case1 => rfl
  | case2 x =>
      have hx := x.toNat_lt
      simp only [decodeQuanta, digitsValue, List.foldl_cons, List.foldl_nil, Option.bind_some,
        digitValue_digit (show x.toNat / 4 < 64 by omega),
        digitValue_digit (show x.toNat % 4 * 16 < 64 by omega), Option.map_some, if_true,
        ne_eq, not_true_eq_false, if_false, bigEndian, List.nil_append]
      rw [ofNat_eq (x := x) (by omega)]
  | case3 x y =>
      have hx := x.toNat_lt
      have hy := y.toNat_lt
      have hc := (digit_visible (show y.toNat % 16 * 4 < 64 by omega)).2.2
      simp only [decodeQuanta, digitsValue, List.foldl_cons, List.foldl_nil, Option.bind_some,
        digitValue_digit (show x.toNat / 4 < 64 by omega),
        digitValue_digit (show x.toNat % 4 * 16 + y.toNat / 16 < 64 by omega),
        digitValue_digit (show y.toNat % 16 * 4 < 64 by omega), Option.map_some, if_true,
        ne_eq, not_true_eq_false, if_false, hc, bigEndian, List.nil_append, List.cons_append]
      rw [ofNat_eq (x := x) (by omega), ofNat_eq (x := y) (by omega)]
  | case4 x y z rest ih =>
      have hx := x.toNat_lt
      have hy := y.toNat_lt
      have hz := z.toNat_lt
      have hd := (digit_visible (show z.toNat % 64 < 64 by omega)).2.2
      simp only [decodeQuanta, digitsValue, List.foldl_cons, List.foldl_nil, Option.bind_some,
        digitValue_digit (show x.toNat / 4 < 64 by omega),
        digitValue_digit (show x.toNat % 4 * 16 + y.toNat / 16 < 64 by omega),
        digitValue_digit (show y.toNat % 16 * 4 + z.toNat / 64 < 64 by omega),
        digitValue_digit (show z.toNat % 64 < 64 by omega), Option.map_some, if_false, hd, ih,
        bigEndian, List.nil_append, List.cons_append]
      rw [ofNat_eq (x := x) (by omega), ofNat_eq (x := y) (by omega), ofNat_eq (x := z) (by omega)]

theorem decode_encode (b : Bytes) : decode (encode b) = some b := by
  have hkept : (encode b).filter (fun c => c ≠ 0x0a ∧ c ≠ 0x0d) = encode b := by
    rw [List.filter_eq_self]
    intro c hc
    have hvisible := (encode_visible b c hc).1
    rw [UInt8.le_iff_toNat_le] at hvisible
    simp only [decide_eq_true_eq, ne_eq, ← UInt8.toNat_inj]
    simp only [UInt8.reduceToNat] at hvisible ⊢
    omega
  rw [decode, hkept, decodeQuanta_encode]

end Base64
