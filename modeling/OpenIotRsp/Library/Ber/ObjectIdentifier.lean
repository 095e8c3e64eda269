import OpenIotRsp.Library.Ber.Codec

/-!
# OBJECT IDENTIFIER contents

The contents octets of an OBJECT IDENTIFIER as a common library codec writes
and reads them: the writer takes every 64-bit arc, the reader refuses
sub-identifiers above `2 ^ 31 - 1`.
-/

namespace Ber

open Octets

/-! ## Sub-identifiers -/

/-- The number of base-128 digits of `n`, at least one. -/
def base128Length (n : Nat) : Nat :=
  Nat.log2 n / 7 + 1

/-- The low `l` base-128 digits of `n`, all but the last with the continuation bit. -/
def base128Digits : Nat → Nat → Bytes
  | 0, _ => []
  | l + 1, n =>
      UInt8.ofNat (n / 128 ^ l % 128 + if l = 0 then 0 else 128) :: base128Digits l n

def base128 (n : Nat) : Bytes :=
  base128Digits (base128Length n) n

def maxSubidentifier : Nat := 2 ^ 31 - 1

/-- Read one sub-identifier after `shifted` digits with the value `acc`. -/
def readBase128 : Nat → Nat → Bytes → Option (Nat × Bytes)
  | _, _, [] => none
  | shifted, acc, b :: bs =>
      if shifted = 5 ∨ shifted = 0 ∧ b = 0x80 then none
      else if b.toNat < 128 then
        if acc * 128 + b.toNat ≤ maxSubidentifier then some (acc * 128 + b.toNat, bs) else none
      else readBase128 (shifted + 1) (acc * 128 + b.toNat % 128) bs

def readSubidentifiers : Nat → Bytes → Option (List Nat)
  | _, [] => some []
  | 0, _ :: _ => none
  | fuel + 1, b :: bs =>
      (readBase128 0 0 (b :: bs)).bind fun x => (readSubidentifiers fuel x.2).map (x.1 :: ·)

theorem lt_pow_base128Length (n : Nat) : n < 128 ^ base128Length n := by
  calc n < 2 ^ (Nat.log2 n + 1) := Nat.lt_log2_self
    _ ≤ 2 ^ (7 * base128Length n) :=
        Nat.pow_le_pow_right (by norm_num) (by unfold base128Length; omega)
    _ = 128 ^ base128Length n := by rw [pow_mul]; norm_num

theorem pow_le_of_base128Length {n l : Nat} (h : base128Length n = l + 1) (hl : 0 < l) :
    128 ^ l ≤ n := by
  have hlog : 7 * l ≤ Nat.log2 n := by unfold base128Length at h; omega
  have hn : n ≠ 0 := by
    rintro rfl
    simp at hlog
    omega
  calc 128 ^ l = 2 ^ (7 * l) := by rw [pow_mul]; norm_num
    _ ≤ 2 ^ Nat.log2 n := Nat.pow_le_pow_right (by norm_num) hlog
    _ ≤ n := Nat.log2_self_le hn

private theorem toNat_digit (d c : Nat) (hd : d < 128) (hc : c ≤ 128) :
    (UInt8.ofNat (d + c)).toNat = d + c := by
  simp
  omega

/-- The reader returns the accumulated number when it has seen at most five digits and the number
is not too large; the leading digit of a whole sub-identifier must not be zero. -/
theorem readBase128_digits (l shifted acc n : Nat) (r : Bytes) (hshifted : shifted ≤ 5)
    (hlead : shifted = 0 → l = 0 ∨ n / 128 ^ l % 128 ≠ 0) :
    readBase128 shifted acc (base128Digits (l + 1) n ++ r) =
      if shifted + l < 5 ∧ acc * 128 ^ (l + 1) + n % 128 ^ (l + 1) ≤ maxSubidentifier then
        some (acc * 128 ^ (l + 1) + n % 128 ^ (l + 1), r)
      else none := by
  induction l generalizing shifted acc with
  | zero =>
      have hd : (UInt8.ofNat (n % 128)).toNat = n % 128 := by
        simpa using toNat_digit (n % 128) 0 (Nat.mod_lt _ (by norm_num)) (by norm_num)
      have hne : UInt8.ofNat (n % 128) ≠ 0x80 := by
        intro h
        have := congrArg UInt8.toNat h
        simp only [hd, UInt8.reduceToNat] at this
        omega
      by_cases hfive : shifted = 5
      · simp [base128Digits, readBase128, hfive]
      · have hlt : shifted < 5 := by omega
        have hsmall : n % 128 < 128 := Nat.mod_lt _ (by norm_num)
        simp [base128Digits, readBase128, hfive, hne, hd, hlt, hsmall]
  | succ l ih =>
      have hsmall : n / 128 ^ (l + 1) % 128 < 128 := Nat.mod_lt _ (by norm_num)
      generalize hdigit : n / 128 ^ (l + 1) % 128 = d at hsmall hlead
      have hd : (UInt8.ofNat (d + 128)).toNat = d + 128 := toNat_digit d 128 hsmall le_rfl
      by_cases hfive : shifted = 5
      · simp [base128Digits, readBase128, hfive]
      · have hne : ¬ (shifted = 5 ∨ shifted = 0 ∧ UInt8.ofNat (d + 128) = 0x80) := by
          rintro (h | ⟨hzero, h⟩)
          · exact hfive h
          · have := congrArg UInt8.toNat h
            simp only [hd, UInt8.reduceToNat] at this
            rcases hlead hzero with h | h <;> omega
        have hlow : (d + 128) % 128 = d := by omega
        have hvalue : (acc * 128 + d) * 128 ^ (l + 1) + n % 128 ^ (l + 1) =
            acc * 128 ^ (l + 2) + n % 128 ^ (l + 2) := by
          rw [pow_succ 128 (l + 1), Nat.mod_mul, hdigit]
          ring
        have hstep := ih (shifted + 1) (acc * 128 + d) (by omega) (by omega)
        rw [hvalue, show shifted + 1 + l = shifted + (l + 1) by omega] at hstep
        rw [← hstep, base128Digits]
        simp only [Nat.succ_ne_zero, if_false, hdigit, List.cons_append, readBase128, hne, hd]
        rw [if_neg (by omega), hlow]

theorem readBase128_base128 (n : Nat) (r : Bytes) :
    readBase128 0 0 (base128 n ++ r) = if n ≤ maxSubidentifier then some (n, r) else none := by
  obtain ⟨l, hl⟩ : ∃ l, base128Length n = l + 1 := ⟨_, rfl⟩
  have hbound := lt_pow_base128Length n
  rw [hl] at hbound
  have hlead : l = 0 ∨ n / 128 ^ l % 128 ≠ 0 := by
    rcases Nat.eq_zero_or_pos l with h | h
    · exact Or.inl h
    · right
      have hge := pow_le_of_base128Length hl h
      have hlt : n / 128 ^ l < 128 := by
        rw [Nat.div_lt_iff_lt_mul (by positivity), ← pow_succ']
        exact hbound
      rw [Nat.mod_eq_of_lt hlt]
      exact (Nat.div_pos hge (by positivity)).ne'
  have hdigits : n ≤ maxSubidentifier → l < 5 := by
    intro hn
    by_contra hlong
    have hge := pow_le_of_base128Length hl (by omega)
    have hpow : 128 ^ 5 ≤ 128 ^ l := Nat.pow_le_pow_right (by norm_num) (by omega)
    unfold maxSubidentifier at hn
    omega
  rw [base128, hl, readBase128_digits l 0 0 n r (by omega) (fun _ => hlead)]
  simp only [zero_mul, Nat.zero_add, Nat.mod_eq_of_lt hbound]
  by_cases hn : n ≤ maxSubidentifier
  · rw [if_pos ⟨hdigits hn, hn⟩, if_pos hn]
  · rw [if_neg (fun h => hn h.2), if_neg hn]

theorem base128_ne_nil (n : Nat) : base128 n ≠ [] := by
  simp [base128, base128Length, base128Digits]

/-- Written sub-identifiers are read back exactly when none of them is too large. -/
theorem readSubidentifiers_base128 (ns : List Nat) (fuel : Nat)
    (hfuel : (ns.flatMap base128).length ≤ fuel) :
    readSubidentifiers fuel (ns.flatMap base128) =
      if ∀ n ∈ ns, n ≤ maxSubidentifier then some ns else none := by
  induction ns generalizing fuel with
  | nil => simp [readSubidentifiers]
  | cons n ns ih =>
      obtain ⟨b, bs, hcons⟩ := List.exists_cons_of_ne_nil (base128_ne_nil n)
      have hlen : (base128 n).length = bs.length + 1 := by rw [hcons]; rfl
      simp only [List.flatMap_cons, List.length_append, hlen] at hfuel
      obtain ⟨fuel, rfl⟩ : ∃ f, fuel = f + 1 := ⟨fuel - 1, by omega⟩
      have hread := readBase128_base128 n (ns.flatMap base128)
      rw [hcons, List.cons_append] at hread
      rw [List.flatMap_cons, hcons, List.cons_append, readSubidentifiers, hread]
      by_cases hn : n ≤ maxSubidentifier
      · simp only [hn, if_true, Option.bind_some, ih fuel (by omega), List.forall_mem_cons,
          true_and]
        split <;> simp
      · simp [hn]

/-! ## Object identifiers -/

abbrev ObjectIdentifier := List Nat

/-- The sub-identifiers of an object identifier; the sum of the first two arcs wraps at 64 bits. -/
def subidentifiers : ObjectIdentifier → List Int
  | a :: b :: arcs => Int.bmod (40 * a + b) (2 ^ 64) :: arcs.map Int.ofNat
  | _ => []

/-- The sub-identifiers that leave octets: the digit count of a negative one is zero. -/
def writtenSubidentifiers (oid : ObjectIdentifier) : List Nat :=
  (subidentifiers oid).filterMap fun v => if v < 0 then none else some v.toNat

/-- Contents octets; the first arc is at most 2, the second below 40 unless the first is 2. -/
def marshalObjectIdentifier : ObjectIdentifier → Option Bytes
  | a :: b :: arcs =>
      if 2 < a ∨ a < 2 ∧ 40 ≤ b then none
      else some ((writtenSubidentifiers (a :: b :: arcs)).flatMap base128)
  | _ => none

/-- The two arcs of a first sub-identifier. -/
def splitFirst (v : Nat) : List Nat :=
  if v < 80 then [v / 40, v % 40] else [2, v - 80]

def parseObjectIdentifier (contents : Bytes) : Option ObjectIdentifier :=
  match readSubidentifiers contents.length contents with
  | some (v :: vs) => some (splitFirst v ++ vs)
  | _ => none

/-- A minimal definite length below `2 ^ 31`. -/
def readMinimalLength : Bytes → Option (Nat × Bytes)
  | [] => none
  | b :: bs =>
      if b < 0x80 then some (b.toNat, bs)
      else
        let k := b.toNat - 0x80
        let n := ofBigEndian (bs.take k)
        if k = 0 ∨ bs.length < k ∨ bs.headD 0 = 0 ∨ n < 0x80 ∨ 2 ^ 31 ≤ n then none
        else some (n, bs.drop k)

/-- Read a whole OBJECT IDENTIFIER from the front, with what follows it. -/
def unmarshalObjectIdentifier : Bytes → Option (ObjectIdentifier × Bytes)
  | [] => none
  | tag :: bs =>
      if tag = 0x06 then
        (readMinimalLength bs).bind fun x =>
          if x.2.length < x.1 then none
          else (parseObjectIdentifier (x.2.take x.1)).map fun oid => (oid, x.2.drop x.1)
      else none

/-- The sub-identifiers written for `oid` are readable: there is one, and none is too large. -/
def Readable (oid : ObjectIdentifier) : Prop :=
  writtenSubidentifiers oid ≠ [] ∧ ∀ v ∈ writtenSubidentifiers oid, v ≤ maxSubidentifier

instance (oid : ObjectIdentifier) : Decidable (Readable oid) :=
  inferInstanceAs (Decidable (_ ∧ _))

private theorem written_cons {a b v : Nat} (arcs : List Nat)
    (hv : Int.bmod (40 * a + b) (2 ^ 64) = v) :
    writtenSubidentifiers (a :: b :: arcs) = v :: arcs := by
  have hsome : (fun w : Int => if w < 0 then none else some w.toNat) ∘ Int.ofNat = some := by
    funext w
    simp
  rw [writtenSubidentifiers, subidentifiers, hv, List.filterMap_cons_some (b := v) (by simp),
    List.filterMap_map, hsome, List.filterMap_some]

theorem marshal_splitFirst_append (v : Nat) (vs : List Nat) (hv : v ≤ maxSubidentifier) :
    marshalObjectIdentifier (splitFirst v ++ vs) = some ((v :: vs).flatMap base128) := by
  unfold maxSubidentifier at hv
  by_cases hsmall : v < 80
  · have hwrap : Int.bmod (40 * ((v / 40 : Nat) : Int) + ((v % 40 : Nat) : Int)) (2 ^ 64) = v := by
      rw [Int.bmod_eq_of_le] <;> omega
    have harcs : ¬ (2 < v / 40 ∨ v / 40 < 2 ∧ 40 ≤ v % 40) := by omega
    simp only [splitFirst, hsmall, if_true, List.cons_append, List.nil_append,
      marshalObjectIdentifier, harcs, if_false, written_cons vs hwrap]
  · have hwrap : Int.bmod (40 * ((2 : Nat) : Int) + ((v - 80 : Nat) : Int)) (2 ^ 64) = v := by
      rw [Int.bmod_eq_of_le] <;> omega
    simp only [splitFirst, hsmall, if_false, List.cons_append, List.nil_append,
      marshalObjectIdentifier, written_cons vs hwrap]
    simp

theorem marshalObjectIdentifier_eq_some {oid : ObjectIdentifier} {contents : Bytes}
    (h : marshalObjectIdentifier oid = some contents) :
    contents = (writtenSubidentifiers oid).flatMap base128 := by
  unfold marshalObjectIdentifier at h
  split at h
  next =>
      split at h
      next => cases h
      next => exact (Option.some.inj h).symm
  next => cases h

/-- Contents written for a readable identifier are read, and what is read writes them again. -/
theorem parse_marshal_of_readable {oid : ObjectIdentifier} {contents : Bytes}
    (hmarshal : marshalObjectIdentifier oid = some contents) (hread : Readable oid) :
    ∃ oid', parseObjectIdentifier contents = some oid' ∧
      marshalObjectIdentifier oid' = some contents := by
  rw [marshalObjectIdentifier_eq_some hmarshal]
  obtain ⟨v, vs, hcons⟩ := List.exists_cons_of_ne_nil hread.1
  have hall := hread.2
  rw [hcons] at hall ⊢
  refine ⟨splitFirst v ++ vs, ?_, marshal_splitFirst_append v vs (hall v (by simp))⟩
  rw [parseObjectIdentifier, readSubidentifiers_base128 _ _ le_rfl, if_pos hall]

theorem parse_marshal_of_not_readable {oid : ObjectIdentifier} {contents : Bytes}
    (hmarshal : marshalObjectIdentifier oid = some contents) (hread : ¬ Readable oid) :
    parseObjectIdentifier contents = none := by
  rw [marshalObjectIdentifier_eq_some hmarshal, parseObjectIdentifier,
    readSubidentifiers_base128 _ _ le_rfl]
  by_cases hall : ∀ v ∈ writtenSubidentifiers oid, v ≤ maxSubidentifier
  · have hnil : writtenSubidentifiers oid = [] := by
      by_contra hne
      exact hread ⟨hne, hall⟩
    simp [hnil]
  · rw [if_neg hall]

end Ber
