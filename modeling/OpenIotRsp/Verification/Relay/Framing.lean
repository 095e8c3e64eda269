import OpenIotRsp.Library.Bits
import OpenIotRsp.Model.Esipa.Relay
import OpenIotRsp.Verification.Package.Parse

/-!
# Framing of relayed objects

What the relay accepts is one object, except that it reads the length modulo `2 ^ 64`.
-/

namespace OpenIotRsp.Relay

open Octets Ber Reader

variable {data tag content : Bytes} {n : Nat}

/-! ## Length octets -/

/-- A definite length, in the short form or with up to 127 length octets. -/
inductive LengthField : Bytes → Nat → Prop
  | short {b : UInt8} (h : b < 0x80) : LengthField [b] b.toNat
  | long {b : UInt8} {octets : Bytes} (hcount : b.toNat = 0x80 + octets.length)
      (hoctets : octets ≠ []) : LengthField (b :: octets) (ofBigEndian octets)

theorem LengthField.length_pos {field : Bytes} (h : LengthField field n) : 0 < field.length := by
  cases h with
  | short _ => exact Nat.one_pos
  | long _ _ => exact Nat.succ_pos _

theorem lengthField_of_readLength {s r : Bytes} (h : readLength s = some (n, r)) :
    ∃ field, s = field ++ r ∧ LengthField field n := by
  cases s with
  | nil => cases h
  | cons b bs =>
      rw [readLength] at h
      split at h
      next hb =>
          obtain ⟨rfl, rfl⟩ := Prod.mk.inj (Option.some.inj h)
          exact ⟨[b], rfl, .short hb⟩
      next hb =>
          split at h
          next => cases h
          next hvalid =>
              obtain ⟨rfl, rfl⟩ := Prod.mk.inj (Option.some.inj h)
              obtain ⟨hne, -, hlen⟩ := by simpa only [not_or] using hvalid
              rw [UInt8.lt_iff_toNat_lt] at hb
              have hne' : b.toNat ≠ 0x80 := fun heq => hne (UInt8.toNat_inj.mp heq)
              have hb' : 0x80 ≤ b.toNat := Nat.le_of_not_lt hb
              refine ⟨b :: bs.take (b.toNat - 0x80), by simp, .long ?_ ?_⟩
              · rw [List.length_take]
                omega
              · rw [Ne, ← List.length_eq_zero_iff, List.length_take]
                omega

/-- The sum of the length octets is the number they spell, as far as 64 bits hold it. -/
theorem lengthValue_eq (octets : Bytes) :
    lengthValue octets = (ofBigEndian octets : Int).bmod (2 ^ 64) := by
  induction octets using List.reverseRecOn with
  | nil => rfl
  | append_singleton octets b ih =>
      have hstep : lengthValue (octets ++ [b]) =
          (lengthValue octets * 256 + b.toNat).bmod (2 ^ 64) := by
        rw [lengthValue, List.foldl_concat]
        rfl
      rw [hstep, ih, ← Int.bmod_add_bmod, Int.bmod_mul_bmod, Int.bmod_add_bmod,
        ofBigEndian_concat]
      congr 1
      push_cast
      ring

theorem mod_of_bmod {n k : Nat} (h : (n : Int).bmod (2 ^ 64) = k) : n % 2 ^ 64 = k := by
  have hlt : (n : Int).bmod (2 ^ 64) < ((2 ^ 64 : Nat) + 1) / 2 := Int.bmod_lt (by decide)
  have hmod : (n : Int).bmod (2 ^ 64) % (2 ^ 64 : Nat) = n % (2 ^ 64 : Nat) := Int.bmod_emod
  rw [h] at hlt hmod
  omega

theorem bmod_of_lt (h : n < 2 ^ 63) : (n : Int).bmod (2 ^ 64) = n :=
  Int.bmod_eq_of_le (by omega) (by omega)

theorem tlvLength_append {field : Bytes} (hfield : LengthField field n) (content : Bytes) :
    tlvLength (field ++ content) = .ok ((n : Int).bmod (2 ^ 64), field.length) := by
  cases hfield with
  | @short b hb =>
      have hsmall := b.toNat_lt
      rw [List.singleton_append, tlvLength, if_pos ((and_0x80_eq_zero b).mpr hb),
        bmod_of_lt (by omega)]
      rfl
  | @long b octets hcount hoctets =>
      have hlt := b.toNat_lt
      have hpos : octets.length ≠ 0 := fun h => hoctets (List.length_eq_zero_iff.mp h)
      have hlong : ¬ b &&& 0x80 = 0 := by
        rw [and_0x80_eq_zero, UInt8.lt_iff_toNat_lt, hcount]
        exact Nat.not_lt.mpr (Nat.le_add_right _ _)
      have hlen : (b &&& 0x7f).toNat = octets.length := by
        rw [toNat_and_0x7f]
        omega
      rw [List.cons_append, tlvLength, if_neg hlong, hlen]
      dsimp only
      rw [if_neg hpos, if_neg (by simp), List.take_left, lengthValue_eq, List.length_cons]

theorem tlvLength_ok {s : Bytes} {length : Int} {count : Nat}
    (h : tlvLength s = .ok (length, count)) :
    ∃ n, LengthField (s.take count) n ∧ (s.take count).length = count ∧
      length = (n : Int).bmod (2 ^ 64) := by
  cases s with
  | nil => cases h
  | cons b rest =>
      rw [tlvLength] at h
      split at h
      next hb =>
          obtain ⟨rfl, rfl⟩ := Prod.mk.inj (Except.ok.inj h)
          have hsmall := b.toNat_lt
          exact ⟨b.toNat, .short ((and_0x80_eq_zero b).mp hb), rfl, (bmod_of_lt (by omega)).symm⟩
      next hb =>
          dsimp only at h
          split at h
          next => cases h
          next hpos =>
              split at h
              next => cases h
              next hlen =>
                  obtain ⟨rfl, rfl⟩ := Prod.mk.inj (Except.ok.inj h)
                  have htake : (rest.take (b &&& 0x7f).toNat).length = (b &&& 0x7f).toNat := by
                    rw [List.length_take]
                    omega
                  rw [and_0x80_eq_zero, UInt8.lt_iff_toNat_lt] at hb
                  have hb' : 0x80 ≤ b.toNat := Nat.le_of_not_lt hb
                  have hlt := b.toNat_lt
                  refine ⟨_, .long ?_ ?_, by simpa using htake, lengthValue_eq _⟩
                  · rw [htake, toNat_and_0x7f]
                    omega
                  · rw [Ne, ← List.length_eq_zero_iff, htake]
                    exact hpos

/-! ## Objects -/

theorem tagContinuation_eq {s octets r : Bytes} (h : readContinuation s = some (octets, r)) :
    tagContinuation s = .ok octets.length := by
  induction s generalizing octets with
  | nil => cases h
  | cons b bs ih =>
      by_cases hb : b &&& 0x80 = 0
      · simp only [readContinuation, hb, if_true, Option.some.injEq, Prod.mk.injEq] at h
        obtain ⟨rfl, rfl⟩ := h
        simp [tagContinuation, hb]
      · simp only [readContinuation, hb, if_false, Option.map_eq_some_iff] at h
        obtain ⟨⟨tail, rest⟩, htail, heq⟩ := h
        obtain ⟨rfl, rfl⟩ := Prod.mk.inj heq
        rw [tagContinuation, if_neg hb, ih htail]
        rfl

theorem tagLength_eq {s octets r : Bytes} (h : readIdentifier s = some (octets, r)) :
    tagLength s = .ok octets.length := by
  cases s with
  | nil => cases h
  | cons b bs =>
      by_cases hb : b &&& 0x1f = 0x1f
      · simp only [readIdentifier, hb, if_true, Option.map_eq_some_iff] at h
        obtain ⟨⟨tail, rest⟩, htail, heq⟩ := h
        obtain ⟨rfl, rfl⟩ := Prod.mk.inj heq
        rw [tagLength, if_pos hb, tagContinuation_eq htail]
        rfl
      · simp only [readIdentifier, hb, if_false, Option.some.injEq, Prod.mk.injEq] at h
        obtain ⟨rfl, rfl⟩ := h
        simp [tagLength, hb]

theorem readContinuation_of_tagContinuation {s : Bytes} (h : tagContinuation s = .ok n) :
    readContinuation s = some (s.take n, s.drop n) := by
  induction s generalizing n with
  | nil => cases h
  | cons b bs ih =>
      rw [tagContinuation] at h
      rw [readContinuation]
      split at h
      next hb =>
          obtain rfl := Except.ok.inj h
          rw [if_pos hb]
          rfl
      next hb =>
          obtain ⟨m, hm, h⟩ := Outcome.bind_eq_ok.mp h
          obtain rfl := Except.ok.inj h
          rw [if_neg hb, ih hm]
          rfl

theorem readIdentifier_of_tagLength {s : Bytes} (h : tagLength s = .ok n) :
    readIdentifier s = some (s.take n, s.drop n) := by
  cases s with
  | nil => cases h
  | cons b bs =>
      rw [tagLength] at h
      rw [readIdentifier]
      split at h
      next hb =>
          obtain ⟨m, hm, h⟩ := Outcome.bind_eq_ok.mp h
          obtain rfl := Except.ok.inj h
          rw [if_pos hb, readContinuation_of_tagContinuation hm]
          rfl
      next hb =>
          obtain rfl := Except.ok.inj h
          rw [if_neg hb]
          rfl

/-- A tag, length octets and content are accepted if the length agrees with the content in 64
bits. -/
theorem tlvContent_append {tag field content : Bytes} (htag : Tag.Valid ⟨tag⟩)
    (hfield : LengthField field n) (hn : (n : Int).bmod (2 ^ 64) = content.length) :
    tlvContent (tag ++ (field ++ content)) = .ok (tag, content) := by
  have hlength : tlvLength (field ++ content) = .ok ((content.length : Int), field.length) := by
    rw [tlvLength_append hfield, hn]
  have htotal : ((tag ++ (field ++ content)).length : Int) - (tag.length + field.length : Nat) =
      content.length := by
    simp only [List.length_append]
    omega
  have hdrop : (tag ++ (field ++ content)).drop (tag.length + field.length) = content := by
    rw [← List.append_assoc, ← List.length_append, List.drop_left]
  rw [tlvContent, tlvHeader, tagLength_eq (htag.spells _)]
  simp only [Outcome.ok_bind, Outcome.pure_eq, List.drop_left, List.take_left, hlength, htotal,
    hdrop, ne_eq, not_true_eq_false, if_false]

/-- A header with the number of octets that follow is accepted. -/
theorem tlvContent_of_header {tag : Tag} {h content : Bytes}
    (hheader : Header tag content.length h) (hlen : content.length < 2 ^ 63) :
    tlvContent (h ++ content) = .ok (tag.octets, content) := by
  obtain ⟨⟨octets, r⟩, htag, hmap⟩ := Option.bind_eq_some_iff.mp (hheader content)
  obtain ⟨⟨n, r'⟩, hlength, heq⟩ := Option.map_eq_some_iff.mp hmap
  simp only [Prod.map_apply, id, Prod.mk.injEq] at heq hlength
  obtain ⟨⟨rfl, hn⟩, hr⟩ := heq
  rw [hn, hr] at hlength
  obtain ⟨field, rfl, hfield⟩ := lengthField_of_readLength hlength
  rw [(readIdentifier_spells htag).1]
  exact tlvContent_append hheader.tag_valid.1 hfield (bmod_of_lt hlen)

theorem tlvContent_ok (h : tlvContent data = .ok (tag, content)) :
    ∃ field n, data = tag ++ (field ++ content) ∧ Tag.Valid ⟨tag⟩ ∧ LengthField field n ∧
      n % 2 ^ 64 = content.length := by
  rw [tlvContent] at h
  obtain ⟨⟨tag', length, headerLen⟩, hheader, h⟩ := Outcome.bind_eq_ok.mp h
  rw [tlvHeader] at hheader
  obtain ⟨index, hindex, hheader⟩ := Outcome.bind_eq_ok.mp hheader
  obtain ⟨⟨length', count⟩, hlength, hheader⟩ := Outcome.bind_eq_ok.mp hheader
  obtain ⟨n, hfield, hcount, hvalue⟩ := tlvLength_ok hlength
  obtain ⟨rfl, heq⟩ := Prod.mk.inj (Except.ok.inj hheader)
  obtain ⟨rfl, rfl⟩ := Prod.mk.inj heq
  obtain ⟨hsize, h⟩ := Outcome.guard_eq_ok.mp h
  obtain ⟨rfl, rfl⟩ := Prod.mk.inj (Except.ok.inj h)
  have hpos := hfield.length_pos
  rw [hcount] at hpos
  rw [List.length_take, List.length_drop] at hcount
  refine ⟨_, n, ?_, valid_of_readIdentifier (readIdentifier_of_tagLength hindex), hfield, ?_⟩
  · rw [← List.drop_drop, List.take_append_drop, List.take_append_drop]
  · refine mod_of_bmod ?_
    rw [← hvalue, List.length_drop]
    omega

/-! ## Objects whose length wraps -/

/-- The octets are one object: an identifier, the number of content octets, the content. -/
def Framed (data tag content : Bytes) : Prop :=
  ∃ field, data = tag ++ (field ++ content) ∧ Tag.Valid ⟨tag⟩ ∧ LengthField field content.length

/-- The length octets spell another number than that of the octets after them, and the two agree
modulo `2 ^ 64`. -/
def LengthWraps (data : Bytes) : Prop :=
  ∃ tag field content n, data = tag ++ (field ++ content) ∧ Tag.Valid ⟨tag⟩ ∧
    LengthField field n ∧ n ≠ content.length ∧ n % 2 ^ 64 = content.length

theorem LengthField.unique {field : Bytes} {m n : Nat} (hm : LengthField field m)
    (hn : LengthField field n) : m = n := by
  cases hm with
  | short hb =>
      cases hn with
      | short _ => rfl
      | long _ hoctets => exact absurd rfl hoctets
  | long _ hoctets =>
      cases hn with
      | short _ => exact absurd rfl hoctets
      | long _ _ => rfl

theorem bmod_of_mod {n k : Nat} (h : n % 2 ^ 64 = k) (hk : k < 2 ^ 63) :
    (n : Int).bmod (2 ^ 64) = k := by
  rw [← bmod_of_lt hk, ← h]
  exact (Int.emod_bmod (n : Int) (2 ^ 64)).symm

theorem tlvContent_of_framed (hlen : data.length < 2 ^ 63) (h : Framed data tag content) :
    tlvContent data = .ok (tag, content) := by
  obtain ⟨field, rfl, htag, hfield⟩ := h
  refine tlvContent_append htag hfield (bmod_of_lt ?_)
  simp only [List.length_append] at hlen
  omega

/-- Everything accepted that is not one object has a length that wraps. -/
theorem framed_or_wraps (h : tlvContent data = .ok (tag, content)) :
    Framed data tag content ∨ LengthWraps data := by
  obtain ⟨field, n, hdata, htag, hfield, hn⟩ := tlvContent_ok h
  by_cases heq : n = content.length
  · exact .inl ⟨field, hdata, htag, heq ▸ hfield⟩
  · exact .inr ⟨tag, field, content, n, hdata, htag, hfield, heq, hn⟩

/-- An object whose length wraps is accepted, and is not the object that its length announces. -/
theorem accepted_of_wraps {data : Bytes} (hlen : data.length < 2 ^ 63) (h : LengthWraps data) :
    ∃ tag content, tlvContent data = .ok (tag, content) ∧ ¬ Framed data tag content := by
  obtain ⟨tag, field, content, n, rfl, htag, hfield, hne, hn⟩ := h
  have hcontent : content.length < 2 ^ 63 := by
    simp only [List.length_append] at hlen
    omega
  refine ⟨tag, content, tlvContent_append htag hfield (bmod_of_mod hn hcontent), ?_⟩
  rintro ⟨field', hdata, -, hfield'⟩
  obtain rfl := List.append_cancel_right (List.append_cancel_left hdata)
  exact hne (hfield.unique hfield')

/-- What is accepted is one object if and only if its length does not wrap. -/
theorem framed_iff (hlen : data.length < 2 ^ 63) (h : tlvContent data = .ok (tag, content)) :
    Framed data tag content ↔ ¬ LengthWraps data := by
  refine ⟨fun hframed hwraps => ?_, (framed_or_wraps h).resolve_right⟩
  obtain ⟨tag', content', hok, hnot⟩ := accepted_of_wraps hlen hwraps
  obtain ⟨rfl, rfl⟩ := Prod.mk.inj (Except.ok.inj (h.symm.trans hok))
  exact hnot hframed

/-- The relay accepts exactly the octets that are one object of definite length, with its tag and
content, if and only if the length octets do not wrap. -/
theorem tlvContent_exact_iff {data : Bytes} (hlen : data.length < 2 ^ 63) :
    (∀ tag content, tlvContent data = .ok (tag, content) ↔ Framed data tag content) ↔
      ¬ LengthWraps data := by
  constructor
  · intro h hwraps
    obtain ⟨tag, content, hok, hframed⟩ := accepted_of_wraps hlen hwraps
    exact hframed ((h tag content).mp hok)
  · intro hwraps tag content
    exact ⟨fun h => (framed_or_wraps h).resolve_right hwraps, tlvContent_of_framed hlen⟩

/-- Nine length octets that spell `2 ^ 64 + 2`, before two octets. -/
def wrappedLength : Bytes := [0xa2, 0x89, 1, 0, 0, 0, 0, 0, 0, 0, 2, 0xaa, 0xbb]

theorem wrapped_length_accepted :
    tlvContent wrappedLength = .ok ([0xa2], [0xaa, 0xbb]) ∧
      ¬ Framed wrappedLength [0xa2] [0xaa, 0xbb] := by
  refine ⟨by decide +kernel, ?_⟩
  rintro ⟨field, hdata, -, hfield⟩
  have hspelled : LengthField [0x89, 1, 0, 0, 0, 0, 0, 0, 0, 2] (2 ^ 64 + 2) :=
    .long rfl (List.cons_ne_nil _ _)
  obtain rfl : [0x89, 1, 0, 0, 0, 0, 0, 0, 0, 2] = field :=
    List.append_cancel_right (List.cons.inj hdata).2
  cases hspelled.unique hfield

theorem tlvContent_exact_two_octets :
    tlvContent [0xa2, 0x81, 2, 0xaa, 0xbb] = .ok ([0xa2], [0xaa, 0xbb]) ∧
      Framed [0xa2, 0x81, 2, 0xaa, 0xbb] [0xa2] [0xaa, 0xbb] := by
  have hok : tlvContent [0xa2, 0x81, 2, 0xaa, 0xbb] = .ok ([0xa2], [0xaa, 0xbb]) := by
    decide +kernel
  have hwraps : ¬ LengthWraps [0xa2, 0x81, 2, 0xaa, 0xbb] :=
    (framed_iff (by decide) hok).mp ⟨[0x81, 2], rfl, by decide, .long rfl (List.cons_ne_nil _ _)⟩
  exact ⟨hok, ((tlvContent_exact_iff (by decide)).mpr hwraps _ _).mp hok⟩

end OpenIotRsp.Relay
