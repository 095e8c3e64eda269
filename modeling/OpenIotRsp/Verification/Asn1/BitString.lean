import OpenIotRsp.Library.Bits
import OpenIotRsp.Model.Asn1.Codec

/-!
# The BIT STRING codec

`marshalBitString` and `unmarshalBitString` are inverse to each other: every
list of bits is read back, and every string that is read is the one written for
its bits.
-/

namespace OpenIotRsp.Asn1

open Octets

/-! ## Packed octets -/

theorem testBit_packOctet (bits : List Bool) {i : Nat} (hi : i < 8) :
    (packOctet bits).toNat.testBit (7 - i) = bits.getD i false := by
  have hvalue : (packOctet bits).toNat = ofLeadingBits bits 8 :=
    Nat.mod_eq_of_lt (ofLeadingBits_lt bits 8)
  rw [hvalue]
  exact testBit_ofLeadingBits bits hi

@[simp]
theorem length_packOctets (n : Nat) (bits : List Bool) : (packOctets n bits).length = n := by
  induction n generalizing bits with
  | zero => rfl
  | succ n ih => simp [packOctets, ih]

/-- The bits of the packed octets are the bits, then zeros. -/
theorem bitAt_packOctets {n i : Nat} (bits : List Bool) (hi : i < 8 * n) :
    bitAt (packOctets n bits) i = bits.getD i false := by
  induction n generalizing bits i with
  | zero => omega
  | succ n ih =>
      by_cases hfirst : i < 8
      · have hindex : i / 8 = 0 := Nat.div_eq_of_lt hfirst
        have hoffset : i % 8 = i := Nat.mod_eq_of_lt hfirst
        simp only [bitAt, hindex, hoffset, packOctets, List.getD_cons_zero]
        rw [testBit_packOctet _ hfirst]
        simp [List.getD_eq_getElem?_getD, hfirst]
      · have hrest := ih (bits.drop 8) (i := i - 8) (by omega)
        have hindex : i / 8 = (i - 8) / 8 + 1 := by omega
        have hoffset : i % 8 = (i - 8) % 8 := by omega
        simp only [bitAt, hindex, hoffset, packOctets, List.getD_cons_succ] at hrest ⊢
        rw [hrest]
        simp [List.getD_eq_getElem?_getD, Nat.add_sub_cancel' (Nat.le_of_not_lt hfirst)]

/-- The last octet ends with the last eight bits. -/
theorem testBit_getLastD {data : Bytes} (hdata : data ≠ []) {i : Nat} (hi : i < 8) :
    (data.getLastD 0).toNat.testBit i = bitAt data (8 * data.length - 1 - i) := by
  have hpos : 0 < data.length := List.length_pos_iff.mpr hdata
  have hindex : (8 * data.length - 1 - i) / 8 = data.length - 1 := by omega
  have hoffset : 7 - (8 * data.length - 1 - i) % 8 = i := by omega
  rw [bitAt, hindex, hoffset, List.getLastD_eq_getLast?, List.getLast?_eq_getElem?,
    List.getD_eq_getElem?_getD]

/-! ## What is accepted -/

/-- The form that the reader accepts: at most seven unused bits, all zero, and none without
contents. -/
structure Canonical (unused : UInt8) (data : Bytes) : Prop where
  unused_le : unused.toNat ≤ 7
  unused_empty : data = [] → unused = 0
  padding : ∀ i < unused.toNat, (data.getLastD 0).toNat.testBit i = false

theorem unmarshalBitString_eq_ok {octets : Bytes} {bits : List Bool} :
    unmarshalBitString octets = .ok bits ↔ ∃ unused data, octets = unused :: data ∧
      Canonical unused data ∧
      bits = (List.range (data.length * 8 - unused.toNat)).map (bitAt data) := by
  cases octets with
  | nil => simp [unmarshalBitString]
  | cons unused data =>
      have hpadding := mod_two_pow_eq_zero_iff (data.getLastD 0).toNat unused.toNat
      constructor
      · intro h
        simp only [unmarshalBitString] at h
        split at h
        next => cases h
        next hcount =>
            split at h
            next => cases h
            next hzero =>
                cases h
                refine ⟨unused, data, rfl, ⟨by omega, fun hdata => ?_, hpadding.mp ?_⟩, rfl⟩
                · exact not_not.mp fun hunused => hcount (.inr ⟨hdata, hunused⟩)
                · by_cases hdata : data = []
                  · simp [hdata]
                  · exact not_not.mp fun hne => hzero ⟨hdata, hne⟩
      · rintro ⟨_, _, hoctets, hcanonical, rfl⟩
        cases hoctets
        have hcount : ¬ (7 < unused.toNat ∨ data = [] ∧ unused ≠ 0) := by
          rintro (h | ⟨hdata, hunused⟩)
          · exact absurd hcanonical.unused_le (by omega)
          · exact hunused (hcanonical.unused_empty hdata)
        rw [unmarshalBitString, if_neg hcount,
          if_neg fun h => h.2 (hpadding.mpr hcanonical.padding)]
        rfl

/-! ## The two directions -/

theorem marshalBitString_of_ne_nil {bits : List Bool} (h : bits ≠ []) :
    marshalBitString bits =
      UInt8.ofNat ((8 - bits.length % 8) % 8) :: packOctets ((bits.length + 7) / 8) bits :=
  if_neg h

theorem unmarshalBitString_marshalBitString (bits : List Bool) :
    unmarshalBitString (marshalBitString bits) = .ok bits := by
  by_cases hbits : bits = []
  · subst hbits
    rfl
  · have hpos : 0 < bits.length := List.length_pos_iff.mpr hbits
    have hunused : (UInt8.ofNat ((8 - bits.length % 8) % 8)).toNat = (8 - bits.length % 8) % 8 :=
      Nat.mod_eq_of_lt (by omega)
    have hne : packOctets ((bits.length + 7) / 8) bits ≠ [] := by
      apply List.ne_nil_of_length_pos
      rw [length_packOctets]
      omega
    rw [marshalBitString_of_ne_nil hbits]
    refine unmarshalBitString_eq_ok.mpr ⟨_, _, rfl, ⟨?_, fun h => absurd h hne, ?_⟩, ?_⟩
    · omega
    · intro i hi
      rw [hunused] at hi
      rw [testBit_getLastD hne (by omega), length_packOctets, bitAt_packOctets _ (by omega)]
      exact List.getD_eq_default _ _ (by omega)
    · rw [hunused, length_packOctets]
      apply List.ext_getElem
      · simp only [List.length_map, List.length_range]
        omega
      · intro i hi _
        rw [List.getElem_map, List.getElem_range, bitAt_packOctets _ (by omega),
          List.getD_eq_getElem _ _ hi]

theorem marshalBitString_of_unmarshalBitString {octets : Bytes} {bits : List Bool}
    (h : unmarshalBitString octets = .ok bits) : marshalBitString bits = octets := by
  obtain ⟨unused, data, rfl, hcanonical, rfl⟩ := unmarshalBitString_eq_ok.mp h
  by_cases hdata : data = []
  · subst hdata
    rw [hcanonical.unused_empty rfl]
    rfl
  · have hpos : 0 < data.length := List.length_pos_iff.mpr hdata
    have hle := hcanonical.unused_le
    generalize hbits : (List.range (data.length * 8 - unused.toNat)).map (bitAt data) = bits
    have hlength : bits.length = data.length * 8 - unused.toNat := by simp [← hbits]
    have hoctets : (bits.length + 7) / 8 = data.length := by omega
    have hcount : (8 - bits.length % 8) % 8 = unused.toNat := by omega
    rw [marshalBitString_of_ne_nil (List.ne_nil_of_length_pos (by omega)), hoctets, hcount,
      UInt8.ofNat_toNat]
    congr 1
    apply eq_of_bitAt_eq (length_packOctets _ _)
    intro i hi
    rw [length_packOctets] at hi
    rw [bitAt_packOctets bits hi]
    by_cases hread : i < bits.length
    · rw [List.getD_eq_getElem _ _ hread]
      simp [← hbits]
    · -- a padding bit: no bit was read there, and the check found it zero
      have hpadding := hcanonical.padding (8 * data.length - 1 - i) (by omega)
      rw [testBit_getLastD hdata (by omega),
        show 8 * data.length - 1 - (8 * data.length - 1 - i) = i by omega] at hpadding
      rw [hpadding, List.getD_eq_default _ _ (by omega)]

/-- The codec is a bijection between the lists of bits and the accepted strings, and every accepted
string is in canonical form. -/
theorem bitString_bijection :
    (∀ bits, unmarshalBitString (marshalBitString bits) = .ok bits) ∧
      ∀ octets bits, unmarshalBitString octets = .ok bits →
        marshalBitString bits = octets ∧
          ∃ unused data, octets = unused :: data ∧ Canonical unused data := by
  refine ⟨unmarshalBitString_marshalBitString, fun octets bits h => ⟨?_, ?_⟩⟩
  · exact marshalBitString_of_unmarshalBitString h
  · obtain ⟨unused, data, hoctets, hcanonical, -⟩ := unmarshalBitString_eq_ok.mp h
    exact ⟨unused, data, hoctets, hcanonical⟩

theorem bitString_bijection_three_bits :
    unmarshalBitString [5, 0xa0] = .ok [true, false, true] ∧
      marshalBitString [true, false, true] = [5, 0xa0] := by
  have hread : unmarshalBitString [5, 0xa0] = .ok [true, false, true] := by decide +kernel
  exact ⟨hread, (bitString_bijection.2 _ _ hread).1⟩

end OpenIotRsp.Asn1
