import OpenIotRsp.Library.Outcome
import OpenIotRsp.Model.Asn1.Esipa

/-!
# Parsing whole inputs

What the codec helpers accept is spelled by the input, and what is written is
parsed again.
-/

namespace OpenIotRsp.Asn1

open Octets Ber

variable {B : Bertlv}

/-- A tree that takes the whole input is spelled by it. -/
theorem encodes_of_readFrom (hB : B.Lawful) {data : Bytes} {t : Tlv}
    (hread : B.readFrom data = .ok (t, data.length)) : Encodes t data := by
  obtain ⟨w, r, rfl, hlength, ht⟩ := hB.readFrom_sound _ _ _ hread
  obtain rfl : r = [] := by
    rw [List.length_append] at hlength
    exact List.eq_nil_of_length_eq_zero (by omega)
  simpa using ht

theorem parseTLV_encodes (hB : B.Lawful) {data : Bytes} {t : Tlv}
    (hparse : parseTLV B data = .ok t) : Encodes t data := by
  simp only [parseTLV, Outcome.guard_eq_ok] at hparse
  obtain ⟨-, hparse⟩ := hparse
  split at hparse
  next => cases hparse
  next => cases hparse
  next t' n hread =>
      rw [Outcome.guard_eq_ok, not_not] at hparse
      obtain ⟨rfl, rfl⟩ := (⟨hparse.1, Except.ok.inj hparse.2⟩ : n = data.length ∧ t' = t)
      exact encodes_of_readFrom hB hread

theorem ne_nil_of_marshalBinary (hB : B.Lawful) {t : Tlv} {w : Bytes} (ht : t.WellFormed)
    (hw : B.marshalBinary t = some w) : w ≠ [] := by
  rintro rfl
  obtain ⟨w, r, happend, -, hencodes⟩ :=
    hB.readFrom_sound [] t 0 (hB.readFrom_marshalBinary t [] ht hw)
  have hnil : w = [] := (List.append_eq_nil_iff.mp happend.symm).1
  exact absurd hencodes.length_pos (by simp [hnil])

/-- What is written of a well-formed tree is parsed as the tree. -/
theorem parseTLV_marshalBinary (hB : B.Lawful) {t : Tlv} {w : Bytes} (ht : t.WellFormed)
    (hw : B.marshalBinary t = some w) : parseTLV B w = .ok t := by
  simp [parseTLV, ne_nil_of_marshalBinary hB ht hw, hB.readFrom_marshalBinary t w ht hw]

theorem encode_eq_ok {marshaled : Except Error Tlv} {w : Bytes} :
    encode B marshaled = .ok w ↔ ∃ t, marshaled = .ok t ∧ B.marshalBinary t = some w := by
  rw [encode, Outcome.bind_eq_ok]
  constructor
  · rintro ⟨t, ht, h⟩
    refine ⟨t, ht, ?_⟩
    cases hw : B.marshalBinary t with
    | none => simp [hw] at h
    | some w' =>
        rw [hw] at h
        exact congrArg some (Except.ok.inj h)
  · rintro ⟨t, ht, hw⟩
    exact ⟨t, ht, by rw [hw]; rfl⟩

@[simp]
theorem expectTag_eq_ok {t : Tlv} {tag : Tag} : expectTag t tag = .ok () ↔ t.tag = tag := by
  by_cases h : t.tag = tag <;> simp [expectTag, h]

/-- A message of the IPA is the tree that the input spells. -/
theorem parseTLV_of_decode {payload : Bytes} {message : Tlv}
    (h : decode B ESipaMessageFromIpaToEim.unmarshalBERTLV payload = .ok message) :
    parseTLV B payload = .ok message := by
  obtain ⟨tlv, hparse, hmessage⟩ := Outcome.bind_eq_ok.mp h
  rw [ESipaMessageFromIpaToEim.unmarshalBERTLV] at hmessage
  split at hmessage
  next =>
      obtain rfl := Except.ok.inj hmessage
      exact hparse
  next => cases hmessage

end OpenIotRsp.Asn1
