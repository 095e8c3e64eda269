import OpenIotRsp.Model.Asn1.Upload
import OpenIotRsp.Verification.PackageResult.ResultRoundTrip

/-!
# Results that the IPA writes

The eIM reads a list of profiles as the IPA has written it.
-/

namespace OpenIotRsp.Asn1

open Octets Ber Outcome

variable {B : Bertlv}

/-- What is written is decoded as its tree is read. -/
theorem decode_written {α : Type} (hB : B.Lawful) {unmarshal : Tlv → Except Error α} {t : Tlv}
    {w : Bytes} (ht : t.WellFormed) (hw : B.marshalBinary t = some w) :
    decode B unmarshal w = unmarshal t := by
  rw [decode, parseTLV_marshalBinary hB ht hw]
  rfl

theorem booleanTLV_eq_ok {tag : Tag} {v : Bool} {t : Tlv} (h : booleanTLV B tag v = .ok t) :
    ∃ b, B.marshalBool v = some b ∧ t = .primitive tag b := by
  rw [booleanTLV] at h
  split at h
  next b hb => exact ⟨b, hb, (Except.ok.inj h).symm⟩
  next => cases h

theorem boolean_field (hB : B.Lawful) {tag : Tag} (htag : tag.Valid ∧ tag.isConstructed = false)
    {field : Option Bool} {cs : List Tlv} (h : optionalChild field (booleanTLV B tag) = .ok cs) :
    ∃ f : Field tag, cs = f.children ∧
      optionalValue f.tlv (fun c => booleanValue B c) = .ok field := by
  refine exists_field h (fun a t ht => ?_) fun a t _ ht => ?_
  · obtain ⟨b, -, rfl⟩ := booleanTLV_eq_ok ht
    exact ⟨rfl, htag⟩
  · obtain ⟨b, hb, rfl⟩ := booleanTLV_eq_ok ht
    simp [booleanValue, hB.unmarshalBool_marshalBool a b tag hb]

theorem octets_field (tag : Tag) (htag : tag.Valid ∧ tag.isConstructed = false)
    (value : Option Bytes) :
    ∃ f : Field tag, value.toList.map (octetTLV tag) = f.children ∧
      f.tlv.map Tlv.value = value := by
  cases value with
  | none => exact ⟨⟨none, nofun, nofun⟩, rfl, rfl⟩
  | some octets => exact ⟨.primitive tag htag octets, rfl, rfl⟩

theorem ProfileInfo.read_written (hB : B.Lawful) {p : ProfileInfo} {t : Tlv}
    (h : p.marshalBERTLV B = .ok t) :
    t.WellFormed ∧ ProfileInfo.unmarshalBERTLV B t = .ok p := by
  obtain ⟨state, hstate, h⟩ := bind_eq_ok.mp h
  obtain ⟨fallback, hfallback, h⟩ := bind_eq_ok.mp h
  obtain rfl := Except.ok.inj h
  obtain ⟨iccid, hiccid, hiccid_eq⟩ := octets_field tagEID (by decide) p.iccid
  obtain ⟨state, rfl, hstate_eq⟩ := integer_field hB (by decide) hstate
  obtain ⟨fallback, rfl, hfallback_eq⟩ := boolean_field hB (by decide) hfallback
  have hflag : (if p.fallbackAttribute then some true else none).getD false =
      p.fallbackAttribute := by cases p.fallbackAttribute <;> rfl
  rw [hiccid]
  refine ⟨⟨by decide, by decide, Tlv.allWellFormed_iff.mpr fun t ht => ?_⟩, ?_⟩
  · simp only [List.mem_append] at ht
    rcases ht with (ht | ht) | ht
    · exact Field.wellFormed_of_mem ht
    · exact Field.wellFormed_of_mem ht
    · exact Field.wellFormed_of_mem ht
  · simp (disch := decide) only [ProfileInfo.unmarshalBERTLV, expectTag, Tlv.tag_constructed,
      if_true, Tlv.first, Tlv.children_constructed, List.find?_append, Field.find_self,
      Field.find_ne, Option.none_or, Option.or_none, ok_bind, hiccid_eq, hstate_eq, hfallback_eq,
      hflag]
    rfl

/-- A list of profiles is read as it was written. -/
theorem ProfileInfoListResponse.read_written (hB : B.Lawful) {profiles : List ProfileInfo}
    {t : Tlv} (h : ProfileInfoListResponse.marshalBERTLV B ⟨profiles, none⟩ = .ok t) :
    t.tag = tagProfileInfoList ∧ t.WellFormed ∧
      ProfileInfoListResponse.unmarshalBERTLV B t = .ok ⟨profiles, none⟩ := by
  obtain ⟨children, hchildren, h⟩ := bind_eq_ok.mp h
  obtain rfl := Except.ok.inj h
  have hread : children.mapM (ProfileInfo.unmarshalBERTLV B) = .ok profiles :=
    mapM_eq_ok.mpr ((mapM_eq_ok.mp hchildren).flip.imp fun _ _ ht => (ProfileInfo.read_written hB ht).2)
  refine ⟨rfl, ⟨by decide, by decide, ⟨by decide, by decide, ?_⟩, trivial⟩, ?_⟩
  · refine Tlv.allWellFormed_iff.mpr fun child hchild => ?_
    obtain ⟨p, -, hp⟩ := exists_source_of_mapM hchildren hchild
    exact (ProfileInfo.read_written hB hp).1
  · have herror : profileInfoListErrorTLV (.constructed tagSequence children) = none := by
      have hinteger : tagSequence ≠ tagInteger ∧ tagSequence ≠ context 1 ∧
          tagSequence ≠ contextConstructed 1 := by decide
      simp only [profileInfoListErrorTLV, Tlv.tag_constructed, hinteger, or_self, if_false,
        Tlv.children_constructed, false_and]
      split <;> rfl
    have harm : unwrapProfileInfoListOk (.constructed tagSequence children) =
        .constructed tagSequence children :=
      if_neg (show tagSequence ≠ contextConstructed 0 by decide)
    simp [ProfileInfoListResponse.unmarshalBERTLV, expectTag, herror, harm, hread]

end OpenIotRsp.Asn1
