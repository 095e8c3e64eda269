import OpenIotRsp.Verification.Esipa.Outcomes

/-!
# Messages on the wire

What is read off the wire is a well-formed tree, and so is every result in it.
The result that the verification decodes is then the one the handler has read.
-/

namespace OpenIotRsp.Esipa

open Octets Ber Stateful Asn1 Storage Euiccpkg

variable {H : Handler} {s : Store} {tlv raw : Tlv} {eid payload : Bytes}

theorem wellFormed_of_decodeRequest (hB : H.bertlv.Lawful) (h : decodeRequest H payload = .ok tlv) :
    tlv.WellFormed :=
  (parseTLV_encodes hB (parseTLV_of_decode h)).wellFormed

theorem wellFormed_of_provideResultTLV {provideTLV : Tlv} (htlv : tlv.WellFormed)
    (h : provideResultTLV tlv = some provideTLV) : provideTLV.WellFormed := by
  rw [provideResultTLV] at h
  split at h
  next =>
      split at h
      next child hchildren =>
          split at h
          next =>
              obtain rfl := Option.some.inj h
              exact htlv.child (by simp [hchildren])
          next => cases h
      next => cases h
  next =>
      split at h
      next =>
          obtain rfl := Option.some.inj h
          exact htlv
      next => cases h

theorem raw_of_unmarshalBERTLV {B : Bertlv} {result : EimPackageResult}
    (h : EimPackageResult.unmarshalBERTLV B tlv = .ok result) : result.raw = tlv := by
  rw [EimPackageResult.unmarshalBERTLV] at h
  split at h
  next =>
      obtain ⟨choice, -, h⟩ := Outcome.bind_eq_ok.mp h
      obtain rfl := Except.ok.inj h
      rfl
  next => cases h

/-- The result in a message is one of the nodes of the message. -/
theorem Delivers.wellFormed (h : Delivers H s tlv eid raw) (htlv : tlv.WellFormed) :
    raw.WellFormed := by
  cases h with
  | provide hprovide hdecode hraw =>
      have hwf := wellFormed_of_provideResultTLV htlv hprovide
      obtain ⟨-, -, hdecode⟩ := Outcome.bind_eq_ok.mp hdecode
      split at hdecode
      next child hfind =>
          obtain ⟨result, hresult, hdecode⟩ := Outcome.bind_eq_ok.mp hdecode
          obtain rfl := Except.ok.inj hdecode
          rw [← hraw, raw_of_unmarshalBERTLV hresult]
          exact hwf.child (List.mem_of_find?_eq_some hfind)
      next => cases hdecode
  | transfer htag hdecode hraw =>
      obtain ⟨-, -, hdecode⟩ := Outcome.bind_eq_ok.mp hdecode
      split at hdecode
      next child hchildren =>
          obtain ⟨-, -, hdecode⟩ := Outcome.bind_eq_ok.mp hdecode
          obtain rfl := Except.ok.inj hdecode
          rw [← hraw]
          exact htlv.child (by simp [hchildren])
      next => cases hdecode

theorem recordEimPackageResult_of_tag (htag : raw.tag = tagEuiccPkg ∨ raw.tag = tagSequence)
    (hpayload : marshalBinary H.bertlv raw = .ok payload) :
    recordEimPackageResult H eid raw s = recordEuiccPackageResult H eid raw payload s := by
  have htrig : raw.tag ≠ tagDownloadTrig := by
    rcases htag with htag | htag <;> rw [htag] <;> decide
  have hdata : raw.tag ≠ tagIpaEuiccData := by
    rcases htag with htag | htag <;> rw [htag] <;> decide
  have herror : ¬(raw.tag = tagInteger ∨ raw.tag = contextConstructed 0) := by
    rcases htag with htag | htag <;> rw [htag] <;> decide
  rw [recordEimPackageResult, ofExcept_bind_of_ok _ s hpayload, if_neg htrig, if_neg hdata,
    if_neg herror]

namespace PackageReading

variable (r : PackageReading H s eid raw)

theorem wellFormed (hraw : raw.WellFormed) : r.resultTLV.WellFormed := by
  have hsplit := r.split_eq
  rw [splitResult] at hsplit
  split at hsplit
  next =>
      split at hsplit
      next => cases hsplit
      next resultTLV hfirst =>
          obtain ⟨hresult, -⟩ := Prod.mk.inj (Except.ok.inj hsplit)
          rw [← hresult]
          exact hraw.first hfirst
  next =>
      obtain ⟨hresult, -⟩ := Prod.mk.inj (Except.ok.inj hsplit)
      rwa [← hresult]

/-- The encoded result decodes to what the handler has read. -/
theorem decode_resultDER (hB : H.bertlv.Lawful) (hraw : raw.WellFormed) :
    Asn1.decode H.bertlv (EuiccPackageResult.unmarshalBERTLV H.bertlv) r.resultDER =
      .ok r.result :=
  (decode_marshalBinary hB _ (r.wellFormed hraw) r.marshal_eq).trans r.decode_eq

include r in
/-- Only a package result, or one with notifications, is read as one. -/
theorem tag_raw : raw.tag = tagEuiccPkg ∨ raw.tag = tagSequence := by
  have hsplit := r.split_eq
  have htag := (EuiccPackageResult.of_unmarshalBERTLV r.decode_eq).1
  rw [splitResult] at hsplit
  split at hsplit
  next hsequence => exact .inr hsequence
  next =>
      obtain ⟨hresult, -⟩ := Prod.mk.inj (Except.ok.inj hsplit)
      rw [← hresult] at htag
      exact .inl htag

include r in
theorem recordEimPackageResult_eq (hpayload : marshalBinary H.bertlv raw = .ok payload) :
    recordEimPackageResult H eid raw s = recordEuiccPackageResult H eid raw payload s :=
  recordEimPackageResult_of_tag r.tag_raw hpayload

end PackageReading

end OpenIotRsp.Esipa
