import OpenIotRsp.Library.Ber.Complete
import OpenIotRsp.Verification.PackageResult.ChildSpans
import OpenIotRsp.Verification.PackageResult.ResultRoundTrip

/-!
# What a signature is made over

The octets under a signature tell the signed object and the association token,
and no request is taken for the signed data of a result: its second field is the
EID where a result has the counter.
-/

namespace OpenIotRsp.Euiccpkg

open Octets Ber Asn1

variable {B : Bertlv} {p : EuiccPackageSigned} {token token' : Option Int}

/-! ## The two parts of a signature input -/

theorem signatureInput_eq_ok {d x : Bytes} {token : Option Int}
    (h : signatureInput B d token = .ok x) :
    ∃ v w, B.marshalInt (token.getD 0) = some v ∧
      B.marshalBinary (.primitive (context 4) v) = some w ∧ x = d ++ w := by
  obtain ⟨w, htoken, h⟩ := Outcome.bind_eq_ok.mp h
  rw [associationTokenTLV] at htoken
  cases hv : B.marshalInt (token.getD 0) with
  | none => simp [hv] at htoken
  | some v =>
      cases hw : B.marshalBinary (.primitive (context 4) v) with
      | none => simp [hv, hw] at htoken
      | some w' =>
          simp only [hv, hw, Except.ok.injEq] at htoken
          exact ⟨v, w', rfl, hw, htoken ▸ (Except.ok.inj h).symm⟩

theorem token_wellFormed (v : Bytes) : Tlv.WellFormed (.primitive (context 4) v) :=
  ⟨by decide, by decide⟩

theorem token_injective (hB : B.Lawful) {a b : Int} {va vb w : Bytes}
    (ha : B.marshalInt a = some va) (hb : B.marshalInt b = some vb)
    (hwa : B.marshalBinary (.primitive (context 4) va) = some w)
    (hwb : B.marshalBinary (.primitive (context 4) vb) = some w) : a = b := by
  have hra := hB.readFrom_marshalBinary _ w (token_wellFormed va) hwa
  have hrb := hB.readFrom_marshalBinary _ w (token_wellFormed vb) hwb
  have htlv := congrArg Prod.fst (Except.ok.inj (hra.symm.trans hrb))
  obtain rfl : va = vb := (Tlv.primitive.inj htlv).2
  have hua := hB.unmarshalInt_marshalInt a va (context 4) ha
  exact Option.some.inj (hua.symm.trans (hB.unmarshalInt_marshalInt b va (context 4) hb))

theorem signatureInput_injective (hB : B.Lawful) {d d' x : Bytes} (hd : Complete d)
    (hd' : Complete d') (h : signatureInput B d token = .ok x)
    (h' : signatureInput B d' token' = .ok x) : d = d' ∧ token.getD 0 = token'.getD 0 := by
  obtain ⟨v, w, hv, hw, rfl⟩ := signatureInput_eq_ok h
  obtain ⟨v', w', hv', hw', heq⟩ := signatureInput_eq_ok h'
  obtain rfl := hd.unique hd' heq
  obtain rfl := List.append_cancel_left heq
  exact ⟨rfl, token_injective hB hv hv' hw hw'⟩

/-- The association token alone is never the input for an object. -/
theorem signatureInput_ne_token (hB : B.Lawful) {d x : Bytes} (hd : Complete d)
    (h : signatureInput B d token = .ok x) : signatureInput B [] token' ≠ .ok x := by
  intro h'
  obtain ⟨v, w, -, hw, rfl⟩ := signatureInput_eq_ok h
  obtain ⟨v', w', -, hw', heq⟩ := signatureInput_eq_ok h'
  have hobject := (parseTLV_encodes hB (parseTLV_marshalBinary hB (token_wellFormed v') hw')).complete
  obtain rfl : w' = d := hobject.unique hd (by rw [heq, List.nil_append, List.append_nil])
  have hnil : w = [] := by simpa using heq
  exact ne_nil_of_marshalBinary hB (token_wellFormed v) hw hnil

/-! ## The signed data of a result -/

theorem parse_of_childrenFrom {data : Bytes} {stop rounds offset : Nat} {span : TlvSpan}
    {rest : List TlvSpan} (h : childrenFrom data stop rounds offset = .ok (span :: rest)) :
    parseTLVSpan data offset = .ok span := by
  cases rounds with
  | zero => cases h
  | succ rounds =>
      rw [childrenFrom] at h
      split at h
      next =>
          obtain ⟨child, hparse, h⟩ := Outcome.bind_eq_ok.mp h
          obtain ⟨others, -, h⟩ := Outcome.bind_eq_ok.mp h
          rw [hparse, (List.cons.inj (Except.ok.inj h)).1]
      next => cases h

/-- The signed data is the span of an object with the fields of a result. -/
theorem rawSignedData_eq_ok {data d : Bytes}
    (h : rawSignedDataFromResultDER data = .ok (some d)) :
    ∃ offset span, parseTLVSpan data offset = .ok span ∧
      validateResultSignedData data span = .ok () ∧ span.wire data = d := by
  simp only [rawSignedDataFromResultDER, Outcome.throw_eq, Outcome.pure_eq, Outcome.error_bind] at h
  obtain ⟨root, -, h⟩ := Outcome.bind_eq_ok.mp h
  obtain ⟨-, h⟩ := Outcome.guard_eq_ok.mp h
  obtain ⟨-, h⟩ := Outcome.guard_eq_ok.mp h
  obtain ⟨selected, -, h⟩ := Outcome.bind_eq_ok.mp h
  split at h
  next => cases h
  split at h
  next => cases h
  obtain ⟨spans, hspans, h⟩ := Outcome.bind_eq_ok.mp h
  cases spans with
  | nil => cases h
  | cons span rest =>
      simp only [signedDataOfSpans, Outcome.throw_eq, Outcome.pure_eq, Outcome.error_bind] at h
      split at h
      next => cases h
      obtain ⟨-, h⟩ := Outcome.guard_eq_ok.mp h
      obtain ⟨⟨⟩, hvalid, h⟩ := Outcome.bind_eq_ok.mp h
      exact ⟨_, span, parse_of_childrenFrom hspans, hvalid, Option.some.inj (Except.ok.inj h)⟩

theorem signedDataPrefix_eq_some {fields rest : List TlvSpan}
    (h : signedDataPrefix fields = some rest) :
    ∃ eimID counter others, fields = eimID :: counter :: others ∧
      counter.tag = Raw.tagContext1 := by
  unfold signedDataPrefix at h
  split at h
  next eimID counter third others =>
      split at h
      next htags => exact ⟨eimID, counter, _, rfl, htags.2⟩
      next => cases h
  next => cases h

theorem second_tag_of_validate {data : Bytes} {span : TlvSpan}
    (h : validateResultSignedData data span = .ok ()) :
    ∃ eimID counter rest, children data span = .ok (eimID :: counter :: rest) ∧
      counter.tag = Raw.tagContext1 := by
  simp only [validateResultSignedData, Outcome.throw_eq, Outcome.pure_eq, Outcome.error_bind] at h
  obtain ⟨-, h⟩ := Outcome.guard_eq_ok.mp h
  obtain ⟨fields, hfields, h⟩ := Outcome.bind_eq_ok.mp h
  have hprefix : ∃ rest, signedDataPrefix fields = some rest := by
    rw [← Option.isSome_iff_exists, ← Option.ne_none_iff_isSome]
    intro hnone
    simp [isPackageResultDataSigned, isPackageErrorDataSigned, hnone] at h
  obtain ⟨rest, hrest⟩ := hprefix
  obtain ⟨eimID, counter, others, rfl, htag⟩ := signedDataPrefix_eq_some hrest
  exact ⟨eimID, counter, others, hfields, htag⟩

/-- The second field of an object that has at least two. -/
theorem second_field {data : Bytes} {offset : Nat} {span : TlvSpan} {tag : Tag} {a c : Tlv}
    {header va vc b : Bytes} (hparse : parseTLVSpan data offset = .ok span)
    (hwire : span.wire data = header ++ (va ++ (vc ++ b)))
    (hheader : Header tag (va ++ (vc ++ b)).length header) (ha : Encodes a va)
    (hc : Encodes c vc) {fields : List TlvSpan} (hfields : children data span = .ok fields) :
    ∃ first second rest, fields = first :: second :: rest ∧ second.tag = c.tag.octets := by
  obtain ⟨header', body, r, tag', hdrop, hheader', rfl⟩ := parseTLVSpan_sound hparse
  have heq := (wire_headerSpan hdrop).symm.trans hwire
  obtain ⟨rfl, -, -, rfl⟩ := hheader'.unique hheader heq
  have hvalue : data.drop (offset + header'.length) = va ++ (vc ++ (b ++ r)) := by
    rw [← List.drop_drop, hdrop]
    simp
  have hpos := ha.length_pos
  have hpos' := hc.length_pos
  have hstop : (headerSpan offset header' tag' (va ++ (vc ++ b)).length).valueEnd =
      offset + header'.length + (va.length + (vc.length + b.length)) := by
    simp only [headerSpan, List.length_append]
  rw [children, hstop] at hfields
  obtain ⟨left, first, others, hleft, hfirst, hothers, rfl⟩ :=
    childrenFrom_eq_ok (by simp only [headerSpan]; omega) (Nat.le_refl _) hfields
  obtain ⟨-, hend, -⟩ := parseTLVSpan_encodes ha hvalue hfirst
  simp only [headerSpan] at hleft hend
  rw [hend] at hothers
  obtain ⟨-, second, rest, -, hsecond, -, rfl⟩ :=
    childrenFrom_eq_ok (by omega) (by omega) hothers
  have hnext : data.drop (offset + header'.length + va.length) = vc ++ (b ++ r) := by
    rw [← List.drop_drop, hvalue, List.drop_left]
  exact ⟨first, second, rest, rfl, (parseTLVSpan_encodes hc hnext hsecond).1⟩

theorem request_fields {t : Tlv} (h : p.marshalBERTLV B = .ok t) :
    ∃ rest, t = .constructed tagSequence
      (utf8TLV (context 0) p.eimID :: octetTLV tagEID p.eid :: rest) := by
  obtain ⟨counter, -, h⟩ := Outcome.bind_eq_ok.mp h
  obtain ⟨pkg, -, h⟩ := Outcome.bind_eq_ok.mp h
  obtain ⟨transactionID, -, h⟩ := Outcome.bind_eq_ok.mp h
  exact ⟨_, (Except.ok.inj h).symm⟩

/-- A request is an object whose second field is the EID. -/
theorem request_octets (hminimal : B.Minimal) {w : Bytes}
    (hencode : encode B (p.marshalBERTLV B) = .ok w) :
    ∃ header va vc b, w = header ++ (va ++ (vc ++ b)) ∧
      Header tagSequence (va ++ (vc ++ b)).length header ∧
      Encodes (utf8TLV (context 0) p.eimID) va ∧ Encodes (octetTLV tagEID p.eid) vc := by
  obtain ⟨t, ht, hw⟩ := encode_eq_ok.mp hencode
  obtain ⟨rest, rfl⟩ := request_fields ht
  obtain ⟨header, va, body, rfl, hheader, ha, hbody⟩ :=
    encode_first_child (hminimal.marshalBinary_minimal _ w hw)
  obtain ⟨vc, b, rfl, hc, -⟩ := encodeAll_cons hbody
  exact ⟨header, va, vc, b, rfl, encodeHeader_sound (by decide) hheader,
    encode_sound _ _ ⟨by decide, by decide⟩ ha, encode_sound _ _ ⟨by decide, by decide⟩ hc⟩

theorem request_complete (hminimal : B.Minimal) {w : Bytes}
    (hencode : encode B (p.marshalBERTLV B) = .ok w) : Complete w := by
  obtain ⟨header, va, vc, b, rfl, hheader, -, -⟩ := request_octets hminimal hencode
  exact .definite hheader

theorem rawSignedData_ne_request (hminimal : B.Minimal) {w : Bytes}
    (hencode : encode B (p.marshalBERTLV B) = .ok w) (data : Bytes) :
    rawSignedDataFromResultDER data ≠ .ok (some w) := by
  intro h
  obtain ⟨offset, span, hparse, hvalid, hwire⟩ := rawSignedData_eq_ok h
  obtain ⟨header, va, vc, b, rfl, hheader, ha, hc⟩ := request_octets hminimal hencode
  obtain ⟨eimID, counter, rest, hfields, htag⟩ := second_tag_of_validate hvalid
  obtain ⟨first, second, others, heq, htag'⟩ := second_field hparse hwire hheader ha hc hfields
  obtain ⟨-, heq⟩ := List.cons.inj heq
  obtain ⟨rfl, -⟩ := List.cons.inj heq
  have hne : Raw.tagContext1 ≠ tagEID.octets := by decide
  exact hne (htag.symm.trans htag')

/-- The octets of the signed data, nil counting as none, tell a result from every request. -/
theorem signatureInput_ne_request (hB : B.Lawful) (hminimal : B.Minimal) {w data x : Bytes}
    {raw : Option Bytes} (hencode : encode B (p.marshalBERTLV B) = .ok w)
    (hraw : rawSignedDataFromResultDER data = .ok raw) (h : signatureInput B w token = .ok x) :
    signatureInput B (raw.getD []) token' ≠ .ok x := by
  have hw := request_complete hminimal hencode
  cases raw with
  | none => exact signatureInput_ne_token hB hw h
  | some d =>
      intro h'
      obtain ⟨offset, span, hparse, -, hwire⟩ := rawSignedData_eq_ok hraw
      obtain ⟨header', body, r, tag, hdrop, hheader', rfl⟩ := parseTLVSpan_sound hparse
      have hd : Complete d := by
        rw [← hwire, wire_headerSpan hdrop]
        exact .definite hheader'
      obtain ⟨rfl, -⟩ := signatureInput_injective hB hw hd h h'
      exact rawSignedData_ne_request hminimal hencode data hraw

/-- **Signature inputs.**  The octets under a signature tell the signed object and the association
token; the octets of a request are never the signed data of a result, and no input for a request is
one for a result. -/
theorem signature_input_unambiguous (hB : B.Lawful) (hminimal : B.Minimal) :
    (∀ d d' token token' x, Complete d → Complete d' → signatureInput B d token = .ok x →
      signatureInput B d' token' = .ok x → d = d' ∧ token.getD 0 = token'.getD 0) ∧
    ∀ (p : EuiccPackageSigned) w, encode B (p.marshalBERTLV B) = .ok w → ∀ data,
      rawSignedDataFromResultDER data ≠ .ok (some w) ∧
      ∀ raw token token' x, rawSignedDataFromResultDER data = .ok raw →
        signatureInput B w token = .ok x → signatureInput B (raw.getD []) token' ≠ .ok x := by
  constructor
  · intro d d' token token' x hd hd' h h'
    exact signatureInput_injective hB hd hd' h h'
  · intro p w hencode data
    exact ⟨rawSignedData_ne_request hminimal hencode data, fun raw token token' x hraw h =>
      signatureInput_ne_request hB hminimal hencode hraw h⟩

def sampleSigned : EuiccPackageSigned where
  eimID := [0x61]
  eid := [0x89]
  counterValue := 1
  eimTransactionID := none
  euiccPackage := .psmo [.getRAT]

def sampleSignedDER : Bytes :=
  [0x30, 0x0d, 0x80, 0x01, 0x61, 0x5a, 0x01, 0x89, 0x81, 0x01, 0x01, 0xa0, 0x02, 0xa6, 0x00]

theorem signature_input_unambiguous_get_rat :
    encode Bertlv.reference (sampleSigned.marshalBERTLV Bertlv.reference) = .ok sampleSignedDER ∧
      rawSignedDataFromResultDER ([0xbf, 0x51, 0x14, 0x30, 0x12] ++ sampleSignedDER ++
        [0x5f, 0x37, 0x00]) ≠ .ok (some sampleSignedDER) ∧
      ∀ token token' x, signatureInput Bertlv.reference sampleSignedDER token = .ok x →
        signatureInput Bertlv.reference sampleSignedDER token' = .ok x →
        token.getD 0 = token'.getD 0 := by
  have hencode : encode Bertlv.reference (sampleSigned.marshalBERTLV Bertlv.reference) =
      .ok sampleSignedDER := by
    decide +kernel
  obtain ⟨hinjective, hrequest⟩ :=
    signature_input_unambiguous Bertlv.reference_lawful Bertlv.reference_minimal
  have hcomplete := request_complete Bertlv.reference_minimal hencode
  exact ⟨hencode, (hrequest sampleSigned _ hencode _).1, fun token token' x h h' =>
    (hinjective _ _ token token' x hcomplete hcomplete h h').2⟩

end OpenIotRsp.Euiccpkg
