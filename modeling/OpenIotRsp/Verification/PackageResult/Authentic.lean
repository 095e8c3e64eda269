import OpenIotRsp.Verification.Package.Errors
import OpenIotRsp.Verification.PackageResult.SignatureBinding

/-!
# Authentic results

A result for which the package has no alternative is an error of the
verification that the handler records as a failure.  It comes from the last
step only, so a result of a signed kind has passed the signature check then,
too.
-/

namespace OpenIotRsp.Euiccpkg

open Octets Ber Asn1 Outcome

/-- The error is not the one that the handler records. -/
def Rejects (e : Error) : Prop := ∀ operation, e ≠ .resultNotFound operation

/-! ## The raw parser -/

/-- The messages of `euiccpkg/raw_tlv.go`. -/
def structuralMessages : List String :=
  ["euiccpkg: missing TLV", "euiccpkg: truncated high-tag-number TLV",
    "euiccpkg: missing TLV length", "euiccpkg: indefinite-length TLV is not supported",
    "euiccpkg: TLV length too large", "euiccpkg: truncated TLV length",
    "euiccpkg: truncated TLV value", "euiccpkg: expected exactly one selected result child",
    "euiccpkg: signed result data must be a SEQUENCE",
    "euiccpkg: signed data is not an SGP.32 eUICC package result payload",
    "euiccpkg: signed result child is empty",
    "euiccpkg: signed result requires signed data and signature",
    "euiccpkg: trailing data after eUICC package result", "euiccpkg: result tag"]

/-- The structure of the octets was refused. -/
def IsStructural (e : Error) : Prop := ∃ text ∈ structuralMessages, e = .message text

theorem fails_structural {α : Type} {text : String} (h : text ∈ structuralMessages) :
    FailsWith IsStructural (.error (.message text) : Except Error α) :=
  failsWith_error ⟨text, h, rfl⟩

theorem fails_tagOctets (data : Bytes) : FailsWith IsStructural (tagOctets data) := by
  unfold tagOctets
  split
  next => exact fails_structural (by decide)
  next =>
      refine FailsWith.ite ?_ (failsWith_ok _)
      split
      next => exact fails_structural (by decide)
      next => exact failsWith_ok _

theorem fails_lengthOctets (data : Bytes) : FailsWith IsStructural (lengthOctets data) := by
  unfold lengthOctets
  split
  next => exact fails_structural (by decide)
  next =>
      refine FailsWith.ite (failsWith_ok _) (FailsWith.ite (fails_structural (by decide)) ?_)
      exact FailsWith.ite (fails_structural (by decide))
        (FailsWith.ite (fails_structural (by decide)) (failsWith_ok _))

theorem fails_parseTLVSpan (data : Bytes) (offset : Nat) :
    FailsWith IsStructural (parseTLVSpan data offset) := by
  refine (fails_tagOctets _).bind fun tagLength => (fails_lengthOctets _).bind fun length => ?_
  exact FailsWith.ite (fails_structural (by decide)) (failsWith_ok _)

theorem fails_childrenFrom (data : Bytes) (stop rounds offset : Nat) :
    FailsWith IsStructural (childrenFrom data stop rounds offset) := by
  induction rounds generalizing offset with
  | zero => exact failsWith_ok _
  | succ rounds ih =>
      refine FailsWith.ite ?_ (failsWith_ok _)
      exact (fails_parseTLVSpan data offset).bind fun child =>
        (ih child.valueEnd).bind fun rest => failsWith_ok _

theorem fails_onlyChild (data : Bytes) (parent : TlvSpan) :
    FailsWith IsStructural (onlyChild data parent) := by
  refine (fails_parseTLVSpan data _).bind fun child => ?_
  exact FailsWith.ite (fails_structural (by decide)) (failsWith_ok _)

theorem fails_validateResultSignedData (data : Bytes) (signedData : TlvSpan) :
    FailsWith IsStructural (validateResultSignedData data signedData) := by
  refine FailsWith.ite (fails_structural (by decide)) ?_
  refine (fails_childrenFrom _ _ _ _).bind fun fields => ?_
  exact FailsWith.ite (failsWith_ok _) (fails_structural (by decide))

theorem fails_signedDataOfSpans (data : Bytes) (spans : List TlvSpan) :
    FailsWith IsStructural (signedDataOfSpans data spans) := by
  cases spans with
  | nil => exact fails_structural (by decide)
  | cons signedData rest =>
      refine FailsWith.ite (failsWith_ok _) ?_
      refine FailsWith.ite (fails_structural (by decide)) ?_
      exact (fails_validateResultSignedData data signedData).bind fun _ => failsWith_ok _

theorem structural_of_rawSignedDataFromResultDER (data : Bytes) :
    FailsWith IsStructural (rawSignedDataFromResultDER data) := by
  refine (fails_parseTLVSpan data 0).bind fun root => ?_
  refine FailsWith.ite (fails_structural (by decide)) ?_
  refine FailsWith.ite (fails_structural (by decide)) ?_
  refine (fails_onlyChild data root).bind fun selected => ?_
  refine FailsWith.ite (failsWith_ok _) (FailsWith.ite (failsWith_ok _) ?_)
  exact (fails_childrenFrom _ _ _ _).bind fun spans => fails_signedDataOfSpans data spans

theorem IsStructural.isPlain {e : Error} (h : IsStructural e) : e.IsPlain := by
  obtain ⟨text, -, rfl⟩ := h
  exact isPlain_message text

theorem fails_rawSignedDataFromResultDER (data : Bytes) :
    FailsWith Error.IsPlain (rawSignedDataFromResultDER data) :=
  fun e h => (structural_of_rawSignedDataFromResultDER data e h).isPlain

/-! ## Verification -/

variable {B : Bertlv} {C : Crypto}

theorem fails_signatureInput (signedDER : Bytes) (token : Option Int) :
    FailsWith Error.IsPlain (signatureInput B signedDER token) := by
  refine FailsWith.bind ?_ fun _ => failsWith_ok _
  rw [associationTokenTLV]
  split
  next => exact fails_message _
  next =>
      split
      next => exact fails_message _
      next => exact failsWith_ok _

theorem fails_verifySignedBytes (publicKey : PublicKey) (signedData signature : Bytes) :
    FailsWith Error.IsPlain (verifySignedBytes C publicKey signedData signature) := by
  cases publicKey with
  | unsupported => exact fails_message _
  | ecdsa key =>
      refine FailsWith.ite (fails_message _) ?_
      refine FailsWith.ite (failsWith_ok _) ?_
      split
      next => exact failsWith_ok _
      next => exact failsWith_error ⟨nofun, fun _ => nofun⟩

/-- A result of a signed kind that is accepted, or that only lacks the alternative of the package,
has passed the signature check. -/
theorem checked_of_recordable {input : ResultInput} {decoded : EuiccPackageResult}
    {signature : Bytes}
    (hrecordable : ¬ ∃ e, verifyPackageResult B C input = .error e ∧ Rejects e)
    (hdecoded : Asn1.decode B (EuiccPackageResult.unmarshalBERTLV B) input.resultDER =
      .ok decoded)
    (hsigned : decoded.signature = some signature) (hrequest : input.request.isSome) :
    ∃ checked, checkedOctets B input = .ok checked ∧
      verifySignedBytes C input.euiccPublicKey checked signature = .ok () := by
  obtain ⟨request, hrequest⟩ := Option.isSome_iff_exists.mp hrequest
  simp only [verifyPackageResult, hrequest, hdecoded, ok_bind] at hrecordable
  -- a failure of any step up to the check is one that the handler does not record
  cases hraw : rawSignedDataFromResultDER input.resultDER with
  | error e =>
      refine absurd ⟨e, ?_, (fails_rawSignedDataFromResultDER _ e hraw).2⟩ hrecordable
      simp only [hraw, error_bind]
  | ok raw =>
      simp only [hraw, ok_bind, verifyResult] at hrecordable
      cases hchecked : signatureInput B (raw.getD []) input.associationToken with
      | error e =>
          refine absurd ⟨e, ?_, (fails_signatureInput _ _ e hchecked).2⟩ hrecordable
          simp only [hchecked, error_bind]
      | ok checked =>
          refine ⟨checked, by rw [checkedOctets, hraw]; exact hchecked, ?_⟩
          simp only [hchecked, ok_bind] at hrecordable
          cases hverify : verifySignedBytes C input.euiccPublicKey checked signature with
          | ok _ => rfl
          | error e =>
              refine absurd ⟨e, ?_, (fails_verifySignedBytes _ _ _ e hverify).2⟩ hrecordable
              cases decoded with
              | ok signed =>
                  obtain rfl := Option.some.inj hsigned
                  simp only [hverify, error_bind]
              | errorSigned error =>
                  obtain rfl := Option.some.inj hsigned
                  simp only [hverify, error_bind]
              | errorUnsigned error => cases hsigned

end OpenIotRsp.Euiccpkg
