import OpenIotRsp.Verification.MockIpa.Agreement
import OpenIotRsp.Verification.PackageResult.Verifiable
import OpenIotRsp.Verification.Server.Polling

/-!
# Reported operations

The eUICC signs the result of an operation with the token that it has of the
eIM.  The eIM verifies the signature with the token that it has of the eUICC,
and applies the result.
-/

namespace OpenIotRsp.MockIpa

open Octets Ber Stateful Asn1 Storage Euiccpkg Api Esipa Server

/-! ## Signed reports -/

/-- The result repeats the identifiers of the request, reports its operation as done, and is signed
with the token that the eUICC has of the eIM. -/
structure Report (F : Fixture) (device : DeviceState) (request : EuiccPackageRequest)
    (signed : EuiccPackageResultSigned) : Prop where
  echoes : Echoes request.euiccPackageSigned (.ok signed)
  succeeds : ∃ item, signed.data.results = [item] ∧
    Succeeds F.bertlv device request.euiccPackageSigned.euiccPackage item
  signature : ∃ tree payload input draw, signed.data.marshalBERTLV F.bertlv = .ok tree ∧
    F.bertlv.marshalBinary tree = some payload ∧ signatureInput F.bertlv payload
      (device.associationToken request.euiccPackageSigned.eimID) = .ok input ∧
    F.signASN1 draw (F.sha256 input) = .ok signed.euiccSignEPR

section

variable {F : Fixture} {device : DeviceState} {request : EuiccPackageRequest} {draw : Nat}

theorem marshalBinary_eq_ok {t : Tlv} {w : Bytes} (h : MockIpa.marshalBinary F t = .ok w) :
    F.bertlv.marshalBinary t = some w := by
  rw [MockIpa.marshalBinary] at h
  split at h
  next octets hoctets => rwa [← Except.ok.inj h]
  next => cases h

theorem report_of_signed (hB : F.bertlv.Lawful) {result : EuiccPackageResult}
    {kind : Euiccpkg.OperationKind}
    (h : signedEUICCPackageResult F draw device request 0 = .ok (result, kind)) :
    ∃ signed, result = .ok signed ∧ Report F device request signed := by
  obtain ⟨⟨item, kind'⟩, hitem, h⟩ := Outcome.bind_eq_ok.mp h
  obtain ⟨signature, hsignature, h⟩ := Outcome.bind_eq_ok.mp h
  obtain ⟨rfl, rfl⟩ := Prod.mk.inj (Except.ok.inj h)
  refine ⟨_, rfl, ⟨rfl, rfl, rfl⟩, ⟨item, rfl, succeeds_of_executed hB hitem⟩, ?_⟩
  obtain ⟨tree, htree, hsignature⟩ := Outcome.bind_eq_ok.mp hsignature
  obtain ⟨payload, hpayload, hsignature⟩ := Outcome.bind_eq_ok.mp hsignature
  obtain ⟨input, hinput, hsignature⟩ := Outcome.bind_eq_ok.mp hsignature
  exact ⟨tree, payload, input, draw, htree, marshalBinary_eq_ok hpayload, hinput, hsignature⟩

end

/-! ## Reports at the eIM -/

section

variable {H : Handler} {s : Store} {F : Fixture} {device : DeviceState}
  {request : EuiccPackageRequest} {signed : EuiccPackageResultSigned} {tlv : Tlv} {eid : Bytes}
  {operation : Operation}

theorem exists_signedRequest (hkind : operation.kind = .euiccPackage)
    (hdecode : decodePackage H operation = .ok request) :
    ∃ signedRequest, signedRequestFromOperation H eid operation = .ok signedRequest ∧
      signedRequest.package = request.euiccPackageSigned.euiccPackage := by
  rw [signedRequestFromOperation, hdecode, if_neg (not_not.mpr hkind)]
  exact ⟨_, rfl, rfl⟩

theorem answers_of_report (hreport : Report F device request signed)
    (hdecode : decodePackage H operation = .ok request) {signedRequest : SignedRequest}
    (hrequest : signedRequestFromOperation H eid operation = .ok signedRequest)
    {resultDER : Bytes} {publicKey : PublicKey} {token : Option Int} :
    Answers (verificationInput signedRequest resultDER publicKey token) signedRequest
      (.ok signed) := by
  obtain ⟨heim, hcounter, htransaction⟩ := hreport.echoes
  obtain ⟨decoded, hdecoded, heim', hcounter', htransaction', -⟩ :=
    signedRequestFromOperation_eq_ok hrequest
  obtain rfl := Except.ok.inj (hdecode.symm.trans hdecoded)
  simp [Answers, verificationInput, matchSignedResult, sameTransaction, heim, heim', hcounter,
    hcounter', htransaction, htransaction']

variable (hB : H.bertlv.Lawful) (hreport : Report F device request signed)
  (ht : (EuiccPackageResult.ok signed).marshalBERTLV H.bertlv = .ok tlv)

include hB hreport ht

theorem Report.exists_written : ∃ arm, tlv = .constructed tagEuiccPkg [arm] ∧
    EuiccPackageResult.Written H.bertlv (.ok signed) arm := by
  obtain ⟨item, hitems, hsucceeds⟩ := hreport.succeeds
  refine EuiccPackageResult.exists_written hB (fun result hmem => ?_) ht
  rw [EuiccPackageResult.results, hitems, List.mem_singleton] at hmem
  exact hmem ▸ hsucceeds.wellFormed

/-- A report is read as it was written. -/
theorem Report.read_written :
    tlv.WellFormed ∧ EuiccPackageResult.unmarshalBERTLV H.bertlv tlv = .ok (.ok signed) := by
  obtain ⟨arm, rfl, hwritten⟩ := hreport.exists_written hB ht
  exact ⟨⟨by decide, by decide, hwritten.wellFormed, trivial⟩,
    EuiccPackageResult.unmarshalBERTLV_written hwritten⟩

variable (hminimal : H.bertlv.Minimal) (hF : F.bertlv = H.bertlv) {resultDER : Bytes}
  (hresult : H.bertlv.marshalBinary tlv = some resultDER) (hlength : resultDER.length < 2 ^ 32)

include hminimal hF hresult hlength

/-- What the raw parser finds is what the eUICC has signed. -/
theorem rawSignedData_of_report :
    ∃ raw input draw, input ≠ [] ∧ rawSignedDataFromResultDER resultDER = .ok (some raw) ∧
      signatureInput H.bertlv raw
        (device.associationToken request.euiccPackageSigned.eimID) = .ok input ∧
      F.signASN1 draw (F.sha256 input) = .ok signed.euiccSignEPR := by
  obtain ⟨arm, rfl, hwritten⟩ := hreport.exists_written hB ht
  obtain ⟨tree, raw, input, draw, htree, hraw, hinput, hsign⟩ := hreport.signature
  rw [hF] at htree hraw hinput
  obtain ⟨data, signature, hdata, rfl, htag, hwf, horder⟩ := hwritten.signed _ rfl
  obtain rfl := Except.ok.inj (htree.symm.trans hdata)
  obtain ⟨octets, hoctets, hfound⟩ := rawSignedData_of_encode htag hwf horder
    (hminimal.marshalBinary_minimal _ resultDER hresult) hlength
  obtain rfl := Option.some.inj ((hminimal.marshalBinary_minimal _ raw hraw).symm.trans hoctets)
  refine ⟨raw, input, draw, ?_, hfound, hinput, hsign⟩
  obtain ⟨token, -, heq⟩ := Outcome.bind_eq_ok.mp hinput
  rw [← Except.ok.inj heq]
  exact List.append_ne_nil_of_left_ne_nil (ne_nil_of_marshalBinary hB hwf hraw) token

/-- **Verification.**  What the eUICC has signed is verified, if the eIM has its token. -/
theorem verifiedOperationResult_of_report
    (hkind : operation.kind = .euiccPackage) (hdecode : decodePackage H operation = .ok request)
    {publicKey : PublicKey}
    (hverify : ∀ draw input signature, input ≠ [] →
      F.signASN1 draw (F.sha256 input) = .ok signature →
        verifySignedBytes H.crypto publicKey input signature = .ok ())
    (htoken : rowToken H.bertlv ((s.records (H.device eid)).eims
      request.euiccPackageSigned.eimID) =
        .ok (device.associationToken request.euiccPackageSigned.eimID))
    {result : Result} (hitems : operationResult H.bertlv request.euiccPackageSigned.euiccPackage
      signed.data.results = .ok result) (hok : result.ok = true) :
    (verifiedOperationResult H operation eid resultDER publicKey s).1 =
      .ok (some result, .done) := by
  obtain ⟨hwf, hread⟩ := hreport.read_written hB ht
  obtain ⟨raw, input, draw, hne, hraw, hinput, hsign⟩ :=
    rawSignedData_of_report hB hreport ht hminimal hF hresult hlength
  obtain ⟨signedRequest, hrequest, hpackage⟩ := exists_signedRequest hkind hdecode
  obtain ⟨decoded, hdecoded, heim, -⟩ := signedRequestFromOperation_eq_ok hrequest
  obtain rfl := Except.ok.inj (hdecode.symm.trans hdecoded)
  have htokenRead : associationTokenForEIM H.bertlv H.tenant eid signedRequest.eimID s =
      (.ok (device.associationToken request.euiccPackageSigned.eimID), s) := by
    rw [associationTokenForEIM_apply, heim]
    exact congrArg (·, s) htoken
  have hverified : verifyPackageResult H.bertlv H.crypto (verificationInput signedRequest resultDER
      publicKey (device.associationToken request.euiccPackageSigned.eimID)) = .ok result := by
    have hreading : verifyResult H.bertlv H.crypto (.ok signed) signedRequest
        (verificationInput signedRequest resultDER publicKey
          (device.associationToken request.euiccPackageSigned.eimID)) (some raw) =
          reading H.bertlv signedRequest (.ok signed) :=
      verifyResult_eq_reading hinput rfl (hverify draw input _ hne hsign)
        (answers_of_report hreport hdecode hrequest)
    refine Outcome.bind_eq_ok.mpr ⟨.ok signed, (decode_written hB hwf hresult).trans hread,
      Outcome.bind_eq_ok.mpr ⟨some raw, hraw, hreading.trans ?_⟩⟩
    rw [reading, hpackage]
    exact hitems
  rw [verifiedOperationResult, ofExcept_bind_of_ok _ s hrequest, bind_of_ok htokenRead, ofExcept_apply]
  rw [verificationInput] at hverified
  rw [hverified, statusOf, hok]
  rfl

end

end OpenIotRsp.MockIpa
