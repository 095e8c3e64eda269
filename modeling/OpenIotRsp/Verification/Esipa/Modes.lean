import OpenIotRsp.Verification.Esipa.WireVerdict

/-!
# Verified and unverified handlers

A handler that verifies package results computes the status of an operation from
the verification, one that does not from the decoded result.  Where the
verifying handler answers, the other one gives the same answer and leaves the
same store.
-/

namespace OpenIotRsp.Esipa

open Octets Ber Stateful Asn1 Storage Euiccpkg Outcome

variable {H : Handler} {s : Store} {eid payload resultDER : Bytes} {tlv raw : Tlv}
  {operation : Operation} {result : EuiccPackageResult} {publicKey : PublicKey}

/-! ## Verdicts -/

/-- Steps whose errors are not recorded have succeeded when a status comes out. -/
theorem statusOf_bind {α : Type} {x : Except Error α} {k : α → Except Error Result}
    (hx : FailsWith Error.IsPlain x) :
    (∃ e, statusOf (x >>= k) = .error e ∧ e.IsPlain) ∨
      ∃ a, x = .ok a ∧ statusOf (x >>= k) = statusOf (k a) := by
  cases x with
  | ok a => exact .inr ⟨a, rfl, rfl⟩
  | error e =>
      refine .inl ⟨e, ?_, hx e rfl⟩
      cases e with
      | resultNotFound operation => exact absurd rfl ((hx _ rfl).2 operation)
      | _ => rfl

theorem fails_matchSignedResult (request : SignedRequest) (wantSequence : Int) (eimID : Bytes)
    (counter : Int) (transactionID : Option Bytes) (sequence : Int) :
    FailsWith Error.IsPlain
      (matchSignedResult request wantSequence eimID counter transactionID sequence) := by
  refine FailsWith.ite (failsWith_error ⟨nofun, fun _ => nofun⟩) ?_
  refine FailsWith.ite (failsWith_error ⟨nofun, fun _ => nofun⟩) ?_
  exact FailsWith.ite (failsWith_error ⟨nofun, fun _ => nofun⟩) (failsWith_ok _)

/-- The status of a package without verification. -/
def plainStatus (B : Bertlv) (pkg : EuiccPackage) : EuiccPackageResult →
    Except Error (Option Result × OperationStatus)
  | .ok signed => statusOf (operationResult B pkg signed.data.results)
  | _ => .ok (none, .failed)

/-- A verification fails with an error of its own, or gives the status that needs none. -/
theorem statusOf_verifyPackageResult {B : Bertlv} (C : Crypto) (input : ResultInput)
    {request : SignedRequest} (hrequest : input.request = some request)
    (hdecode : Asn1.decode B (EuiccPackageResult.unmarshalBERTLV B) input.resultDER = .ok result) :
    (∃ e, statusOf (verifyPackageResult B C input) = .error e ∧ e.IsPlain) ∨
      statusOf (verifyPackageResult B C input) = plainStatus B request.package result ∨
      ∃ domain, statusOf (verifyPackageResult B C input) = .ok (domain, .failed) ∧
        plainStatus B request.package result = .ok (none, .failed) := by
  rw [verifyPackageResult, hrequest]
  simp only [hdecode, ok_bind]
  rcases statusOf_bind (fails_rawSignedDataFromResultDER input.resultDER) with
    herror | ⟨rawSignedData, -, hraw⟩
  · exact .inl herror
  rw [hraw, verifyResult]
  rcases statusOf_bind (fails_signatureInput (B := B) (rawSignedData.getD [])
    input.associationToken) with herror | ⟨checked, -, hchecked⟩
  · exact .inl herror
  rw [hchecked]
  cases result with
  | ok signed =>
      rcases statusOf_bind (fails_verifySignedBytes (C := C) input.euiccPublicKey checked
        signed.euiccSignEPR) with herror | ⟨⟨⟩, -, hverify⟩
      · exact .inl herror
      rcases statusOf_bind (fails_matchSignedResult request input.sequenceNumber signed.data.eimID
        signed.data.counterValue signed.data.eimTransactionID signed.data.seqNumber) with
        herror | ⟨⟨⟩, -, hmatch⟩
      · exact .inl (hverify ▸ herror)
      exact .inr (.inl (hverify.trans hmatch))
  | errorSigned error =>
      rcases statusOf_bind (fails_verifySignedBytes (C := C) input.euiccPublicKey checked
        error.euiccSignEPE) with herror | ⟨⟨⟩, -, hverify⟩
      · exact .inl herror
      rcases statusOf_bind (fails_matchSignedResult request 0 error.data.eimID
        error.data.counterValue error.data.eimTransactionID 0) with herror | ⟨⟨⟩, -, hmatch⟩
      · exact .inl (hverify ▸ herror)
      exact .inr (.inr ⟨_, hverify.trans hmatch, rfl⟩)
  | errorUnsigned error =>
      dsimp only
      split
      next => exact .inl ⟨_, rfl, by simp, by simp⟩
      next =>
          cases error.errorCode with
          | none => exact .inr (.inr ⟨_, rfl, rfl⟩)
          | some code => exact .inr (.inr ⟨_, rfl, rfl⟩)

theorem fails_rowToken (B : Bertlv) (row : Option AssociatedEIM) :
    FailsWith Error.IsPlain (rowToken B row) := by
  cases row with
  | none => exact failsWith_ok _
  | some associated =>
      refine (fails_decode B (fails_eimConfigurationData B) _).bind fun _ => ?_
      exact failsWith_ok _

theorem fails_decodePackage (H : Handler) (operation : Operation) :
    FailsWith Error.IsPlain (decodePackage H operation) :=
  fails_decode H.bertlv (fails_euiccPackageRequest H.bertlv) _

/-- The verification of a package in the store, as a function of what it reads. -/
theorem verifiedOperationResult_apply :
    verifiedOperationResult H operation eid resultDER publicKey s =
      ((do
        let request ← signedRequestFromOperation H eid operation
        let token ← rowToken H.bertlv ((s.records (H.device eid)).eims request.eimID)
        statusOf (verifyPackageResult H.bertlv H.crypto
          (verificationInput request resultDER publicKey token))), s) := by
  cases hrequest : signedRequestFromOperation H eid operation with
  | error e => exact ofExcept_bind_of_error _ s hrequest
  | ok request =>
      refine (ofExcept_bind_of_ok _ s hrequest).trans ?_
      have htoken : associationTokenForEIM H.bertlv H.tenant eid request.eimID s =
          (rowToken H.bertlv ((s.records (H.device eid)).eims request.eimID), s) :=
        associationTokenForEIM_apply H.tenant eid request.eimID s
      rw [ok_bind]
      cases hrow : rowToken H.bertlv ((s.records (H.device eid)).eims request.eimID) with
      | error e =>
          rw [hrow] at htoken
          exact bind_of_error htoken
      | ok token =>
          rw [hrow] at htoken
          exact bind_of_ok htoken

/-- Verification fails with an error that is reported, or gives the status that needs none. -/
theorem verifiedOperationResult_cases (eid : Bytes) (publicKey : PublicKey)
    (hdecode : Asn1.decode H.bertlv (EuiccPackageResult.unmarshalBERTLV H.bertlv) resultDER =
      .ok result) (s : Store) :
    (∃ e, verifiedOperationResult H operation eid resultDER publicKey s = (.error e, s) ∧
      e.IsPlain) ∨
    ∃ decoded, decodePackage H operation = .ok decoded ∧
      (verifiedOperationResult H operation eid resultDER publicKey s =
        (plainStatus H.bertlv decoded.euiccPackageSigned.euiccPackage result, s) ∨
      ∃ domain, verifiedOperationResult H operation eid resultDER publicKey s =
          (.ok (domain, .failed), s) ∧
        plainStatus H.bertlv decoded.euiccPackageSigned.euiccPackage result =
          .ok (none, .failed)) := by
  rw [verifiedOperationResult_apply]
  cases hrequest : signedRequestFromOperation H eid operation with
  | error e =>
      have hplain : FailsWith Error.IsPlain (signedRequestFromOperation H eid operation) :=
        FailsWith.ite (fails_message _) ((fails_decodePackage H operation).bind fun _ =>
          failsWith_ok _)
      exact .inl ⟨e, rfl, hplain e hrequest⟩
  | ok request =>
      obtain ⟨decoded, hdecoded, -, -, -, hpackage⟩ := signedRequestFromOperation_eq_ok hrequest
      rw [ok_bind]
      cases hrow : rowToken H.bertlv ((s.records (H.device eid)).eims request.eimID) with
      | error e => exact .inl ⟨e, rfl, fails_rowToken _ _ e hrow⟩
      | ok token =>
          rw [ok_bind]
          rcases statusOf_verifyPackageResult H.crypto
            (verificationInput request resultDER publicKey token) rfl hdecode with
            ⟨e, herror, hplain⟩ | hstatus | ⟨domain, hfailed, hstatus⟩
          · exact .inl ⟨e, by rw [herror], hplain⟩
          · exact .inr ⟨decoded, hdecoded, .inl (by rw [hstatus, hpackage])⟩
          · exact .inr ⟨decoded, hdecoded, .inr ⟨domain, by rw [hfailed], hpackage ▸ hstatus⟩⟩

theorem resultStatusForOperation_eq {decoded : EuiccPackageRequest}
    (hkind : operation.kind = .euiccPackage) (hdecoded : decodePackage H operation = .ok decoded) :
    resultStatusForOperation H operation result =
      (plainStatus H.bertlv decoded.euiccPackageSigned.euiccPackage result).map Prod.snd := by
  cases result with
  | ok signed =>
      rw [resultStatusForOperation, if_neg (not_not.mpr hkind), hdecoded, ok_bind, plainStatus]
      cases statusOf (operationResult H.bertlv decoded.euiccPackageSigned.euiccPackage
        signed.data.results) with
      | error e => rfl
      | ok verdict => rfl
  | errorSigned error => rfl
  | errorUnsigned error => rfl

/-! ## Recording -/

/-- The same handler without verification. -/
def Handler.unverified (H : Handler) : Handler :=
  { H with allowUnverifiedEUICCPackageResults := true }

theorem firstMatchingEuiccPackage_unverified (eimID : Bytes) (counter : Int)
    (transactionID : Bytes) (operations : List Operation) :
    firstMatchingEuiccPackage H.unverified eimID counter transactionID operations =
      firstMatchingEuiccPackage H eimID counter transactionID operations := by
  induction operations with
  | nil => rfl
  | cons operation rest ih =>
      rw [firstMatchingEuiccPackage, firstMatchingEuiccPackage, ih]
      rfl

theorem matchPending_unverified (eid eimID : Bytes) (counter : Int) (transactionID : Bytes) :
    matchPendingEuiccPackageByCorrelation H.unverified eid eimID counter transactionID =
      matchPendingEuiccPackageByCorrelation H eid eimID counter transactionID := by
  simp only [matchPendingEuiccPackageByCorrelation, firstMatchingEuiccPackage_unverified]
  rfl

/-- Results are correlated without regard to verification. -/
theorem matching_unverified (eid : Bytes) (result : EuiccPackageResult) :
    matchingEUICCPackageOperation H.unverified eid result =
      matchingEUICCPackageOperation H eid result := by
  cases result with
  | ok signed => exact matchPending_unverified _ _ _ _
  | errorSigned error => exact matchPending_unverified _ _ _ _
  | errorUnsigned error =>
      simp only [matchingEUICCPackageOperation, matchPending_unverified]
      rfl

variable {Q : Error → Prop}

/-- A success is applied the same way. -/
theorem follows_apply {decoded : EuiccPackageRequest} {domain : Option Result}
    (hkind : operation.kind = .euiccPackage) (hdecoded : decodePackage H operation = .ok decoded)
    (hstatus : plainStatus H.bertlv decoded.euiccPackageSigned.euiccPackage result =
      .ok (domain, .done)) (s : Store) :
    Follows Q (Stateful.ofExcept (signedRequestFromOperation H operation.eid operation) >>=
        fun request =>
          applyPackageResultState H.bertlv H.tenant operation.eid request.package domain)
      (applyEUICCPackageOperationState H.unverified operation result) s := by
  cases result with
  | ok signed =>
      obtain ⟨outcome, houtcome, rfl, -⟩ := statusOf_eq_done hstatus
      have hdomain : domainResult H.unverified decoded.euiccPackageSigned.euiccPackage (.ok signed) =
          .ok (some outcome) := Outcome.bind_eq_ok.mpr ⟨outcome, houtcome, rfl⟩
      obtain ⟨request, hrequest⟩ : ∃ request,
          signedRequestFromOperation H operation.eid operation = .ok request := by
        rw [signedRequestFromOperation, if_neg (not_not.mpr hkind), hdecoded]
        exact ⟨_, rfl⟩
      obtain ⟨decoded', hdecoded', -, -, -, hpackage⟩ := signedRequestFromOperation_eq_ok hrequest
      obtain rfl := Except.ok.inj (hdecoded'.symm.trans hdecoded)
      refine Follows.congr (ofExcept_bind_of_ok _ s hrequest) ?_ (Follows.refl _ s)
      rw [applyEUICCPackageOperationState, if_neg (not_not.mpr hkind), hpackage]
      exact (ofExcept_bind_of_ok _ s hdecoded).trans (ofExcept_bind_of_ok _ s hdomain)
  | errorSigned error => cases hstatus
  | errorUnsigned error => cases hstatus

theorem follows_recordVerified (hQ : ∀ e, Q e → e = .notFound)
    (hkind : operation.kind = .euiccPackage)
    (hdecode : Asn1.decode H.bertlv (EuiccPackageResult.unmarshalBERTLV H.bertlv) resultDER =
      .ok result) (s : Store) :
    Follows Q (recordVerified H operation.eid operation resultDER payload publicKey)
      (recordUnverified H.unverified operation.eid operation result payload) s := by
  rcases verifiedOperationResult_cases operation.eid publicKey hdecode s with
    ⟨e, hrun, hplain⟩ | ⟨decoded, hdecoded, hcases⟩
  · exact follows_of_error (bind_of_error hrun) fun hq => hplain.1 (hQ e hq)
  have hstatus : resultStatusForOperation H.unverified operation result =
      (plainStatus H.bertlv decoded.euiccPackageSigned.euiccPackage result).map Prod.snd :=
    resultStatusForOperation_eq hkind hdecoded
  -- both fail, or both go on with one status; a success comes from the same results
  obtain ⟨e, hrun, hstatus⟩ | ⟨domain, status, hrun, hstatus, hdone⟩ :
      (∃ e, verifiedOperationResult H operation operation.eid resultDER publicKey s =
          (.error e, s) ∧ resultStatusForOperation H.unverified operation result = .error e) ∨
      ∃ domain status, verifiedOperationResult H operation operation.eid resultDER publicKey s =
          (.ok (domain, status), s) ∧
        resultStatusForOperation H.unverified operation result = .ok status ∧
        (status = .done → plainStatus H.bertlv decoded.euiccPackageSigned.euiccPackage result =
          .ok (domain, status)) := by
    rcases hcases with hrun | ⟨domain, hrun, hfailed⟩
    · cases hverdict : plainStatus H.bertlv decoded.euiccPackageSigned.euiccPackage result with
      | error e => exact .inl ⟨e, hverdict ▸ hrun, by rw [hstatus, hverdict]; rfl⟩
      | ok verdict =>
          exact .inr ⟨verdict.1, verdict.2, hverdict ▸ hrun, by rw [hstatus, hverdict]; rfl,
            fun _ => rfl⟩
    · exact .inr ⟨domain, .failed, hrun, by rw [hstatus, hfailed]; rfl, nofun⟩
  · exact Follows.congr (bind_of_error hrun) (ofExcept_bind_of_error _ s hstatus)
      (Follows.refl (fail e) s)
  · refine Follows.congr (bind_of_ok hrun) (ofExcept_bind_of_ok _ s hstatus) ?_
    refine (Follows.refl _ s).bind fun _ s' _ => ?_
    by_cases hsuccess : status = .done
    · subst hsuccess
      exact follows_apply hkind hdecoded (hdone rfl) s'
    · rw [if_neg hsuccess, if_neg hsuccess]
      exact Follows.refl _ s'

/-- The resolver of the handler does not report a key as a missing row. -/
def Handler.ReportsNoKeyMissing (H : Handler) : Prop :=
  ∀ resolver eid, H.euiccPublicKey = some resolver → resolver H.tenant eid ≠ .error .notFound

theorem resolvePublicKey_ne_notFound (h : H.ReportsNoKeyMissing) (eid : Bytes) :
    resolvePublicKey H eid ≠ .error .notFound := by
  intro hmissing
  rw [resolvePublicKey] at hmissing
  split at hmissing
  next => cases hmissing
  next =>
      split at hmissing
      next => cases hmissing
      next resolver hresolver =>
          cases hfound : resolver H.tenant eid with
          | error e =>
              rw [hfound] at hmissing
              exact h resolver eid hresolver (hfound.trans hmissing)
          | ok found =>
              rw [hfound] at hmissing
              cases found with
              | none => cases hmissing
              | some key => cases hmissing

theorem follows_recordEuiccPackageResult (hB : H.bertlv.Lawful)
    (hverify : H.allowUnverifiedEUICCPackageResults = false) (hraw : raw.WellFormed)
    (hQ : ∀ e, Q e → e = .notFound ∧ H.ReportsNoKeyMissing) (s : Store) :
    Follows Q (recordEuiccPackageResult H eid raw payload)
      (recordEuiccPackageResult H.unverified eid raw payload) s := by
  refine follows_ofExcept_bind fun ⟨resultTLV, notificationList⟩ hsplit => ?_
  refine follows_ofExcept_bind fun result hdecode => ?_
  refine follows_ofExcept_bind fun resultDER hmarshal => ?_
  cases hkey : resolvePublicKey H eid with
  | error e =>
      refine follows_of_error (ofExcept_bind_of_error _ s rfl) fun hq => ?_
      obtain ⟨rfl, hmissing⟩ := hQ e hq
      exact resolvePublicKey_ne_notFound hmissing eid hkey
  | ok publicKey =>
      obtain ⟨-, key, -, -, rfl⟩ := resolvePublicKey_eq_some hverify hkey
      refine Follows.congr (ofExcept_bind_of_ok _ s rfl) (ofExcept_bind_of_ok _ s rfl) ?_
      rw [matching_unverified]
      refine (Follows.refl _ s).bind fun operation s' hmatch => ?_
      obtain rfl : s' = s := by
        have hread := readOnly_matchingEUICCPackageOperation (H := H) eid result s
        rwa [hmatch] at hread
      let r : PackageReading H s' eid raw := ⟨resultTLV, notificationList, result, resultDER,
        some key, operation, hsplit, hdecode, hmarshal, hkey, by rw [hmatch]⟩
      have heid : operation.eid = eid := r.queued.choose_spec.2.2
      subst heid
      refine Follows.bind ?_ fun _ s'' _ => Follows.refl _ s''
      exact follows_recordVerified (fun e hq => (hQ e hq).1) r.matching.queued.2
        (r.decode_resultDER hB hraw) s'

/-- Results of the other kinds are not verified. -/
theorem follows_recordEimPackageResult (hB : H.bertlv.Lawful)
    (hverify : H.allowUnverifiedEUICCPackageResults = false) (hraw : raw.WellFormed)
    (hQ : ∀ e, Q e → e = .notFound ∧ H.ReportsNoKeyMissing) (s : Store) :
    Follows Q (recordEimPackageResult H eid raw) (recordEimPackageResult H.unverified eid raw) s := by
  refine follows_ofExcept_bind fun payload _ => ?_
  split
  next => exact Follows.refl _ s
  next =>
      split
      next => exact Follows.refl _ s
      next =>
          split
          next =>
              simp only [recordEimPackageResultError, recordEimPackageResultResponseError,
                matchPending_unverified]
              exact Follows.refl _ s
          next => exact follows_recordEuiccPackageResult hB hverify hraw hQ s

theorem findRow_of_follows {α : Type} {m m' : StoreM α} {row : Option α} {s' : Store}
    (hfollows : Follows (fun e => e = .notFound ∧ row = none) m m' s)
    (h : findRow m s = (.ok row, s')) : findRow m' s = (.ok row, s') := by
  have hm : m' s = m s := by
    apply hfollows
    intro e he
    rcases findRow_eq_ok h with ⟨a, -, hrun⟩ | ⟨hrow, hrun⟩
    · cases hrun ▸ he
    · rw [hrun] at he
      exact ⟨(Except.error.inj he).symm, hrow⟩
  rw [← h, findRow, findRow, attempt_bind, attempt_bind, hm]

/-- Where the verifying handler answers a message, the same handler without verification gives the
same answer and leaves the same store.  An error code is such an answer, too, unless it is the key
that was reported missing. -/
theorem modes_agree (hB : H.bertlv.Lawful) (hverify : H.allowUnverifiedEUICCPackageResults = false)
    (hdecode : decodeRequest H payload = .ok tlv) {reply : Reply} {s' : Store}
    (hrun : handleProvideEimPackageResult H tlv s = (.ok reply, s'))
    (hkey : (∀ code, reply ≠ .provideResult (.error code)) ∨ H.ReportsNoKeyMissing) :
    handleProvideEimPackageResult H.unverified tlv s = (.ok reply, s') := by
  have htlv := wellFormed_of_decodeRequest hB hdecode
  cases hprovide : provideResultTLV tlv with
  | none =>
      rw [handleProvideEimPackageResult, hprovide] at hrun
      cases hrun
  | some provideTLV =>
      rw [handleProvideEimPackageResult, hprovide] at hrun
      obtain ⟨request, hrequest, hrun⟩ := (readOnly_ofExcept _).bind_eq_ok hrun
      have hread := readOnly_resolveProvideResultEID H.bertlv H.x509 H.tenant request.eid
        request.eimPackageResult.raw
      obtain ⟨resolved, hresolved, hrun⟩ := hread.bind_eq_ok hrun
      rw [handleProvideEimPackageResult, hprovide]
      refine (ofExcept_bind_of_ok _ s hrequest).trans ?_
      refine (bind_of_ok (Prod.ext hresolved (hread s))).trans ?_
      cases resolved with
      | error code => exact hrun
      | ok eid =>
          have hraw := (Delivers.provide hprovide hrequest rfl hresolved).wellFormed htlv
          obtain ⟨recorded, t, hrecorded, hreply⟩ := Stateful.bind_eq_ok hrun
          refine (bind_of_ok (findRow_of_follows ?_ hrecorded)).trans hreply
          refine follows_recordEimPackageResult hB hverify hraw (fun e hq => ⟨hq.1, ?_⟩) s
          have hcode : reply = .provideResult (.error provideResultErrorEIDNotFound) := by
            rw [hq.2] at hreply
            exact (Except.ok.inj (Prod.mk.inj hreply).1).symm
          exact hkey.resolve_left fun hno => hno _ hcode

theorem modes_agree_enabled :
    handleProvideEimPackageResult sampleHandler.unverified (sampleMessage (sampleSignedResult 1 3 0))
        sampleEnableStore =
      (.ok (.provideResult (.acknowledgements ⟨[5]⟩)),
        (handleProvideEimPackageResult sampleHandler (sampleMessage (sampleSignedResult 1 3 0))
          sampleEnableStore).2) := by
  have hdecode : decodeRequest sampleHandler (sampleProvided [0x0e]) =
      .ok (sampleMessage (sampleSignedResult 1 3 0)) := by
    decide +kernel
  have hreply : (handleProvideEimPackageResult sampleHandler
      (sampleMessage (sampleSignedResult 1 3 0)) sampleEnableStore).1 =
        .ok (.provideResult (.acknowledgements ⟨[5]⟩)) := by
    decide +kernel
  exact modes_agree Bertlv.reference_lawful rfl hdecode (Prod.ext hreply rfl) (.inl nofun)

end OpenIotRsp.Esipa
