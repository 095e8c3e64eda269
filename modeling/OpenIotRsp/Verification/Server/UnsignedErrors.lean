import OpenIotRsp.Verification.Esipa.Modes
import OpenIotRsp.Verification.Server.Finality
import OpenIotRsp.Verification.Storage.Results

/-!
# Unsigned package errors

An unsigned error is attributed to a package even if it carries no identifiers,
but the verification wants the identifiers of the package.  Without
verification the package fails; with it the package fails only if the
identifiers are there, and otherwise stays at the head of the queue.
-/

namespace OpenIotRsp.Server

open Octets Ber Stateful Asn1 Storage Euiccpkg Esipa

/-! ## Stores after any calls -/

theorem mem_numbers {n : Nat} {x : Int} (h : x ∈ numbers n) : 1 ≤ x ∧ x < n + 1 := by
  simp only [numbers, List.mem_map, List.mem_range] at h
  omega

/-- The numbers of a log are handed out once. -/
theorem numbered_of_logged {s : Store} {log : List MemoryOperation} (h : Logged (ledger s) log) :
    Numbered (ledger s) where
  nextID_pos := by
    rw [h.nextID]
    omega
  id_range he := by
    obtain ⟨stored, hmem, rfl, -⟩ := h.entries.mp he
    rw [h.nextID]
    exact mem_numbers (h.ids ▸ List.mem_map_of_mem hmem)
  sequence_lt he := by
    obtain ⟨stored, hmem, -, rfl⟩ := h.entries.mp he
    have hdevice : stored ∈ ofDevice (entryOf stored).device log :=
      List.mem_filter.mpr ⟨hmem, decide_eq_true rfl⟩
    rw [h.nextSequence]
    exact (mem_numbers (h.sequences _ ▸ List.mem_map_of_mem hdevice)).2
  sequence_injective he he' hdevice hsequence := by
    obtain ⟨row, hrow, rfl⟩ := Option.map_eq_some_iff.mp he
    obtain ⟨row', hrow', rfl⟩ := Option.map_eq_some_iff.mp he'
    have hid := h.eq_of_sequence (mem_allOperations_of_lookup hrow)
      (mem_allOperations_of_lookup hrow') hdevice hsequence
    rwa [row.property, row'.property] at hid

theorem registered_call {s : Store} (h : Registered s) (call : StoreCall) :
    Registered (call.step s) := by
  have hrest : ∀ {α : Type} {m : StoreM α} {reply : α → StoreReply},
      Registered (m s).2 → Registered ((do return reply (← m) : StoreM StoreReply) s).2 := by
    intro α m reply hm
    rwa [bind_state_of_readOnly fun _ => keeps_pure id _]
  by_cases hcall : call.writesQueue = false
  · have hkept : (fun s : Store => (s.devices, s.operations)) (call.step s) =
        (s.devices, s.operations) :=
      StoreCall.keeps_memory (f := fun s => (s.devices, s.operations))
        (fun _ _ _ _ _ _ => rfl) hcall s
    obtain ⟨hdevices, hoperations⟩ := Prod.mk.inj hkept
    intro id e he
    simp only [ledger, hoperations] at he
    rw [hdevices]
    exact h id e he
  · cases call with
    | registerDevice tenantID eid =>
        refine hrest (h.congr (ledger_registerDevice tenantID eid s) fun key hkey => ?_)
        rw [registerDevice_apply]
        cases s.devices.lookup (newDeviceKey tenantID eid) with
        | some device => exact hkey
        | none => exact isSome_lookup_insert hkey
    | nextEUICCPackageCounter tenantID eid =>
        apply hrest
        rw [nextEUICCPackageCounter_apply]
        cases s.devices.lookup (newDeviceKey tenantID eid) with
        | none => exact h
        | some device => exact fun id e he => isSome_lookup_insert (h id e he)
    | enqueueOperation tenantID eid kind payload => exact hrest (h.enqueueOperation tenantID _)
    | recordEUICCPackageResult tenantID eid operationID sequenceNumber status payload =>
        refine hrest (h.congr (unaffected_ledger.record _ _ s) fun key hkey => ?_)
        rwa [unaffected_devices.record _ _ s]
    | _ => exact absurd rfl hcall

theorem registered_afterCalls (calls : List StoreCall) : Registered (StoreCall.after calls) := by
  refine Run.invariant (P := Registered) (fun _ call h => registered_call h call) ?_ calls
  intro id e he
  cases he

theorem numbered_afterCalls (calls : List StoreCall) :
    Numbered (ledger (StoreCall.after calls)) :=
  numbered_of_logged (logged_after logged_new calls)

/-! ## Verification of an unsigned error -/

variable {H : Handler} {s : Store} {eid payload resultDER : Bytes} {tlv raw : Tlv}
  {operation : Operation} {error : EuiccPackageErrorUnsigned} {publicKey : PublicKey}

/-- There is a key for the device, and the error has the identifiers of the package.  The octets
under a signature have to be found, too, although there is no signature to check. -/
structure VerifiesUnsigned (H : Handler) (s : Store) (eid : Bytes) (operation : Operation)
    (resultDER : Bytes) (error : EuiccPackageErrorUnsigned) : Prop where
  key : ∃ publicKey, resolvePublicKey H eid = .ok (some publicKey)
  identifiers : ∃ request, decodePackage H operation = .ok request ∧
    error.eimID = request.euiccPackageSigned.eimID ∧
    error.eimTransactionID.getD [] = request.euiccPackageSigned.eimTransactionID.getD []
  token : ∃ token octets,
    rowToken H.bertlv ((s.records (H.device eid)).eims error.eimID) = .ok token ∧
    associationTokenTLV H.bertlv (token.getD 0) = .ok octets
  signedData : ∃ signedData, rawSignedDataFromResultDER resultDER = .ok signedData

/-- An unsigned error that verifies fails the package. -/
theorem VerifiesUnsigned.failed (h : VerifiesUnsigned H s eid operation resultDER error)
    (hkind : operation.kind = .euiccPackage)
    (hdecode : Asn1.decode H.bertlv (EuiccPackageResult.unmarshalBERTLV H.bertlv) resultDER =
      .ok (.errorUnsigned error)) (publicKey : PublicKey) :
    ∃ domain, verifiedOperationResult H operation eid resultDER publicKey s =
      (.ok (domain, .failed), s) := by
  obtain ⟨request, hrequest, heimID, htransaction⟩ := h.identifiers
  obtain ⟨token, octets, htoken, hoctets⟩ := h.token
  obtain ⟨signedData, hsignedData⟩ := h.signedData
  have hsigned : ∃ signed, signedRequestFromOperation H eid operation = .ok signed ∧
      error.eimID = signed.eimID ∧
      error.eimTransactionID.getD [] = signed.eimTransactionID.getD [] := by
    rw [signedRequestFromOperation, if_neg (not_not.mpr hkind), hrequest]
    exact ⟨_, rfl, heimID, htransaction⟩
  obtain ⟨signed, hsigned, heimID, htransaction⟩ := hsigned
  rw [verifiedOperationResult_apply, hsigned, Outcome.ok_bind, ← heimID, htoken, Outcome.ok_bind,
    verifyPackageResult]
  simp only [verificationInput, hdecode, hsignedData, verifyResult, signatureInput, hoctets,
    Outcome.ok_bind, Outcome.pure_eq]
  rw [if_neg (by simp [heimID, htransaction, sameTransaction])]
  cases error.errorCode with
  | none => exact ⟨_, rfl⟩
  | some code => exact ⟨_, rfl⟩

/-- Only an unsigned error with the identifiers of the package verifies. -/
theorem verifiesUnsigned_of_verified (hkey : resolvePublicKey H eid = .ok (some publicKey))
    (hdecode : Asn1.decode H.bertlv (EuiccPackageResult.unmarshalBERTLV H.bertlv) resultDER =
      .ok (.errorUnsigned error)) {verdict : Option Result × OperationStatus}
    (h : verifiedOperationResult H operation eid resultDER publicKey s = (.ok verdict, s)) :
    VerifiesUnsigned H s eid operation resultDER error := by
  rw [verifiedOperationResult_apply] at h
  obtain ⟨signed, hsigned, h⟩ := Outcome.bind_eq_ok.mp (Prod.mk.inj h).1
  obtain ⟨token, htoken, h⟩ := Outcome.bind_eq_ok.mp h
  obtain ⟨request, hrequest, heimID, -, htransaction, -⟩ := signedRequestFromOperation_eq_ok hsigned
  rw [verifyPackageResult] at h
  simp only [verificationInput, hdecode, Outcome.ok_bind] at h
  rcases statusOf_bind (fails_rawSignedDataFromResultDER resultDER) with
    ⟨e, herror, -⟩ | ⟨signedData, hsignedData, hraw⟩
  · cases herror.symm.trans h
  rw [hraw, verifyResult] at h
  rcases statusOf_bind (fails_signatureInput (B := H.bertlv) (signedData.getD []) token) with
    ⟨e, herror, -⟩ | ⟨checked, hchecked, hinput⟩
  · cases herror.symm.trans h
  obtain ⟨octets, hoctets, -⟩ := Outcome.bind_eq_ok.mp hchecked
  replace h := hinput.symm.trans h
  dsimp only at h
  by_cases hidentifiers : error.eimID ≠ signed.eimID ∨
      !sameTransaction error.eimTransactionID signed.eimTransactionID
  · rw [if_pos hidentifiers] at h
    cases h
  · simp only [not_or, not_not, sameTransaction, Bool.not_eq_true', decide_eq_false_iff_not]
      at hidentifiers
    obtain ⟨hsame, htransactionID⟩ := hidentifiers
    exact ⟨⟨publicKey, hkey⟩, ⟨request, hrequest, hsame.trans heimID, htransaction ▸ htransactionID⟩,
      ⟨token, octets, hsame ▸ htoken, hoctets⟩, signedData, hsignedData⟩

/-! ## Recording -/

/-- The operation has failed, with the result. -/
def Failed (s : Store) (operation : Operation) (payload : Bytes) : Prop :=
  outcome s operation.id = some (.failed, operation.result .failed payload)

/-- An operation that has failed is not sent again. -/
theorem Failed.not_selected (h : Failed s operation payload) (eid : Bytes) {selected : Operation}
    (hselect : (selectOperationForGetEimPackage H eid s).1 = .ok (some selected)) :
    selected.id ≠ operation.id := by
  rw [selectOperationForGetEimPackage_apply] at hselect
  have hpending := List.mem_of_find?_eq_some (first_of_selectFrom (Except.ok.inj hselect))
  obtain ⟨hqueued, hstatus⟩ := queued_of_mem_pending hpending
  intro hid
  rw [Failed, ← hid] at h
  exact absurd (hstatus.symm.trans (status_of_outcome hqueued h)) nofun

theorem delivers_unverified (h : Delivers H s tlv eid raw) :
    Delivers H.unverified s tlv eid raw := by
  cases h with
  | provide hprovide hdecode hraw heid => exact .provide hprovide hdecode hraw heid
  | transfer htag hdecode hraw hfirst heid => exact .transfer htag hdecode hraw hfirst heid

/-- With a key, the verifying handler reads what the other one reads. -/
def verifiedReading (r : PackageReading H.unverified s eid raw)
    (hkey : resolvePublicKey H eid = .ok (some publicKey)) : PackageReading H s eid raw where
  resultTLV := r.resultTLV
  notificationList := r.notificationList
  result := r.result
  resultDER := r.resultDER
  publicKey := some publicKey
  operation := r.operation
  split_eq := r.split_eq
  decode_eq := r.decode_eq
  marshal_eq := r.marshal_eq
  key_eq := hkey
  match_eq := matching_unverified (H := H) eid r.result ▸ r.match_eq

theorem failed_of_record (hnumbered : Numbered (ledger s)) (hregistered : Registered s)
    (hdelivers : Delivers H s tlv eid raw) (hpayload : marshalBinary H.bertlv raw = .ok payload)
    (r : PackageReading H s eid raw)
    (hrecord : r.record payload s = recordResult H eid r.operation .failed payload s) :
    Failed (dispatch H tlv s).2 r.operation payload := by
  have hresult := recordResult_of_queued r.queued .failed payload
  rw [if_pos (hregistered.of_queued r.queued)] at hresult
  have houtcome : outcome (s.recorded (H.device eid) r.operation .failed payload) r.operation.id =
      some (.failed, r.operation.result .failed payload) := hnumbered.outcome_recorded r.queued
  rw [Failed, ← houtcome]
  apply outcome_congr
  rw [dispatch_of_delivers hdelivers, r.recordEimPackageResult_eq hpayload,
    r.book_recordEuiccPackageResult, hrecord, hresult]

theorem record_unverified (r : PackageReading H.unverified s eid raw)
    (herror : r.result = .errorUnsigned error) :
    r.record payload s = recordResult H.unverified eid r.operation .failed payload s := by
  have hkey : r.publicKey = none := (Except.ok.inj r.key_eq).symm
  rw [PackageReading.record, hkey, herror]
  exact congrFun (bind_pure_unit (x := recordResult H.unverified eid r.operation .failed payload)) s

theorem record_verified (r : PackageReading H s eid raw) {domain : Option Result}
    (hkey : r.publicKey = some publicKey)
    (hverified : verifiedOperationResult H r.operation eid r.resultDER publicKey s =
      (.ok (domain, .failed), s)) :
    r.record payload s = recordResult H eid r.operation .failed payload s := by
  rw [PackageReading.record, hkey]
  refine (bind_of_ok hverified).trans ?_
  exact congrFun (bind_pure_unit (x := recordResult H eid r.operation .failed payload)) s

/-- An unsigned error that does not verify leaves the store as it is. -/
theorem dispatch_of_not_verifies (hB : H.bertlv.Lawful)
    (hverify : H.allowUnverifiedEUICCPackageResults = false) (hraw : raw.WellFormed)
    (hdelivers : Delivers H s tlv eid raw) (hpayload : marshalBinary H.bertlv raw = .ok payload)
    (r : PackageReading H.unverified s eid raw) (herror : r.result = .errorUnsigned error)
    (hnot : ¬ VerifiesUnsigned H s eid r.operation r.resultDER error) :
    (dispatch H tlv s).2 = s := by
  rw [dispatch_of_delivers hdelivers, recordEimPackageResult_of_tag r.tag_raw hpayload]
  rcases recordEuiccPackageResult_cases H s eid raw payload with ⟨e, hrun⟩ | ⟨⟨other⟩⟩
  · rw [hrun]
  · obtain ⟨-, key, -, -, hsome⟩ := resolvePublicKey_eq_some hverify other.key_eq
    have hkey : resolvePublicKey H eid = .ok (some key) := hsome ▸ other.key_eq
    have hresult : Asn1.decode H.bertlv (EuiccPackageResult.unmarshalBERTLV H.bertlv) r.resultDER =
        .ok (.errorUnsigned error) := herror ▸ (verifiedReading r hkey).decode_resultDER hB hraw
    -- the verification fails before anything is written
    have hrecord : ∃ e, (verifiedReading r hkey).record payload s = (.error e, s) := by
      cases hrun : verifiedOperationResult H r.operation eid r.resultDER key s with
      | mk verdict t =>
          obtain rfl : t = s := by
            have hread := readOnly_verifiedOperationResult (H := H) r.operation eid r.resultDER key s
            rwa [hrun] at hread
          cases verdict with
          | error e => exact ⟨e, bind_of_error hrun⟩
          | ok verdict => exact absurd (verifiesUnsigned_of_verified hkey hresult hrun) hnot
    obtain ⟨e, hrecord⟩ := hrecord
    rw [(verifiedReading r hkey).recordEuiccPackageResult_eq, bind_of_error hrecord]

/-- Without verification an unsigned error fails the package it is attributed to.  With verification
it does exactly if it has the identifiers of the package, and otherwise leaves the store as it is.
A package that has failed is not sent again. -/
theorem unsigned_error_fails_iff (hB : H.bertlv.Lawful)
    (hverify : H.allowUnverifiedEUICCPackageResults = false) (calls : List StoreCall)
    {message : Bytes} (hdecode : decodeRequest H message = .ok tlv)
    (hdelivers : Delivers H (StoreCall.after calls) tlv eid raw)
    (hpayload : marshalBinary H.bertlv raw = .ok payload)
    (r : PackageReading H.unverified (StoreCall.after calls) eid raw)
    (herror : r.result = .errorUnsigned error) :
    Failed (dispatch H.unverified tlv (StoreCall.after calls)).2 r.operation payload ∧
    (Failed (dispatch H tlv (StoreCall.after calls)).2 r.operation payload ↔
      VerifiesUnsigned H (StoreCall.after calls) eid r.operation r.resultDER error ∨
        Failed (StoreCall.after calls) r.operation payload) ∧
    (¬ VerifiesUnsigned H (StoreCall.after calls) eid r.operation r.resultDER error →
      (dispatch H tlv (StoreCall.after calls)).2 = StoreCall.after calls) ∧
    ∀ s, Failed s r.operation payload → ∀ eid selected,
      (selectOperationForGetEimPackage H eid s).1 = .ok (some selected) →
        selected.id ≠ r.operation.id := by
  have hnumbered := numbered_afterCalls calls
  have hregistered := registered_afterCalls calls
  have hraw := hdelivers.wellFormed (wellFormed_of_decodeRequest hB hdecode)
  have hunchanged := dispatch_of_not_verifies hB hverify hraw hdelivers hpayload r herror
  have hfails : VerifiesUnsigned H (StoreCall.after calls) eid r.operation r.resultDER error →
      Failed (dispatch H tlv (StoreCall.after calls)).2 r.operation payload := by
    intro hverifies
    obtain ⟨key, hkey⟩ := hverifies.key
    have hresult : Asn1.decode H.bertlv (EuiccPackageResult.unmarshalBERTLV H.bertlv) r.resultDER =
        .ok (.errorUnsigned error) := herror ▸ (verifiedReading r hkey).decode_resultDER hB hraw
    obtain ⟨domain, hrun⟩ := hverifies.failed r.matching.queued.2 hresult key
    exact failed_of_record hnumbered hregistered hdelivers hpayload (verifiedReading r hkey)
      (record_verified _ rfl hrun)
  refine ⟨?_, ⟨fun hfailed => ?_, fun h => ?_⟩, hunchanged, fun s hfailed eid selected hselect =>
    hfailed.not_selected eid hselect⟩
  · exact failed_of_record hnumbered hregistered (delivers_unverified hdelivers) hpayload r
      (record_unverified r herror)
  · by_cases hverifies : VerifiesUnsigned H (StoreCall.after calls) eid r.operation r.resultDER error
    · exact .inl hverifies
    · rw [hunchanged hverifies] at hfailed
      exact .inr hfailed
  · by_cases hverifies : VerifiesUnsigned H (StoreCall.after calls) eid r.operation r.resultDER error
    · exact hfails hverifies
    · rw [hunchanged hverifies]
      exact h.resolve_left hverifies

/-! A device with one package in its queue, and two unsigned errors for it: one that names the eIM,
and a bare INTEGER. -/

def sampleCalls : List StoreCall :=
  [.registerDevice [] (Hex.encode sampleEID),
    .enqueueOperation [] (Hex.encode sampleEID) .euiccPackage
      (samplePackage (.enable [0x89] false) 1).payload]

def sampleQueued : Operation :=
  ⟨1, Hex.encode sampleEID, 1, .euiccPackage, (samplePackage (.enable [0x89] false) 1).payload,
    .pending⟩

def sampleUnsignedError : Tlv :=
  .constructed tagEuiccPkg [.constructed (contextConstructed 2)
    [.primitive (context 0) (text "e"), .primitive (context 15) [0x7f]]]

def sampleBareError : Tlv := .constructed tagEuiccPkg [.primitive tagInteger [0x7f]]

def sampleUnsignedReading : PackageReading sampleHandler.unverified (StoreCall.after sampleCalls)
    (Hex.encode sampleEID) sampleUnsignedError where
  resultTLV := sampleUnsignedError
  notificationList := none
  result := .errorUnsigned { eimID := text "e", errorCode := some 127 }
  resultDER := [0xbf, 0x51, 0x08, 0xa2, 0x06, 0x80, 0x01, 0x65, 0x8f, 0x01, 0x7f]
  publicKey := none
  operation := sampleQueued
  split_eq := rfl
  decode_eq := rfl
  marshal_eq := rfl
  key_eq := rfl
  match_eq := by
    have hmatch : (matchingEUICCPackageOperation sampleHandler.unverified (Hex.encode sampleEID)
        (.errorUnsigned { eimID := text "e", errorCode := some 127 })
        (StoreCall.after sampleCalls)).1 = .ok sampleQueued := by
      decide +kernel
    exact hmatch

theorem unsigned_error_fails_iff_named :
    Failed (dispatch sampleHandler (sampleMessage sampleUnsignedError)
        (StoreCall.after sampleCalls)).2 sampleQueued sampleUnsignedReading.resultDER ↔
      VerifiesUnsigned sampleHandler (StoreCall.after sampleCalls) (Hex.encode sampleEID)
          sampleQueued sampleUnsignedReading.resultDER
          { eimID := text "e", errorCode := some 127 } ∨
        Failed (StoreCall.after sampleCalls) sampleQueued sampleUnsignedReading.resultDER := by
  have hdecode : decodeRequest sampleHandler ([0xbf, 0x50, 0x1d, 0x5a, 0x10] ++ sampleEID ++
      [0xbf, 0x51, 0x08, 0xa2, 0x06, 0x80, 0x01, 0x65, 0x8f, 0x01, 0x7f]) =
        .ok (sampleMessage sampleUnsignedError) := by
    decide +kernel
  have hdelivers : Delivers sampleHandler (StoreCall.after sampleCalls)
      (sampleMessage sampleUnsignedError) (Hex.encode sampleEID) sampleUnsignedError :=
    .provide rfl rfl rfl rfl
  exact (unsigned_error_fails_iff Bertlv.reference_lawful rfl sampleCalls hdecode hdelivers rfl
    sampleUnsignedReading rfl).2.1

/-- The bare INTEGER is attributed to the package, which fails without verification.  With it the
message is rejected, and the package is sent again. -/
theorem bare_error_leaves_package :
    (matchingEUICCPackageOperation sampleHandler (Hex.encode sampleEID)
      (.errorUnsigned { errorCode := some 127 }) (StoreCall.after sampleCalls)).1 =
        .ok sampleQueued ∧
    outcome (dispatch sampleHandler.unverified (sampleMessage sampleBareError)
      (StoreCall.after sampleCalls)).2 1 =
        some (.failed, sampleQueued.result .failed [0xbf, 0x51, 0x03, 0x02, 0x01, 0x7f]) ∧
    (dispatch sampleHandler (sampleMessage sampleBareError) (StoreCall.after sampleCalls)).1 =
      .error (.transactionMismatch
        "unsigned error does not match eIM ID or transaction ID") ∧
    (selectOperationForGetEimPackage sampleHandler (Hex.encode sampleEID)
      (dispatch sampleHandler (sampleMessage sampleBareError) (StoreCall.after sampleCalls)).2).1 =
        .ok (some sampleQueued) := by
  refine ⟨?_, ?_, ?_, ?_⟩ <;> decide +kernel

end OpenIotRsp.Server
