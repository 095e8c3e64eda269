import OpenIotRsp.Verification.Esipa.Delivery
import OpenIotRsp.Verification.PackageResult.SignatureBinding

/-!
# Recording package results

A package result is read, correlated and, with a trusted key, verified before
anything is written.  With verification on, the state of a device changes only
for a verified successful result of one of its packages.
-/

namespace OpenIotRsp.Esipa

open Octets Ber Stateful Asn1 Storage Euiccpkg

/-! ## Reading -/

/-- What is read from a package result before anything is recorded. -/
structure PackageReading (H : Handler) (s : Store) (eid : Bytes) (tlv : Tlv) where
  resultTLV : Tlv
  notificationList : Option Tlv
  result : EuiccPackageResult
  resultDER : Bytes
  publicKey : Option PublicKey
  operation : Operation
  split_eq : splitResult tlv = .ok (resultTLV, notificationList)
  decode_eq : EuiccPackageResult.unmarshalBERTLV H.bertlv resultTLV = .ok result
  marshal_eq : marshalBinary H.bertlv resultTLV = .ok resultDER
  key_eq : resolvePublicKey H eid = .ok publicKey
  match_eq : (matchingEUICCPackageOperation H eid result s).1 = .ok operation

variable {H : Handler} {s : Store} {eid payload : Bytes} {tlv : Tlv} {γ : Type} {f : Store → γ}
  {operation : Operation}

namespace PackageReading

variable (r : PackageReading H s eid tlv)

theorem matching : Matching H s eid r.result r.operation := matching_of_match r.match_eq

theorem queued : Queued s (H.device eid) r.operation := r.matching.queued.1

/-- A result is read in one way. -/
theorem unique (r' : PackageReading H s eid tlv) : r = r' := by
  obtain ⟨_, _, _, _, _, _, hsplit, hdecode, hmarshal, hkey, hmatch⟩ := r
  obtain ⟨_, _, _, _, _, _, hsplit', hdecode', hmarshal', hkey', hmatch'⟩ := r'
  obtain ⟨rfl, rfl⟩ := Prod.mk.inj (Except.ok.inj (hsplit.symm.trans hsplit'))
  obtain rfl := Except.ok.inj (hdecode.symm.trans hdecode')
  obtain rfl := Except.ok.inj (hmarshal.symm.trans hmarshal')
  obtain rfl := Except.ok.inj (hkey.symm.trans hkey')
  obtain rfl := Except.ok.inj (hmatch.symm.trans hmatch')
  rfl

/-- The reading in another store, where the result is matched again. -/
def inStore {s' : Store} (operation : Operation)
    (h : (matchingEUICCPackageOperation H eid r.result s').1 = .ok operation) :
    PackageReading H s' eid tlv :=
  { r with
    operation := operation
    match_eq := h }

/-- The recording of the matched operation. -/
def record (payload : Bytes) : StoreM Unit :=
  match r.publicKey with
  | none => recordUnverified H eid r.operation r.result payload
  | some publicKey => recordVerified H eid r.operation r.resultDER payload publicKey

/-- The numbers that are acknowledged, with those of the stored notifications. -/
def acknowledgements (notificationSequences : List Int) : List Int :=
  appendAckSequences (appendAckSequences [] (packageResultAckSequences r.result))
    notificationSequences

/-- A result that can be read is recorded, and its notifications after it. -/
theorem recordEuiccPackageResult_eq :
    recordEuiccPackageResult H eid tlv payload s =
      (r.record payload >>= fun _ =>
        recordNotificationsFromList H eid r.notificationList >>= fun notificationSequences =>
          pure (.ack (r.acknowledgements notificationSequences))) s := by
  have hmatch : matchingEUICCPackageOperation H eid r.result s = (.ok r.operation, s) :=
    Prod.ext r.match_eq (readOnly_matchingEUICCPackageOperation eid r.result s)
  refine (ofExcept_bind_of_ok _ s r.split_eq).trans ?_
  refine (ofExcept_bind_of_ok _ s r.decode_eq).trans ?_
  refine (ofExcept_bind_of_ok _ s r.marshal_eq).trans ?_
  refine (ofExcept_bind_of_ok _ s r.key_eq).trans ?_
  refine (bind_of_ok hmatch).trans ?_
  rw [record]
  cases r.publicKey with
  | none => rfl
  | some publicKey => rfl

end PackageReading

/-- A result that cannot be read leaves the store as it is. -/
theorem recordEuiccPackageResult_cases (H : Handler) (s : Store) (eid : Bytes) (tlv : Tlv)
    (payload : Bytes) :
    (∃ e, recordEuiccPackageResult H eid tlv payload s = (.error e, s)) ∨
      Nonempty (PackageReading H s eid tlv) := by
  rcases (readOnly_ofExcept (splitResult tlv)).bind_cases _ s with
    ⟨e, hrun⟩ | ⟨⟨resultTLV, notificationList⟩, hsplit, hrun⟩
  · exact .inl ⟨e, hrun⟩
  rcases (readOnly_ofExcept (EuiccPackageResult.unmarshalBERTLV H.bertlv resultTLV)).bind_cases _ s
    with ⟨e, hdecode⟩ | ⟨result, hdecode, hrest⟩
  · exact .inl ⟨e, hrun.trans hdecode⟩
  replace hrun := hrun.trans hrest
  rcases (readOnly_ofExcept (marshalBinary H.bertlv resultTLV)).bind_cases _ s with
    ⟨e, hmarshal⟩ | ⟨resultDER, hmarshal, hrest⟩
  · exact .inl ⟨e, hrun.trans hmarshal⟩
  replace hrun := hrun.trans hrest
  rcases (readOnly_ofExcept (resolvePublicKey H eid)).bind_cases _ s with
    ⟨e, hkey⟩ | ⟨publicKey, hkey, hrest⟩
  · exact .inl ⟨e, hrun.trans hkey⟩
  replace hrun := hrun.trans hrest
  rcases (readOnly_matchingEUICCPackageOperation (H := H) eid result).bind_cases _ s with
    ⟨e, hmatch⟩ | ⟨operation, hmatch, -⟩
  · exact .inl ⟨e, hrun.trans hmatch⟩
  exact .inr ⟨⟨resultTLV, notificationList, result, resultDER, publicKey, operation, hsplit, hdecode,
    hmarshal, hkey, hmatch⟩⟩

theorem keeps_recordNotification {pending : PendingNotification}
    (hf : ∀ notification, notificationFromPending H eid pending = .ok notification →
      Keeps f (storeNotification H.tenant notification)) :
    Keeps f (recordNotification H eid pending) := by
  refine (keeps_ofExcept f _).bind_of_result fun s notification hok => ?_
  exact (hf notification hok).bind fun _ => keeps_pure f _

theorem keeps_recordNotificationsFromList
    (hf : ∀ pending notification, notificationFromPending H eid pending = .ok notification →
      Keeps f (storeNotification H.tenant notification)) (list : Option Tlv) :
    Keeps f (recordNotificationsFromList H eid list) := by
  cases list with
  | none => exact keeps_pure f []
  | some tlv =>
      refine (keeps_ofExcept f _).bind fun notifications => ?_
      exact Keeps.mapM fun pending _ => keeps_recordNotification (hf pending)

/-- An observation that no notification affects is kept if recording the operation keeps it. -/
theorem keepsAt_recordEuiccPackageResult
    (hnotify : ∀ list, Keeps f (recordNotificationsFromList H eid list))
    (hrecord : ∀ r : PackageReading H s eid tlv, KeepsAt f (r.record payload) s) :
    KeepsAt f (recordEuiccPackageResult H eid tlv payload) s := by
  rcases recordEuiccPackageResult_cases H s eid tlv payload with ⟨e, hrun⟩ | ⟨⟨r⟩⟩
  · rw [KeepsAt, hrun]
  · rw [KeepsAt, r.recordEuiccPackageResult_eq]
    refine (hrecord r).bind fun _ s' _ => ?_
    exact ((hnotify r.notificationList).bind fun _ => keeps_pure f _) s'

theorem recordResult_of_queued (hqueued : Queued s (H.device eid) operation)
    (status : OperationStatus) (payload : Bytes) :
    recordResult H eid operation status payload s =
      if (s.devices.lookup (H.device eid)).isSome then
        (.ok (), s.recorded (H.device eid) operation status payload)
      else (.error .notFound, s) :=
  recordEUICCPackageResult_of_queued hqueued

theorem recordResult_eq_ok {status : OperationStatus} {u : Unit} {s' : Store}
    (hqueued : Queued s (H.device eid) operation)
    (h : recordResult H eid operation status payload s = (.ok u, s')) :
    (s.devices.lookup (H.device eid)).isSome ∧
      s' = s.recorded (H.device eid) operation status payload := by
  rw [recordResult_of_queued hqueued] at h
  split at h
  next hregistered => exact ⟨hregistered, (Prod.mk.inj h).2.symm⟩
  next => cases h

/-! ## Verification -/

theorem statusOf_eq_done {outcome : Except Error Result} {domain : Option Result}
    (h : statusOf outcome = .ok (domain, .done)) :
    ∃ result, outcome = .ok result ∧ domain = some result ∧ result.ok = true := by
  unfold statusOf at h
  split at h
  next => cases h
  next => cases h
  next result =>
      obtain ⟨hdomain, hstatus⟩ := Prod.mk.inj (Except.ok.inj h)
      refine ⟨result, rfl, hdomain.symm, ?_⟩
      by_contra hok
      rw [if_neg hok] at hstatus
      cases hstatus

theorem signedRequestFromOperation_eq_ok {request : SignedRequest}
    (h : signedRequestFromOperation H eid operation = .ok request) :
    ∃ decoded, decodePackage H operation = .ok decoded ∧
      request.eimID = decoded.euiccPackageSigned.eimID ∧
      request.counterValue = decoded.euiccPackageSigned.counterValue ∧
      request.eimTransactionID = decoded.euiccPackageSigned.eimTransactionID ∧
      request.package = decoded.euiccPackageSigned.euiccPackage := by
  rw [signedRequestFromOperation] at h
  split at h
  next => cases h
  next =>
      obtain ⟨decoded, hdecode, h⟩ := Outcome.bind_eq_ok.mp h
      obtain rfl := Except.ok.inj h
      exact ⟨decoded, hdecode, rfl, rfl, rfl, rfl⟩

/-- The input that a result of an operation is verified with. -/
def verificationInput (request : SignedRequest) (resultDER : Bytes) (publicKey : PublicKey)
    (token : Option Int) : ResultInput :=
  { request := request, resultDER := resultDER, euiccPublicKey := publicKey,
    associationToken := token }

theorem readOnly_verifiedOperationResult (operation : Operation) (eid resultDER : Bytes)
    (publicKey : PublicKey) :
    ReadOnly (verifiedOperationResult H operation eid resultDER publicKey) := by
  refine (keeps_ofExcept id _).bind fun request => ?_
  refine (keeps_existingAssociationToken id H.bertlv H.tenant eid request.eimID).bind fun token => ?_
  exact keeps_ofExcept id _

theorem verifiedOperationResult_eq_ok {resultDER : Bytes} {publicKey : PublicKey}
    {domain : Option Result} {status : OperationStatus}
    (h : (verifiedOperationResult H operation eid resultDER publicKey s).1 = .ok (domain, status)) :
    ∃ request token, signedRequestFromOperation H eid operation = .ok request ∧
      (associationTokenForEIM H.bertlv H.tenant eid request.eimID s).1 = .ok token ∧
      statusOf (verifyPackageResult H.bertlv H.crypto
        (verificationInput request resultDER publicKey token)) = .ok (domain, status) := by
  have hrun : verifiedOperationResult H operation eid resultDER publicKey s =
      (.ok (domain, status), s) :=
    Prod.ext h (readOnly_verifiedOperationResult operation eid resultDER publicKey s)
  obtain ⟨request, hrequest, hrun⟩ := ReadOnly.bind_eq_ok (readOnly_ofExcept _) hrun
  obtain ⟨token, htoken, hrun⟩ := ReadOnly.bind_eq_ok
    (keeps_existingAssociationToken id H.bertlv H.tenant eid request.eimID) hrun
  exact ⟨request, token, hrequest, htoken, congrArg Prod.fst hrun⟩

theorem keepsAt_recordVerified {resultDER : Bytes} {publicKey : PublicKey}
    (hresult : ∀ status, KeepsAt f (recordResult H eid operation status payload) s)
    (hstate : ∀ request domain, signedRequestFromOperation H eid operation = .ok request →
      (verifiedOperationResult H operation eid resultDER publicKey s).1 = .ok (domain, .done) →
      Keeps f (applyPackageResultState H.bertlv H.tenant eid request.package domain)) :
    KeepsAt f (recordVerified H eid operation resultDER payload publicKey) s := by
  refine (readOnly_verifiedOperationResult operation eid resultDER publicKey).keepsAt_bind ?_
  rintro ⟨domain, status⟩ hverified
  refine (hresult status).bind fun _ s' _ => ?_
  by_cases hstatus : status = .done
  · subst hstatus
    rw [if_pos rfl]
    refine (readOnly_ofExcept _).keepsAt_bind fun request hrequest => ?_
    exact hstate request domain hrequest hverified s'
  · rw [if_neg hstatus]
    exact keeps_pure f () s'

theorem keeps_applyEUICCPackageOperationState (hf : IgnoresState f H.tenant operation.eid)
    (result : EuiccPackageResult) :
    Keeps f (applyEUICCPackageOperationState H operation result) := by
  refine Keeps.ite (fun _ => keeps_pure f ()) fun _ => ?_
  refine (keeps_ofExcept f _).bind fun request => (keeps_ofExcept f _).bind fun domain => ?_
  exact hf.applyPackageResultState H.bertlv _ domain

theorem keepsAt_recordUnverified
    (hresult : ∀ status, KeepsAt f (recordResult H eid operation status payload) s)
    (hf : IgnoresState f H.tenant operation.eid) (result : EuiccPackageResult) :
    KeepsAt f (recordUnverified H eid operation result payload) s := by
  refine (readOnly_ofExcept _).keepsAt_bind fun status _ => ?_
  refine (hresult status).bind fun _ s' _ => ?_
  split
  next => exact keeps_applyEUICCPackageOperationState hf result s'
  next => exact keeps_pure f () s'

/-- An observation that ignores the state of the device is kept if the result itself keeps it. -/
theorem PackageReading.keepsAt_record (r : PackageReading H s eid tlv)
    (hresult : ∀ status, KeepsAt f (recordResult H eid r.operation status payload) s)
    (hf : IgnoresState f H.tenant eid) : KeepsAt f (r.record payload) s := by
  rw [PackageReading.record]
  split
  next =>
      apply keepsAt_recordUnverified hresult
      rw [show r.operation.eid = eid from r.queued.choose_spec.2.2]
      exact hf
  next =>
      apply keepsAt_recordVerified hresult
      intro request domain _ _
      exact hf.applyPackageResultState H.bertlv request.package domain

/-! ## State changes -/

/-- The profile states, the eUICC states and the associated eIMs of all devices. -/
structure DeviceState where
  profileStates : AList StoredProfile
  euiccStates : AList fun _ : DeviceKey => EUICCState
  associatedEIMs : AList fun _ : AssociatedEIMKey => AssociatedEIM

def deviceState (s : Store) : DeviceState :=
  ⟨s.profileStates, s.euiccStates, s.associatedEIMs⟩

/-- A package of exactly one operation. -/
def IsSingle : EuiccPackage → Prop
  | .psmo [_] => True
  | .eco [_] => True
  | _ => False

theorem keeps_applyPackageResultState_of_not_single (f : Store → γ) (B : Bertlv)
    (tenantID : TenantID) {pkg : EuiccPackage} (domain : Option Result) (h : ¬ IsSingle pkg) :
    Keeps f (applyPackageResultState B tenantID eid pkg domain) := by
  have hpsmo : packagePSMO pkg = (.none, []) := by
    rw [packagePSMO]
    rintro psmo rfl
    exact h trivial
  have heco : packageECO pkg = (.none, none) := by
    rw [packageECO]
    rintro eco rfl
    exact h trivial
  refine Keeps.bind ?_ fun _ => ?_
  · simp only [applyPSMOState, hpsmo]
    exact keeps_pure f ()
  · simp only [applyECOState, heco]
    exact keeps_pure f ()

/-- The encoded result carries a signature that verifies under the key resolved for the device, is
of the successful kind with the identifiers of the operation, a package of the device, and reports
success for the single operation in it. -/
structure VerifiedSuccess (H : Handler) (s : Store) (eid resultDER : Bytes)
    (operation : Operation) (signed : EuiccPackageResultSigned) : Prop where
  decodes : Asn1.decode H.bertlv (EuiccPackageResult.unmarshalBERTLV H.bertlv) resultDER =
    .ok (.ok signed)
  signature : ∃ resolver publicKey token rawSignedData checked,
    H.euiccPublicKey = some resolver ∧ resolver H.tenant eid = .ok (some publicKey) ∧
    (associationTokenForEIM H.bertlv H.tenant eid signed.data.eimID s).1 = .ok token ∧
    rawSignedDataFromResultDER resultDER = .ok rawSignedData ∧
    signatureInput H.bertlv (rawSignedData.getD []) token = .ok checked ∧
    verifySignedBytes H.crypto publicKey checked signed.euiccSignEPR = .ok ()
  queued : Queued s (H.device eid) operation
  kind : operation.kind = .euiccPackage
  package : ∃ request, decodePackage H operation = .ok request ∧
    signed.data.eimID = request.euiccPackageSigned.eimID ∧
    signed.data.counterValue = request.euiccPackageSigned.counterValue ∧
    signed.data.eimTransactionID.getD [] = request.euiccPackageSigned.eimTransactionID.getD [] ∧
    IsSingle request.euiccPackageSigned.euiccPackage ∧
    ∃ domain, operationResult H.bertlv request.euiccPackageSigned.euiccPackage
      signed.data.results = .ok domain ∧ domain.ok = true

theorem keeps_deviceState_notifications (list : Option Tlv) :
    Keeps deviceState (recordNotificationsFromList H eid list) :=
  keeps_recordNotificationsFromList (fun _ _ _ => keeps_storeNotification fun _ => rfl) list

theorem keeps_deviceState_recordResult (operation : Operation) (status : OperationStatus) :
    Keeps deviceState (recordResult H eid operation status payload) :=
  keeps_recordEUICCPackageResult fun _ _ _ => rfl

theorem resolvePublicKey_eq_some (hverify : H.allowUnverifiedEUICCPackageResults = false)
    {publicKey : Option PublicKey} (h : resolvePublicKey H eid = .ok publicKey) :
    ∃ resolver key, H.euiccPublicKey = some resolver ∧ resolver H.tenant eid = .ok (some key) ∧
      publicKey = some key := by
  rw [resolvePublicKey, hverify, if_neg Bool.false_ne_true] at h
  split at h
  next => cases h
  next resolver hresolver =>
      obtain ⟨found, hfound, h⟩ := Outcome.bind_eq_ok.mp h
      cases found with
      | none => cases h
      | some key => exact ⟨resolver, key, hresolver, hfound, (Except.ok.inj h).symm⟩

/-- Recording a package result changes the state of a device only after its verification. -/
theorem PackageReading.verifiedSuccess (r : PackageReading H s eid tlv)
    (hverify : H.allowUnverifiedEUICCPackageResults = false)
    (hchange : ¬ KeepsAt deviceState (r.record payload) s) :
    ∃ signed, VerifiedSuccess H s eid r.resultDER r.operation signed := by
  obtain ⟨resolver, key, hresolver, hkey, hsome⟩ := resolvePublicKey_eq_some hverify r.key_eq
  by_contra hnone
  apply hchange
  rw [PackageReading.record, hsome]
  apply keepsAt_recordVerified
  · intro status
    exact keeps_deviceState_recordResult r.operation status s
  · intro request domain hrequest hverified
    by_cases hsingle : IsSingle request.package
    · exfalso
      apply hnone
      obtain ⟨request', token, hrequest', htoken, hstatus⟩ :=
        verifiedOperationResult_eq_ok hverified
      obtain rfl := Except.ok.inj (hrequest'.symm.trans hrequest)
      obtain ⟨result, haccept, -, hok⟩ := statusOf_eq_done hstatus
      obtain ⟨signed, checked, hdecode, hchecked, hsignature, heimID, hcounter, htransaction,
        hdomain⟩ := signed_of_accepted rfl haccept hok
      obtain ⟨raw, hraw, hchecked⟩ := Outcome.bind_eq_ok.mp hchecked
      obtain ⟨decoded, hpackage, hid, hvalue, htx, hpkg⟩ :=
        signedRequestFromOperation_eq_ok hrequest
      refine ⟨signed, hdecode, ?_, r.queued, r.matching.queued.2, ?_⟩
      · rw [heimID]
        exact ⟨resolver, key, token, raw, checked, hresolver, hkey, htoken, hraw, hchecked,
          hsignature⟩
      · rw [hid] at heimID
        rw [hvalue] at hcounter
        rw [htx] at htransaction
        rw [hpkg] at hsingle hdomain
        exact ⟨decoded, hpackage, heimID, hcounter, htransaction, hsingle, result, hdomain, hok⟩
    · exact keeps_applyPackageResultState_of_not_single _ _ _ domain hsingle

/-- The codec reads an encoded result as the handler reads its TLV. -/
theorem decode_marshalBinary {α : Type} {B : Bertlv} (hB : B.Lawful) {t : Tlv} {w : Bytes}
    (unmarshal : Tlv → Except Error α) (ht : t.WellFormed) (hw : marshalBinary B t = .ok w) :
    Asn1.decode B unmarshal w = unmarshal t := by
  rw [marshalBinary] at hw
  split at hw
  next payload hpayload =>
      obtain rfl := Except.ok.inj hw
      rw [Asn1.decode, parseTLV_marshalBinary hB ht hpayload]
      rfl
  next => cases hw

/-- With verification on, a message with a package result changes the state of a device only if
the result is a verified success for a package of the device that the message is for. -/
theorem verifiedSuccess_of_deviceState_change {H : Handler} {s : Store} {tlv raw : Tlv}
    (hverify : H.allowUnverifiedEUICCPackageResults = false)
    (hpayload : resultPayload H tlv = some raw)
    (htag : raw.tag = tagEuiccPkg ∨ raw.tag = tagSequence)
    (hchange : deviceState (dispatch H tlv s).2 ≠ deviceState s) :
    ∃ eid resultTLV notificationList resultDER operation signed,
      Delivers H s tlv eid raw ∧ splitResult raw = .ok (resultTLV, notificationList) ∧
      marshalBinary H.bertlv resultTLV = .ok resultDER ∧
      VerifiedSuccess H s eid resultDER operation signed ∧
      (H.bertlv.Lawful → resultTLV.WellFormed →
        EuiccPackageResult.unmarshalBERTLV H.bertlv resultTLV = .ok (.ok signed)) := by
  by_contra hnone
  apply hchange
  apply keepsAt_dispatch (isResultMessage_of_payload hpayload)
  intro eid raw' hdelivers
  obtain rfl := Option.some.inj (hdelivers.payload.symm.trans hpayload)
  refine (readOnly_ofExcept _).keepsAt_bind fun payload _ => ?_
  have hpackage : ¬ raw'.tag = tagDownloadTrig ∧ ¬ raw'.tag = tagIpaEuiccData ∧
      ¬ (raw'.tag = tagInteger ∨ raw'.tag = contextConstructed 0) := by
    rcases htag with htag | htag
    all_goals
      rw [htag]
      decide
  rw [if_neg hpackage.1, if_neg hpackage.2.1, if_neg hpackage.2.2]
  refine keepsAt_recordEuiccPackageResult keeps_deviceState_notifications fun r => ?_
  by_contra hrecord
  obtain ⟨signed, hverified⟩ := r.verifiedSuccess hverify hrecord
  refine hnone ⟨eid, _, _, _, r.operation, signed, hdelivers, r.split_eq, r.marshal_eq, hverified,
    fun hB hwf => ?_⟩
  exact (decode_marshalBinary hB _ hwf r.marshal_eq).symm.trans hverified.decodes

/-! A handler with a key for every device, a device with one package in its queue, and the signed
result for a package. -/

def sampleEID : Bytes := List.replicate 16 0x11

def sampleHandler : Handler where
  bertlv := .reference
  crypto := { sha256 := id, verifyASN1 := fun _ _ _ => true, verify := fun _ _ _ _ => false }
  x509 := ⟨fun _ => none⟩
  tenantID := []
  euiccPublicKey := some fun _ _ => .ok (some (.ecdsa ⟨256, 0, 0⟩))
  allowUnverifiedEUICCPackageResults := false

def samplePackage (psmo : Psmo) (counter : Int) : OperationRequest where
  eid := Hex.encode sampleEID
  kind := .euiccPackage
  payload := (Asn1.encode .reference (EuiccPackageRequest.marshalBERTLV .reference
    ⟨⟨text "e", sampleEID, counter, none, .psmo [psmo]⟩, []⟩)).toOption.getD []

def sampleStore (requests : List OperationRequest) : Store :=
  ((do
    registerDevice [] (Hex.encode sampleEID)
    requests.forM fun request => do let _ ← enqueueOperation [] request : StoreM Unit) Store.new).2

def sampleEnableStore : Store := sampleStore [samplePackage (.enable [0x89] false) 1]

/-- A signed result with one result item, under the alternative of its number. -/
def sampleSignedResult (counter alternative code : UInt8) : Tlv :=
  .constructed tagEuiccPkg [.constructed (contextConstructed 0)
    [.constructed tagSequence
      [.primitive (context 0) (text "e"), .primitive (context 1) [counter],
        .primitive (context 3) [0x05],
        .constructed tagSequence [.primitive (context alternative.toNat) [code]]],
      .primitive tagSignature []]]

def sampleMessage (raw : Tlv) : Tlv :=
  .constructed tagProvideEimResult [.primitive tagEID sampleEID, raw]

theorem verifiedSuccess_of_deviceState_change_enable :
    ∃ eid resultTLV notificationList resultDER operation signed,
      Delivers sampleHandler (sampleStore [samplePackage (.enable [0x89] false) 1])
        (sampleMessage (sampleSignedResult 1 3 0)) eid (sampleSignedResult 1 3 0) ∧
      splitResult (sampleSignedResult 1 3 0) = .ok (resultTLV, notificationList) ∧
      marshalBinary .reference resultTLV = .ok resultDER ∧
      VerifiedSuccess sampleHandler (sampleStore [samplePackage (.enable [0x89] false) 1]) eid
        resultDER operation signed ∧
      (Bertlv.reference.Lawful → resultTLV.WellFormed →
        EuiccPackageResult.unmarshalBERTLV .reference resultTLV = .ok (.ok signed)) := by
  refine verifiedSuccess_of_deviceState_change rfl (by decide) (.inl rfl) ?_
  intro heq
  have hlength : (dispatch sampleHandler (sampleMessage (sampleSignedResult 1 3 0))
      (sampleStore [samplePackage (.enable [0x89] false) 1])).2.profileStates.entries.length = 1 := by
    decide +kernel
  have hsame := congrArg (fun state => state.profileStates.entries.length) heq
  have hempty : (sampleStore [samplePackage (.enable [0x89] false) 1]).profileStates.entries.length =
      0 := by
    decide +kernel
  simp only [deviceState] at hsame
  omega

end OpenIotRsp.Esipa
