import OpenIotRsp.Verification.Server.Finality
import OpenIotRsp.Verification.Storage.ShownResults

/-!
# Redelivered results

A result that is delivered again is correlated with its completed operation,
recorded and applied once more.  Nothing changes if and only if the store shows
the result: a later result of the device may have moved it on.
-/

namespace OpenIotRsp.Server

open Octets Ber Stateful Asn1 Storage Euiccpkg Api Esipa

variable {operation : Operation}

/-- The profile states, the eUICC state and the associated eIMs of every device, and the status of
every operation. -/
def view (s : Store) : (DeviceKey → DeviceRows) × (Int → Option OperationStatus) :=
  (fun key => (s.records key).rows,
    fun id => (s.operations.lookup id).map fun stored => stored.val.operation.status)

theorem profile_of_view {s s' : Store} (h : view s' = view s) (key : DeviceKey) (iccid : Bytes) :
    s'.profile key iccid = s.profile key iccid :=
  congrArg (fun v : DeviceRows => v.profiles iccid) (congrFun (congrArg Prod.fst h) key)

variable {H : Handler} {s : Store} {eid payload : Bytes} {tlv raw : Tlv} {domain : Option Result}
  {status : OperationStatus} {r : PackageReading H s eid raw}

/-! ## The answer in a result -/

/-- The answer in a result that is not verified, and the status it gives the operation. -/
def unverifiedAnswer (H : Handler) (operation : Operation) :
    EuiccPackageResult → Except Error (Option Result × OperationStatus)
  | .ok signed => do
      let request ← decodePackage H operation
      statusOf (operationResult H.bertlv request.euiccPackageSigned.euiccPackage
        signed.data.results)
  | _ => .ok (none, .failed)

/-- The answer to the matched operation, and the status it gives the operation. -/
def answer (r : PackageReading H s eid raw) : Except Error (Option Result × OperationStatus) :=
  match r.publicKey with
  | some publicKey => (verifiedOperationResult H r.operation eid r.resultDER publicKey s).1
  | none => unverifiedAnswer H r.operation r.result

theorem statusOf_final {outcome : Except Error Result} (h : statusOf outcome = .ok (domain, status)) :
    status = .done ∨ status = .failed := by
  unfold statusOf at h
  split at h
  next => exact .inr (Prod.mk.inj (Except.ok.inj h)).2.symm
  next => cases h
  next result =>
      obtain ⟨-, rfl⟩ := Prod.mk.inj (Except.ok.inj h)
      split
      next => exact .inl rfl
      next => exact .inr rfl

theorem unverifiedAnswer_final {result : EuiccPackageResult}
    (h : unverifiedAnswer H operation result = .ok (domain, status)) :
    status = .done ∨ status = .failed := by
  cases result with
  | ok signed =>
      obtain ⟨_, -, hstatus⟩ := Outcome.bind_eq_ok.mp h
      exact statusOf_final hstatus
  | errorSigned error => exact .inr (Prod.mk.inj (Except.ok.inj h)).2.symm
  | errorUnsigned error => exact .inr (Prod.mk.inj (Except.ok.inj h)).2.symm

theorem answer_final (h : answer r = .ok (domain, status)) : status = .done ∨ status = .failed := by
  rw [answer] at h
  split at h
  next =>
      obtain ⟨_, _, -, -, hstatus⟩ := verifiedOperationResult_eq_ok h
      exact statusOf_final hstatus
  next => exact unverifiedAnswer_final h

theorem resultStatusForOperation_eq (hkind : operation.kind = .euiccPackage)
    (result : EuiccPackageResult) :
    resultStatusForOperation H operation result =
      (unverifiedAnswer H operation result).map Prod.snd := by
  cases result with
  | ok signed =>
      rw [resultStatusForOperation, unverifiedAnswer, if_neg (not_not.mpr hkind)]
      cases decodePackage H operation with
      | error e => rfl
      | ok request =>
          rw [Outcome.ok_bind, Outcome.ok_bind]
          cases statusOf (operationResult H.bertlv request.euiccPackageSigned.euiccPackage
            signed.data.results) with
          | error e => rfl
          | ok found => rfl
  | errorSigned error => rfl
  | errorUnsigned error => rfl

theorem domainResult_of_done {result : EuiccPackageResult}
    (h : unverifiedAnswer H operation result = .ok (domain, .done)) :
    ∃ request, decodePackage H operation = .ok request ∧
      domainResult H request.euiccPackageSigned.euiccPackage result = .ok domain := by
  cases result with
  | ok signed =>
      obtain ⟨request, hdecode, hstatus⟩ := Outcome.bind_eq_ok.mp h
      obtain ⟨found, hfound, rfl, -⟩ := statusOf_eq_done hstatus
      refine ⟨request, hdecode, ?_⟩
      rw [domainResult, hfound]
      rfl
  | errorSigned error => cases h
  | errorUnsigned error => cases h

/-! ## Recording -/

theorem record_of_error {e : Error} (h : answer r = .error e) : (r.record payload s).2 = s := by
  rw [answer] at h
  rw [PackageReading.record]
  cases hkey : r.publicKey with
  | some publicKey =>
      rw [hkey] at h
      have hrun : verifiedOperationResult H r.operation eid r.resultDER publicKey s = (.error e, s) :=
        Prod.ext h (readOnly_verifiedOperationResult _ _ _ _ s)
      exact congrArg Prod.snd (bind_of_error hrun)
  | none =>
      rw [hkey] at h
      have hanswer : unverifiedAnswer H r.operation r.result = .error e := h
      have hstatus := resultStatusForOperation_eq (H := H) r.matching.queued.2 r.result
      rw [hanswer] at hstatus
      exact congrArg Prod.snd (ofExcept_bind_of_error _ s hstatus)

/-- A result with an answer is recorded, and a successful one is applied after that. -/
theorem record_of_answer (hdevice : (s.devices.lookup (H.device eid)).isSome)
    (h : answer r = .ok (domain, status)) (payload : Bytes) :
    (status = .failed ∧
      r.record payload s = (.ok (), s.recorded (H.device eid) r.operation .failed payload)) ∨
    (status = .done ∧ ∃ request, decodePackage H r.operation = .ok request ∧
      r.record payload s = applyPackageResultState H.bertlv H.tenant eid
        request.euiccPackageSigned.euiccPackage domain
        (s.recorded (H.device eid) r.operation .done payload)) := by
  have hfinal := answer_final h
  have hrecord := recordResult_of_queued r.queued status payload
  rw [if_pos hdevice] at hrecord
  rw [answer] at h
  rw [PackageReading.record]
  cases hkey : r.publicKey with
  | some publicKey =>
      rw [hkey] at h
      have hrun : verifiedOperationResult H r.operation eid r.resultDER publicKey s =
          (.ok (domain, status), s) := Prod.ext h (readOnly_verifiedOperationResult _ _ _ _ s)
      dsimp only
      rw [recordVerified, bind_of_ok hrun]
      dsimp only
      rw [bind_of_ok hrecord]
      rcases hfinal with rfl | rfl
      · obtain ⟨signed, _, hsigned, -, -⟩ := verifiedOperationResult_eq_ok h
        obtain ⟨request, hrequest, -, -, -, hpackage⟩ := signedRequestFromOperation_eq_ok hsigned
        refine .inr ⟨rfl, request, hrequest, ?_⟩
        rw [if_pos rfl, ofExcept_bind_of_ok _ _ hsigned, hpackage]
      · exact .inl ⟨rfl, rfl⟩
  | none =>
      rw [hkey] at h
      have hanswer : unverifiedAnswer H r.operation r.result = .ok (domain, status) := h
      have hstatus := resultStatusForOperation_eq (H := H) r.matching.queued.2 r.result
      rw [hanswer] at hstatus
      dsimp only
      rw [recordUnverified, ofExcept_bind_of_ok _ s hstatus, bind_of_ok hrecord]
      rcases hfinal with rfl | rfl
      · obtain ⟨request, hrequest, hdomain⟩ := domainResult_of_done hanswer
        refine .inr ⟨rfl, request, hrequest, ?_⟩
        rw [if_pos rfl, applyEUICCPackageOperationState,
          if_neg (not_not.mpr r.matching.queued.2), ofExcept_bind_of_ok _ _ hrequest,
          ofExcept_bind_of_ok _ _ hdomain,
          show r.operation.eid = eid from r.queued.choose_spec.2.2]
      · exact .inl ⟨rfl, rfl⟩

/-! ## What is unchanged -/

theorem rows_recorded (s : Store) (key : DeviceKey) (operation : Operation)
    (status : OperationStatus) (payload : Bytes) :
    (view (s.recorded key operation status payload)).1 = (view s).1 :=
  recorded_keeps (f := fun s => (view s).1) (fun _ _ _ => rfl) s key operation status payload

/-- The statuses stay as they are if the operation had the recorded one. -/
theorem statuses_recorded_iff {key : DeviceKey} (hnumbered : Numbered (ledger s))
    (hqueued : Queued s key operation) :
    (view (s.recorded key operation status payload)).2 = (view s).2 ↔
      operation.status = normalizeResultStatus status := by
  have hbook := book_recorded (hnumbered.id_ne_zero hqueued) hqueued status payload
  have hoperations := congrArg Prod.fst hbook
  dsimp only [book] at hoperations
  obtain ⟨stored, hlookup, hstored, -⟩ := hqueued
  rw [view, view, hoperations]
  constructor
  · intro h
    have hid := congrFun h operation.id
    dsimp only at hid
    rw [AList.lookup_insert, hlookup, Option.map_some, Option.map_some, hstored] at hid
    exact (Option.some.inj hid).symm
  · intro h
    funext id
    by_cases hid : id = operation.id
    · subst hid
      dsimp only
      rw [AList.lookup_insert, hlookup, Option.map_some, Option.map_some, hstored, ← h]
    · dsimp only
      rw [AList.lookup_insert_ne hid]

theorem statuses_applyPackageResultState (B : Bertlv) (tenantID : TenantID) (eid : Bytes)
    (pkg : EuiccPackage) (result : Option Result) (s : Store) :
    (view (applyPackageResultState B tenantID eid pkg result s).2).2 = (view s).2 :=
  (ignoresState_of_forall (f := fun s => (view s).2)
    fun _ _ _ _ => rfl).applyPackageResultState B pkg result s

/-- Applying a result changes no row if and only if the rows of the device show it. -/
theorem rows_applyPackageResultState_iff {B : Bertlv} {tenantID : TenantID}
    (hdevice : s.Knows (newDeviceKey tenantID eid)) (pkg : EuiccPackage) (result : Option Result) :
    (view (applyPackageResultState B tenantID eid pkg result s).2).1 = (view s).1 ↔
      ((view s).1 (newDeviceKey tenantID eid)).Shows B eid pkg result := by
  have hkeyed : ∀ iccid row, (s.records (newDeviceKey tenantID eid)).profiles iccid = some row →
      row.eid = eid ∧ row.iccid = iccid := fun _ _ hrow => profile_keyed hrow
  refine Iff.trans ?_ (DeviceRecords.rows_apply_iff hkeyed B pkg result)
  rw [← (applyPackageResultState_of_known hdevice _ _).2]
  constructor
  · intro h
    exact congrFun h (newDeviceKey tenantID eid)
  · intro h
    funext key
    by_cases hkey : key = newDeviceKey tenantID eid
    · rw [hkey]
      exact h
    · exact congrArg DeviceRecords.rows
        ((ignoresState_records hkey).applyPackageResultState B pkg result s)

/-- The operation has the status that the answer gives it, and the rows of the device show a
successful answer. -/
def Settled (r : PackageReading H s eid raw) (domain : Option Result) (status : OperationStatus) :
    Prop :=
  r.operation.status = status ∧
    (status = .done → ∀ request, decodePackage H r.operation = .ok request →
      (s.records (H.device eid)).rows.Shows H.bertlv eid request.euiccPackageSigned.euiccPackage
        domain)

theorem view_record_iff (hnumbered : Numbered (ledger s))
    (hdevice : (s.devices.lookup (H.device eid)).isSome) (h : answer r = .ok (domain, status)) :
    view (r.record payload s).2 = view s ↔ Settled r domain status := by
  rcases record_of_answer hdevice h payload with ⟨rfl, hrun⟩ | ⟨rfl, request, hrequest, hrun⟩
  · rw [hrun]
    dsimp only
    rw [Prod.ext_iff, statuses_recorded_iff hnumbered r.queued, Settled]
    simp [rows_recorded, normalizeResultStatus]
  · have hknows : (s.recorded (H.device eid) r.operation .done payload).Knows (H.device eid) := by
      rw [Store.Knows, recorded_keeps (f := Store.devices) fun _ _ _ => rfl]
      exact hdevice
    rw [hrun, Prod.ext_iff, ← rows_recorded s (H.device eid) r.operation .done payload,
      rows_applyPackageResultState_iff hknows, rows_recorded,
      statuses_applyPackageResultState, statuses_recorded_iff hnumbered r.queued, Settled,
      and_comm]
    simp [hrequest, normalizeResultStatus, view, Handler.device]

theorem view_recordEuiccPackageResult (r : PackageReading H s eid raw) (payload : Bytes) :
    view (recordEuiccPackageResult H eid raw payload s).2 = view (r.record payload s).2 := by
  rw [r.recordEuiccPackageResult_eq]
  refine keeps_rest (fun _ => ?_) s
  refine (keeps_recordNotificationsFromList (fun _ _ _ => ?_) _).bind fun _ => keeps_pure view _
  exact keeps_storeNotification fun _ => rfl

/-! ## Messages -/

/-- What the message answers in the store is settled there. -/
def MessageSettled (H : Handler) (s : Store) (tlv raw : Tlv) : Prop :=
  ∀ (eid : Bytes) (r : PackageReading H s eid raw) (domain : Option Result)
    (status : OperationStatus),
    Delivers H s tlv eid raw → (marshalBinary H.bertlv raw).isOk →
      answer r = .ok (domain, status) → Settled r domain status

theorem view_recordEimPackageResult_iff (hnumbered : Numbered (ledger s))
    (hregistered : Registered s) (htag : raw.tag = tagEuiccPkg ∨ raw.tag = tagSequence)
    (hpayload : marshalBinary H.bertlv raw = .ok payload) :
    view (recordEimPackageResult H eid raw s).2 = view s ↔
      ∀ (r : PackageReading H s eid raw) domain status,
        answer r = .ok (domain, status) → Settled r domain status := by
  rw [recordEimPackageResult_of_tag htag hpayload]
  constructor
  · intro h r domain status hanswer
    rw [view_recordEuiccPackageResult r] at h
    exact (view_record_iff hnumbered (hregistered.of_queued r.queued) hanswer).mp h
  · intro h
    rcases recordEuiccPackageResult_cases H s eid raw payload with ⟨e, hrun⟩ | ⟨⟨r⟩⟩
    · rw [hrun]
    rw [view_recordEuiccPackageResult r]
    cases hanswer : answer r with
    | error e => rw [record_of_error hanswer]
    | ok answered =>
        exact (view_record_iff hnumbered (hregistered.of_queued r.queued) hanswer).mpr
          (h r answered.1 answered.2 hanswer)

theorem view_handleEncodedResponse_iff {message : Bytes} (hnumbered : Numbered (ledger s))
    (hregistered : Registered s) (hdecode : decodeRequest H message = .ok tlv)
    (hraw : resultPayload H tlv = some raw) (htag : raw.tag = tagEuiccPkg ∨ raw.tag = tagSequence) :
    view (handleEncodedResponse H message s).2 = view s ↔ MessageSettled H s tlv raw := by
  rw [handleEncodedResponse_of_decoded hdecode]
  by_cases hnone : ∀ eid raw, ¬ Delivers H s tlv eid raw
  · rw [dispatch_of_not_delivers (isResultMessage_of_payload hraw) hnone]
    exact iff_of_true rfl fun eid _ _ _ hdelivers => absurd hdelivers (hnone eid raw)
  · push Not at hnone
    obtain ⟨eid, raw', hdelivers⟩ := hnone
    obtain rfl : raw = raw' := Option.some.inj (hraw.symm.trans hdelivers.payload)
    rw [dispatch_of_delivers hdelivers]
    cases hpayload : marshalBinary H.bertlv raw with
    | error e =>
        have hsame : recordEimPackageResult H eid raw s = (.error e, s) :=
          ofExcept_bind_of_error _ s hpayload
        rw [hsame]
        refine iff_of_true rfl fun _ _ _ _ _ hok => ?_
        rw [hpayload] at hok
        cases hok
    | ok payload =>
        rw [view_recordEimPackageResult_iff hnumbered hregistered htag hpayload]
        constructor
        · intro h eid' r domain status hdelivers' _ hanswer
          obtain ⟨rfl, -⟩ := hdelivers.unique hdelivers'
          exact h r domain status hanswer
        · intro h r domain status hanswer
          exact h eid r domain status hdelivers (by rw [hpayload]; rfl) hanswer

variable {S : Service}

/-- In every run, a message with a package result, delivered for the first time or again, leaves
the profile states, the eUICC states, the associated eIMs and the statuses of all operations as they
are if and only if the operation it is matched with has the status of the answer and the rows of the
device show a successful answer. -/
theorem redelivery_unchanged_iff (hB : H.bertlv.Lawful) (events : List Event) {message : Bytes}
    (hdecode : decodeRequest H message = .ok tlv) (hraw : resultPayload H tlv = some raw)
    (htag : raw.tag = tagEuiccPkg ∨ raw.tag = tagSequence) :
    view (Run.after (step S H) System.new (events ++ [.message message])).store =
        view (Run.after (step S H) System.new events).store ↔
      MessageSettled H (Run.after (step S H) System.new events).store tlv raw := by
  rw [Run.after_append, Run.after_cons, Run.after_nil]
  exact view_handleEncodedResponse_iff (accounted_after hB events).numbered
    (registered_after events) hdecode hraw htag

/-! The profile that a package has enabled is disabled by the next one. -/

def sampleICCID : Bytes := text "89000000000000000000"

def sampleCompleted : List Event := sampleEnable ++ [.message (sampleWire sampleEnabled)]

def sampleDisabled : Tlv :=
  .constructed tagEuiccPkg [.constructed (contextConstructed 0)
    [.constructed tagSequence
      [.primitive (context 0) (text "eim"), .primitive (context 1) [0x02],
        .primitive (context 2) [0x08], .primitive (context 3) [0x06],
        .constructed tagSequence [.primitive (context 4) [0x00]]],
      .primitive tagSignature []]]

def sampleMovedOn : List Event :=
  sampleCompleted ++ [.draw [] sampleDevice [0x08] (.disableProfile sampleICCID), .sign 0,
    .enqueue 0, .message (sampleWire sampleDisabled)]

/-- Whether the profile of the sample device is stored as enabled. -/
def sampleEnabledFlag (events : List Event) : Option Bool :=
  ((sampleSystem events).store.profile (sampleHandler.device sampleDevice) sampleICCID).map
    ProfileState.isEnabled

def sampleCompletedReading :
    PackageReading sampleHandler (sampleSystem sampleCompleted).store sampleDevice sampleEnabled :=
  sampleReading.inStore { sampleEnableOperation with status := .done } (by decide +kernel)

theorem shows_of_enabled {key : DeviceKey} {iccid : Bytes} {rollback : Bool} {row : ProfileState}
    {B : Bertlv} {result : Option Result} (hrow : s.profile key (Hex.encode iccid) = some row)
    (hflag : row.isEnabled = true) :
    (s.records key).rows.Shows B eid (.psmo [.enable iccid rollback]) result :=
  ⟨⟨row, hrow, hflag⟩, trivial⟩

theorem settled_sampleCompleted :
    MessageSettled sampleHandler (sampleSystem sampleCompleted).store (sampleMessage sampleEnabled)
      sampleEnabled := by
  intro eid r domain status hdelivers _ hanswer
  obtain ⟨rfl, -⟩ := hdelivers.unique (.provide rfl rfl rfl rfl :
    Delivers sampleHandler (sampleSystem sampleCompleted).store (sampleMessage sampleEnabled)
      sampleDevice sampleEnabled)
  obtain rfl := r.unique sampleCompletedReading
  have hdone : (answer sampleCompletedReading).toOption.map Prod.snd = some .done := by
    decide +kernel
  obtain rfl : status = .done := by
    rw [hanswer] at hdone
    exact Option.some.inj hdone
  refine ⟨rfl, fun _ request hrequest => ?_⟩
  have hpackage : ((decodePackage sampleHandler sampleCompletedReading.operation).toOption.map
      fun request => request.euiccPackageSigned.euiccPackage) =
        some (.psmo [.enable (0x89 :: List.replicate 9 0x00) false]) := by
    decide +kernel
  rw [hrequest] at hpackage
  have hsame : request.euiccPackageSigned.euiccPackage =
      .psmo [.enable (0x89 :: List.replicate 9 0x00) false] := Option.some.inj hpackage
  rw [hsame]
  have hiccid : Hex.encode (0x89 :: List.replicate 9 0x00) = sampleICCID := by decide
  have henabled : sampleEnabledFlag sampleCompleted = some true := by decide +kernel
  rw [sampleEnabledFlag] at henabled
  obtain ⟨row, hrow, hflag⟩ := Option.map_eq_some_iff.mp henabled
  rw [← hiccid] at hrow
  exact shows_of_enabled hrow hflag

theorem redelivery_unchanged_at_once :
    view (sampleSystem (sampleCompleted ++ [.message (sampleWire sampleEnabled)])).store =
      view (sampleSystem sampleCompleted).store :=
  (redelivery_unchanged_iff Bertlv.reference_lawful sampleCompleted decodeRequest_sampleEnabled rfl
    (.inl rfl)).mpr settled_sampleCompleted

/-- The result of the first package, delivered again, enables the profile that the second package
has disabled. -/
theorem stale_result_applied_again :
    outcome (sampleSystem sampleMovedOn).store 1 =
      some (.done, sampleEnableOperation.result .done (sampleOctets sampleEnabled)) ∧
    sampleEnabledFlag sampleMovedOn = some false ∧
    sampleEnabledFlag (sampleMovedOn ++ [.message (sampleWire sampleEnabled)]) = some true ∧
    view (sampleSystem (sampleMovedOn ++ [.message (sampleWire sampleEnabled)])).store ≠
      view (sampleSystem sampleMovedOn).store := by
  have hbefore : sampleEnabledFlag sampleMovedOn = some false := by decide +kernel
  have hafter : sampleEnabledFlag (sampleMovedOn ++ [.message (sampleWire sampleEnabled)]) =
      some true := by decide +kernel
  refine ⟨by decide +kernel, hbefore, hafter, fun hsame => ?_⟩
  rw [sampleEnabledFlag, profile_of_view hsame] at hafter
  cases hbefore.symm.trans hafter

end OpenIotRsp.Server
