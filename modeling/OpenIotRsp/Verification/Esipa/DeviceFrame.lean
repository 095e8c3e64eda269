import OpenIotRsp.Verification.Esipa.PackageResults

/-!
# The frame of a delivered result

A delivered result changes records of the device it is for, with one exception:
the eUICC state of a data response is stored for the device that the data names.
-/

namespace OpenIotRsp.Esipa

open Octets Ber Stateful Asn1 Storage Euiccpkg Ipadata

variable {H : Handler} {s : Store} {eid payload : Bytes} {tlv raw : Tlv} {key : DeviceKey}

/-! ## Package results -/

theorem records_recordResult {operation : Operation} (hkey : key ≠ H.device eid)
    (hqueued : Queued s (H.device eid) operation) (status : OperationStatus) :
    KeepsAt (Store.records key) (recordResult H eid operation status payload) s := by
  rw [KeepsAt, recordResult_of_queued hqueued]
  split
  next => exact records_recorded hqueued hkey
  next => rfl

theorem eid_of_notificationFromPending {pending : PendingNotification} {notification : Notification}
    (heid : eid ≠ []) (h : notificationFromPending H eid pending = .ok notification) :
    notification.eid = eid := by
  simp only [notificationFromPending, heid, false_and, if_false] at h
  obtain ⟨sequenceNumber, -, h⟩ := Outcome.bind_eq_ok.mp h
  obtain ⟨encoded, -, h⟩ := Outcome.bind_eq_ok.mp h
  obtain rfl := Except.ok.inj h
  rfl

theorem records_recordNotificationsFromList (heid : eid ≠ []) (hkey : key ≠ H.device eid)
    (list : Option Tlv) : Keeps (Store.records key) (recordNotificationsFromList H eid list) := by
  apply keeps_recordNotificationsFromList
  intro pending notification hok
  apply records_storeNotification
  rw [eid_of_notificationFromPending heid hok]
  exact hkey

theorem records_recordEuiccPackageResult (heid : eid ≠ []) (hkey : key ≠ H.device eid) :
    KeepsAt (Store.records key) (recordEuiccPackageResult H eid tlv payload) s := by
  apply keepsAt_recordEuiccPackageResult
  · exact records_recordNotificationsFromList heid hkey
  · intro r
    apply r.keepsAt_record
    · exact records_recordResult hkey r.queued
    · exact ignoresState_records hkey

/-! ## Other results -/

theorem requireOperation_eq_ok {found : Option Operation} {operation : Operation}
    (h : (requireOperation found s).1 = .ok operation) : found = some operation := by
  cases found with
  | none => cases h
  | some first => exact congrArg some (Except.ok.inj h)

theorem readOnly_requireOperation (found : Option Operation) :
    ReadOnly (requireOperation found) := by
  cases found with
  | none => exact keeps_fail id _
  | some operation => exact keeps_pure id operation

theorem records_recordProfileDownloadTriggerResult (hkey : key ≠ H.device eid) :
    KeepsAt (Store.records key) (recordProfileDownloadTriggerResult H eid tlv payload) s := by
  refine (readOnly_ofExcept _).keepsAt_bind fun result _ => ?_
  refine (readOnly_pendingProfileDownloadTrigger eid _).keepsAt_bind fun found hfound => ?_
  refine (readOnly_requireOperation found).keepsAt_bind fun operation hoperation => ?_
  rw [requireOperation_eq_ok hoperation] at hfound
  refine KeepsAt.bind ?_ fun _ s' _ => keeps_pure _ _ s'
  exact records_recordResult hkey (queued_of_pendingProfileDownloadTrigger hfound) _

theorem records_recordEimPackageResultResponseError (hkey : key ≠ H.device eid)
    (error : EimPackageResultResponseError) :
    KeepsAt (Store.records key) (recordEimPackageResultResponseError H eid error payload) s := by
  rw [recordEimPackageResultResponseError]
  split
  next =>
      refine (readOnly_matchPendingEuiccPackageByCorrelation _ _ _ _).keepsAt_bind
        fun operation hmatch => ?_
      refine KeepsAt.bind ?_ fun _ s' _ => keeps_pure _ _ s'
      exact records_recordResult hkey (correlated_of_match hmatch).queued _
  next =>
      refine (readOnly_firstPendingEuiccPackageOperation eid).keepsAt_bind
        fun operation hmatch => ?_
      refine KeepsAt.bind ?_ fun _ s' _ => keeps_pure _ _ s'
      exact records_recordResult hkey (queued_of_firstPending (firstPending_of_match hmatch)).1 _

theorem records_recordEimPackageResultError (hkey : key ≠ H.device eid) :
    KeepsAt (Store.records key) (recordEimPackageResultError H eid tlv payload) s := by
  refine (readOnly_ofExcept _).keepsAt_bind fun result _ => ?_
  split
  next => exact records_recordEimPackageResultResponseError hkey _
  next => exact keeps_fail _ _ s

/-! ## Data responses -/

/-- What follows the eUICC state of a data response: profiles, then notifications. -/
def dataFollowUp (H : Handler) (eid : Bytes) (data : IpaEuiccData) : StoreM Recorded := do
  Ipadata.syncProfileInventory H.tenant eid data
  let notificationSequences ← recordNotificationsFromList H eid data.notificationsRaw
  if appendAckSequences [] notificationSequences = [] then return .empty
  else return .ack (appendAckSequences [] notificationSequences)

theorem records_dataFollowUp (heid : eid ≠ []) (hkey : key ≠ H.device eid) (data : IpaEuiccData) :
    Keeps (Store.records key) (dataFollowUp H eid data) := by
  refine Keeps.bind ?_ fun _ => ?_
  · exact (ignoresState_records hkey).syncDataInventory data
  · refine (records_recordNotificationsFromList heid hkey _).bind fun _ => ?_
    exact Keeps.ite (fun _ => keeps_pure _ _) fun _ => keeps_pure _ _

/-- The transaction of a data response, empty if it has none. -/
def dataTransaction (response : IpaEuiccDataResponse) : Bytes :=
  (ipaEuiccDataTransactionID response).getD []

/-- What is recorded for a data request and its response. -/
def recordData (H : Handler) (eid : Bytes) (operation : Operation) (payload : Bytes) :
    IpaEuiccDataResponse → StoreM Recorded
  | .error _ => do
      recordResult H eid operation .failed payload
      return .empty
  | .data data => do
      recordResult H eid operation .done payload
      setEUICCState H.tenant (stateFromResponse H.bertlv H.x509 eid data payload)
      dataFollowUp H eid data

theorem recordIpaEuiccDataResponse_of_found {response : IpaEuiccDataResponse}
    {operation : Operation}
    (hdecode : IpaEuiccDataResponse.unmarshalBERTLV H.bertlv tlv = .ok response)
    (hfound : (pendingIpaEuiccDataOperation H eid (dataTransaction response) s).1 =
      .ok (some operation)) :
    recordIpaEuiccDataResponse H eid tlv payload s =
      recordData H eid operation payload response s := by
  have hrun : pendingIpaEuiccDataOperation H eid (dataTransaction response) s =
      (.ok (some operation), s) :=
    Prod.ext hfound (readOnly_pendingIpaEuiccDataOperation eid _ s)
  refine (ofExcept_bind_of_ok _ s hdecode).trans ?_
  refine (bind_of_ok hrun).trans ?_
  cases response with
  | error e => rfl
  | data data =>
      simp only [recordData, dataFollowUp, applyResponse, bind_assoc]
      rfl

/-- A data response without a pending request leaves the store as it is. -/
theorem recordIpaEuiccDataResponse_cases (H : Handler) (s : Store) (eid : Bytes) (tlv : Tlv)
    (payload : Bytes) :
    (∃ e, recordIpaEuiccDataResponse H eid tlv payload s = (.error e, s)) ∨
      ∃ response operation, IpaEuiccDataResponse.unmarshalBERTLV H.bertlv tlv = .ok response ∧
        (pendingIpaEuiccDataOperation H eid (dataTransaction response) s).1 =
          .ok (some operation) := by
  rcases (readOnly_ofExcept (IpaEuiccDataResponse.unmarshalBERTLV H.bertlv tlv)).bind_cases _ s with
    ⟨e, hrun⟩ | ⟨response, hdecode, hrun⟩
  · exact .inl ⟨e, hrun⟩
  rcases (readOnly_pendingIpaEuiccDataOperation (H := H) eid (dataTransaction response)).bind_cases
    _ s with ⟨e, hfound⟩ | ⟨found, hfound, hrest⟩
  · exact .inl ⟨e, hrun.trans hfound⟩
  cases found with
  | none => exact .inl ⟨.notFound, hrun.trans hrest⟩
  | some operation => exact .inr ⟨response, operation, hdecode, hfound⟩

/-- The eUICC state in a data response goes to another registered device, where it is new. -/
structure Misdirected (H : Handler) (s : Store) (eid : Bytes) (raw : Tlv) (payload : Bytes)
    (data : IpaEuiccData) : Prop where
  tag : raw.tag = tagIpaEuiccData
  encodes : marshalBinary H.bertlv raw = .ok payload
  decodes : IpaEuiccDataResponse.unmarshalBERTLV H.bertlv raw = .ok (.data data)
  requested : ∃ operation, (pendingIpaEuiccDataOperation H eid (dataTransaction (.data data)) s).1 =
    .ok (some operation)
  registered : (s.devices.lookup (H.device eid)).isSome
  names_other : stateEID eid data ≠ eid
  other_registered : (s.devices.lookup (H.device (stateEID eid data))).isSome
  differs : s.euiccStates.lookup (H.device (stateEID eid data)) ≠
    some (stateFromResponse H.bertlv H.x509 eid data payload)

theorem device_ne {other : Bytes} (h : other ≠ eid) : H.device other ≠ H.device eid :=
  fun heq => h (congrArg DeviceKey.eid heq)

theorem records_recordIpaEuiccDataResponse (heid : eid ≠ []) (hkey : key ≠ H.device eid)
    (htag : raw.tag = tagIpaEuiccData) (hencodes : marshalBinary H.bertlv raw = .ok payload)
    (hdirected : ∀ data, ¬ Misdirected H s eid raw payload data) :
    KeepsAt (Store.records key) (recordIpaEuiccDataResponse H eid raw payload) s := by
  rcases recordIpaEuiccDataResponse_cases H s eid raw payload with
    ⟨e, hrun⟩ | ⟨response, operation, hdecode, hfound⟩
  · rw [KeepsAt, hrun]
  rw [KeepsAt, recordIpaEuiccDataResponse_of_found hdecode hfound]
  have hqueued := queued_of_pendingIpaEuiccData hfound
  cases response with
  | error e => exact (records_recordResult hkey hqueued .failed).bind fun _ s' _ => rfl
  | data data =>
      refine (records_recordResult hkey hqueued .done).bind fun _ s' hrun => ?_
      refine KeepsAt.bind ?_ fun _ s'' _ => records_dataFollowUp heid hkey data s''
      -- the result is recorded for a registered device, and leaves the eUICC states alone
      obtain ⟨hregistered, rfl⟩ := recordResult_eq_ok hqueued hrun
      have hdevices := recorded_keeps (f := Store.devices) (fun _ _ _ => rfl) s (H.device eid)
        operation .done payload
      have hstates := recorded_keeps (f := Store.euiccStates) (fun _ _ _ => rfl) s (H.device eid)
        operation .done payload
      by_cases hother : stateEID eid data = eid
      · apply records_setEUICCState
        rw [show (stateFromResponse H.bertlv H.x509 eid data payload).eid = eid from hother]
        exact hkey
      · apply records_setEUICCState_of_same
        rw [hdevices, hstates]
        intro hotherRegistered
        by_contra hdiffers
        exact hdirected data ⟨htag, hencodes, hdecode, ⟨operation, hfound⟩, hregistered, hother,
          hotherRegistered, hdiffers⟩

/-- A misdirected eUICC state ends up with the other device. -/
theorem euicc_of_misdirected {data : IpaEuiccData} (heid : eid ≠ [])
    (h : Misdirected H s eid raw payload data) :
    ((recordEimPackageResult H eid raw s).2.records (H.device (stateEID eid data))).euicc =
      some (stateFromResponse H.bertlv H.x509 eid data payload) := by
  obtain ⟨operation, hfound⟩ := h.requested
  have hqueued := queued_of_pendingIpaEuiccData hfound
  have hrecord : recordEimPackageResult H eid raw s =
      recordData H eid operation payload (.data data) s := by
    refine (ofExcept_bind_of_ok _ s h.encodes).trans ?_
    rw [if_neg (by rw [h.tag]; decide), if_pos h.tag]
    exact recordIpaEuiccDataResponse_of_found h.decodes hfound
  have hresult := recordResult_of_queued hqueued .done payload
  rw [if_pos h.registered] at hresult
  have hdevices := recorded_keeps (f := Store.devices) (fun _ _ _ => rfl) s (H.device eid) operation
    .done payload
  have hset := (setEUICCState_apply H.tenant (stateFromResponse H.bertlv H.x509 eid data payload)
    (s.recorded (H.device eid) operation .done payload)).trans
      (if_pos (by rw [hdevices]; exact h.other_registered))
  have hrun : recordData H eid operation payload (.data data) s = dataFollowUp H eid data _ :=
    (bind_of_ok hresult).trans (bind_of_ok hset)
  rw [hrecord, hrun, records_dataFollowUp heid (device_ne h.names_other)]
  exact AList.lookup_insert _

/-! ## Delivered results -/

theorem records_recordEimPackageResult (heid : eid ≠ []) (hkey : key ≠ H.device eid)
    (hdirected : ∀ payload data, ¬ Misdirected H s eid raw payload data) :
    KeepsAt (Store.records key) (recordEimPackageResult H eid raw) s := by
  refine (readOnly_ofExcept _).keepsAt_bind fun payload hencodes => ?_
  split
  next => exact records_recordProfileDownloadTriggerResult hkey
  next =>
      split
      next htag => exact records_recordIpaEuiccDataResponse heid hkey htag hencodes (hdirected payload)
      next =>
          split
          next => exact records_recordEimPackageResultError hkey
          next => exact records_recordEuiccPackageResult heid hkey

/-- A delivered result leaves the records of the other devices of the tenant as they are, except
for a misdirected eUICC state. -/
theorem other_devices_unchanged_iff (heid : eid ≠ []) (hdelivers : Delivers H s tlv eid raw) :
    (∀ other, other ≠ eid →
        (dispatch H tlv s).2.records (H.device other) = s.records (H.device other)) ↔
      ∀ payload data, ¬ Misdirected H s eid raw payload data := by
  rw [dispatch_of_delivers hdelivers]
  constructor
  · intro hframe payload data h
    have heuicc := euicc_of_misdirected heid h
    rw [hframe _ h.names_other] at heuicc
    exact h.differs heuicc
  · intro hdirected other hother
    exact records_recordEimPackageResult heid (device_ne hother) hdirected

/-! A device with a pending data request, a second device, and a data response for the first one
that carries an EID object. -/

def otherSampleEID : Bytes := List.replicate 16 0x22

def sampleDataStore : Store :=
  (registerDevice [] (Hex.encode otherSampleEID)
    (sampleStore [⟨Hex.encode sampleEID, .ipaEuiccData, []⟩])).2

def sampleDataResponse (eid : Bytes) : Tlv :=
  .constructed tagIpaEuiccData [.primitive tagEID eid]

theorem sampleDataResponse_delivers (eid : Bytes) :
    Delivers sampleHandler sampleDataStore (sampleMessage (sampleDataResponse eid))
      (Hex.encode sampleEID) (sampleDataResponse eid) :=
  .provide rfl rfl rfl rfl

theorem other_devices_unchanged_iff_data :
    (∀ other, other ≠ Hex.encode sampleEID →
        (dispatch sampleHandler (sampleMessage (sampleDataResponse sampleEID))
            sampleDataStore).2.records (sampleHandler.device other) =
          sampleDataStore.records (sampleHandler.device other)) ↔
      ∀ payload data, ¬ Misdirected sampleHandler sampleDataStore (Hex.encode sampleEID)
        (sampleDataResponse sampleEID) payload data :=
  other_devices_unchanged_iff (by decide) (sampleDataResponse_delivers sampleEID)

/-- The response of one device replaces the eUICC state of another. -/
theorem other_device_changed_by_data :
    Delivers sampleHandler sampleDataStore (sampleMessage (sampleDataResponse otherSampleEID))
        (Hex.encode sampleEID) (sampleDataResponse otherSampleEID) ∧
      Hex.encode otherSampleEID ≠ Hex.encode sampleEID ∧
      (sampleDataStore.records (sampleHandler.device (Hex.encode otherSampleEID))).euicc = none ∧
      ((dispatch sampleHandler (sampleMessage (sampleDataResponse otherSampleEID))
          sampleDataStore).2.records
        (sampleHandler.device (Hex.encode otherSampleEID))).euicc.isSome = true := by
  refine ⟨sampleDataResponse_delivers otherSampleEID, by decide, ?_, ?_⟩
  · decide +kernel
  · decide +kernel

end OpenIotRsp.Esipa
