import OpenIotRsp.Verification.Esipa.Frame

/-!
# Outcomes of operations

A message records a result for one operation at most.  Which operation that is,
and with which status, is said once for all the results a message can carry.
-/

namespace OpenIotRsp.Esipa

open Octets Ber Stateful Asn1 Storage Euiccpkg

/-- The operations and their results. -/
def book (s : Store) :
    AList StoredOperation × AList fun _ : ResultKey => EUICCPackageResult :=
  (s.operations, s.results)

/-- Recording a result writes the row of the operation and the row of its result. -/
theorem book_recorded {s : Store} {key : DeviceKey} {operation : Operation}
    (hid : operation.id ≠ 0) (hqueued : Queued s key operation) (status : OperationStatus)
    (payload : Bytes) :
    book (s.recorded key operation status payload) =
      (s.operations.insert operation.id
          ⟨⟨key.tenantID, { operation with status := normalizeResultStatus status }⟩, rfl⟩,
        s.results.insert ⟨key.tenantID, operation.eid, operation.sequenceNumber⟩
          (operation.result (normalizeResultStatus status) payload)) := by
  obtain ⟨stored, hlookup, hstored, -⟩ := hqueued
  have hrow : ∀ results, Store.updateStatus { s with results := results } key.tenantID
      (operation.result (normalizeResultStatus status) payload) =
        { s with
          results := results
          operations := s.operations.insert operation.id
            ⟨stored.val.withStatus (normalizeResultStatus status), stored.property⟩ } := fun _ =>
    updateStatus_of_id hid hlookup (by rw [hstored])
  rw [Store.recorded, hrow, book]
  simp only [hstored, MemoryOperation.withStatus]

/-- The operation that a response error fails. -/
inductive FailedBy (H : Handler) (s : Store) (eid : Bytes) (error : EimPackageResultResponseError)
    (operation : Operation) : Prop
  | correlated (hgiven : error.eimTransactionID.getD [] ≠ [])
      (h : Correlated H s eid [] 0 (error.eimTransactionID.getD []) operation)
  | firstPending (hnone : error.eimTransactionID.getD [] = [])
      (hfirst : (s.pending (H.device eid) 10000).find?
        (fun operation => operation.kind = .euiccPackage) = some operation)

/-- The result in a message is recorded for the operation, with the status. -/
inductive Records (H : Handler) (s : Store) (eid : Bytes) (raw : Tlv) :
    Operation → OperationStatus → Prop
  | verified (r : PackageReading H s eid raw) {publicKey : PublicKey} {domain : Option Result}
      {status : OperationStatus} (hkey : r.publicKey = some publicKey)
      (hverified : (verifiedOperationResult H r.operation eid r.resultDER publicKey s).1 =
        .ok (domain, status)) : Records H s eid raw r.operation status
  | unverified (r : PackageReading H s eid raw) {status : OperationStatus}
      (hkey : r.publicKey = none)
      (hstatus : resultStatusForOperation H r.operation r.result = .ok status) :
      Records H s eid raw r.operation status
  | responseError {result : EimPackageResult} {error : EimPackageResultResponseError}
      {operation : Operation}
      (hdecode : EimPackageResult.unmarshalBERTLV H.bertlv raw = .ok result)
      (herror : result.choice = .error error) (hfailed : FailedBy H s eid error operation) :
      Records H s eid raw operation .failed
  /-- a data read or a profile download -/
  | pending {operation : Operation} (status : OperationStatus)
      (hpending : operation ∈ s.pending (H.device eid) 100) :
      Records H s eid raw operation status

variable {H : Handler} {s : Store} {eid payload : Bytes} {tlv raw : Tlv} {operation : Operation}
  {status : OperationStatus}

theorem FailedBy.queued {error : EimPackageResultResponseError}
    (h : FailedBy H s eid error operation) : Queued s (H.device eid) operation := by
  cases h with
  | correlated _ h => exact h.queued
  | firstPending _ hfirst => exact (queued_of_firstPending hfirst).1

theorem Records.queued (h : Records H s eid raw operation status) :
    Queued s (H.device eid) operation := by
  cases h with
  | verified r => exact r.queued
  | unverified r => exact r.queued
  | responseError _ _ hfailed => exact hfailed.queued
  | pending _ hpending => exact (queued_of_mem_pending hpending).1

/-! ## Recording -/

/-- The book after a message: as it was, or with one result recorded. -/
inductive Booked (H : Handler) (s : Store) (eid : Bytes) (raw : Tlv) (payload : Bytes)
    (s' : Store) : Prop
  | same (h : book s' = book s)
  | recorded (operation : Operation) (status : OperationStatus)
      (hrecords : Records H s eid raw operation status)
      (h : book s' = book (s.recorded (H.device eid) operation status payload))

/-- Only the rest can change the book after a reading part. -/
theorem booked_bind {α β : Type} {m : StoreM α} (hm : ReadOnly m) {k : α → StoreM β}
    (hk : ∀ a, (m s).1 = .ok a → Booked H s eid raw payload (k a s).2) :
    Booked H s eid raw payload ((m >>= k) s).2 := by
  rcases hm.bind_cases k s with ⟨e, hrun⟩ | ⟨a, ha, hrun⟩
  · rw [hrun]
    exact .same rfl
  · rw [hrun]
    exact hk a ha

/-- What follows the recording of a result leaves the book as it is. -/
theorem booked_recordResult {α : Type} {k : Unit → StoreM α} (hk : ∀ u, Keeps book (k u))
    (hrecords : Records H s eid raw operation status) :
    Booked H s eid raw payload ((recordResult H eid operation status payload >>= k) s).2 := by
  have hrecord := recordResult_of_queued hrecords.queued status payload
  split at hrecord
  next =>
      rw [bind_of_ok hrecord]
      exact .recorded operation status hrecords (hk () _)
  next =>
      rw [bind_of_error hrecord]
      exact .same rfl

theorem ignoresState_book (tenantID : TenantID) (eid : Bytes) : IgnoresState book tenantID eid :=
  ignoresState_of_forall fun _ _ _ _ => rfl

theorem keeps_book_notifications (list : Option Tlv) :
    Keeps book (recordNotificationsFromList H eid list) :=
  keeps_recordNotificationsFromList (fun _ _ _ => keeps_storeNotification fun _ => rfl) list

theorem keeps_book_verifiedState (operation : Operation) (domain : Option Result)
    (status : OperationStatus) :
    Keeps book (if status = .done then
      (ofExcept (signedRequestFromOperation H eid operation) >>= fun request =>
        applyPackageResultState H.bertlv H.tenant eid request.package domain)
      else pure () : StoreM Unit) := by
  refine Keeps.ite (fun _ => ?_) fun _ => keeps_pure book _
  refine (keeps_ofExcept book _).bind fun request => ?_
  exact (ignoresState_book H.tenant eid).applyPackageResultState H.bertlv request.package _

theorem PackageReading.booked (r : PackageReading H s eid raw) (payload : Bytes) :
    Booked H s eid raw payload (r.record payload s).2 := by
  rw [PackageReading.record]
  cases hkey : r.publicKey with
  | none =>
      refine booked_bind (readOnly_ofExcept _) fun status hstatus => ?_
      refine booked_recordResult (fun _ => ?_) (.unverified r hkey hstatus)
      refine Keeps.ite (fun _ => ?_) fun _ => keeps_pure book _
      exact keeps_applyEUICCPackageOperationState (ignoresState_book _ _) r.result
  | some publicKey =>
      refine booked_bind (readOnly_verifiedOperationResult _ _ _ _) fun verified hverified => ?_
      exact booked_recordResult (fun _ => keeps_book_verifiedState _ _ _) (.verified r hkey hverified)

/-- A verified result of a registered device is recorded. -/
theorem PackageReading.book_record_of_verified (r : PackageReading H s eid raw) (payload : Bytes)
    {publicKey : PublicKey} {domain : Option Result} (hkey : r.publicKey = some publicKey)
    (hverified : (verifiedOperationResult H r.operation eid r.resultDER publicKey s).1 =
      .ok (domain, status)) (hdevice : (s.devices.lookup (H.device eid)).isSome) :
    book (r.record payload s).2 = book (s.recorded (H.device eid) r.operation status payload) := by
  have hrun : verifiedOperationResult H r.operation eid r.resultDER publicKey s =
      (.ok (domain, status), s) := Prod.ext hverified (readOnly_verifiedOperationResult _ _ _ _ s)
  have hrecord := recordResult_of_queued r.queued status payload
  rw [if_pos hdevice] at hrecord
  rw [PackageReading.record, hkey]
  dsimp only
  rw [recordVerified, bind_of_ok hrun]
  refine (keeps_rest (fun _ => keeps_book_verifiedState _ domain status) s).trans ?_
  rw [hrecord]

theorem PackageReading.book_recordEuiccPackageResult (r : PackageReading H s eid raw)
    (payload : Bytes) :
    book (recordEuiccPackageResult H eid raw payload s).2 = book (r.record payload s).2 := by
  rw [r.recordEuiccPackageResult_eq]
  refine keeps_rest (fun _ => ?_) s
  exact (keeps_book_notifications r.notificationList).bind fun _ => keeps_pure book _

theorem booked_recordEuiccPackageResult :
    Booked H s eid raw payload (recordEuiccPackageResult H eid raw payload s).2 := by
  rcases recordEuiccPackageResult_cases H s eid raw payload with ⟨e, hrun⟩ | ⟨⟨r⟩⟩
  · exact .same (by rw [hrun])
  have hbook := r.book_recordEuiccPackageResult payload
  cases r.booked payload with
  | same h => exact .same (hbook.trans h)
  | recorded operation status hrecords h => exact .recorded operation status hrecords (hbook.trans h)

theorem booked_recordProfileDownloadTriggerResult :
    Booked H s eid raw payload (recordProfileDownloadTriggerResult H eid raw payload s).2 := by
  refine booked_bind (readOnly_ofExcept _) fun result _ => ?_
  refine booked_bind (readOnly_pendingProfileDownloadTrigger eid _) fun found hfound => ?_
  refine booked_bind (readOnly_requireOperation found) fun operation hoperation => ?_
  obtain rfl := requireOperation_eq_ok hoperation
  refine booked_recordResult (fun _ => keeps_pure book _) (.pending _ ?_)
  exact firstPendingTransaction_some hfound

theorem booked_recordIpaEuiccDataResponse :
    Booked H s eid raw payload (recordIpaEuiccDataResponse H eid raw payload s).2 := by
  refine booked_bind (readOnly_ofExcept _) fun response _ => ?_
  refine booked_bind (readOnly_pendingIpaEuiccDataOperation eid _) fun found hfound => ?_
  refine booked_bind (readOnly_requireOperation found) fun operation hoperation => ?_
  obtain rfl := requireOperation_eq_ok hoperation
  have hpending := mem_of_pendingIpaEuiccData hfound
  cases response with
  | error e => exact booked_recordResult (fun _ => keeps_pure book _) (.pending _ hpending)
  | data data =>
      refine booked_recordResult (fun _ => ?_) (.pending _ hpending)
      refine Keeps.bind (Keeps.bind ?_ fun _ => ?_) fun _ => ?_
      · exact (ignoresState_book H.tenant _).setEUICC _ rfl
      · exact (ignoresState_book H.tenant eid).syncDataInventory data
      · refine (keeps_book_notifications _).bind fun _ => ?_
        exact Keeps.ite (fun _ => keeps_pure book _) fun _ => keeps_pure book _

theorem booked_recordEimPackageResultError :
    Booked H s eid raw payload (recordEimPackageResultError H eid raw payload s).2 := by
  refine booked_bind (readOnly_ofExcept _) fun result hdecode => ?_
  cases herror : result.choice with
  | error error =>
      dsimp only
      rw [recordEimPackageResultResponseError]
      split
      next hgiven =>
          refine booked_bind (readOnly_matchPendingEuiccPackageByCorrelation _ _ _ _)
            fun operation hmatch => ?_
          refine booked_recordResult (fun _ => keeps_pure book _) (.responseError hdecode herror ?_)
          exact .correlated hgiven (correlated_of_match hmatch)
      next hnone =>
          refine booked_bind (readOnly_firstPendingEuiccPackageOperation eid)
            fun operation hmatch => ?_
          refine booked_recordResult (fun _ => keeps_pure book _) (.responseError hdecode herror ?_)
          exact .firstPending (not_not.mp hnone) (firstPending_of_match hmatch)
  | _ => exact .same rfl

/-- Recording the result of a message records it for one operation at most. -/
theorem booked_recordEimPackageResult (H : Handler) (s : Store) (eid : Bytes) (raw : Tlv) :
    book (recordEimPackageResult H eid raw s).2 = book s ∨
      ∃ payload, marshalBinary H.bertlv raw = .ok payload ∧
        Booked H s eid raw payload (recordEimPackageResult H eid raw s).2 := by
  cases hpayload : marshalBinary H.bertlv raw with
  | error e =>
      rw [recordEimPackageResult, ofExcept_bind_of_error _ s hpayload]
      exact .inl rfl
  | ok payload =>
      refine .inr ⟨payload, rfl, ?_⟩
      rw [recordEimPackageResult, ofExcept_bind_of_ok _ s hpayload]
      split
      next => exact booked_recordProfileDownloadTriggerResult
      next =>
          split
          next => exact booked_recordIpaEuiccDataResponse
          next =>
              split
              next => exact booked_recordEimPackageResultError
              next => exact booked_recordEuiccPackageResult

/-- A message records a result that it delivers, or leaves the book as it is. -/
theorem booked_dispatch (H : Handler) (s : Store) (tlv : Tlv) :
    book (dispatch H tlv s).2 = book s ∨
      ∃ eid raw payload operation status, Delivers H s tlv eid raw ∧
        marshalBinary H.bertlv raw = .ok payload ∧ Records H s eid raw operation status ∧
        book (dispatch H tlv s).2 =
          book (s.recorded (H.device eid) operation status payload) := by
  by_cases hmessage : IsResultMessage tlv
  · by_cases hdelivers : ∃ eid raw, Delivers H s tlv eid raw
    · obtain ⟨eid, raw, hdelivers⟩ := hdelivers
      rw [dispatch_of_delivers hdelivers]
      rcases booked_recordEimPackageResult H s eid raw with h | ⟨payload, hpayload, h⟩
      · exact .inl h
      cases h with
      | same h => exact .inl h
      | recorded operation status hrecords h =>
          exact .inr ⟨eid, raw, payload, operation, status, hdelivers, hpayload, hrecords, h⟩
    · left
      rw [dispatch_of_not_delivers hmessage]
      intro eid raw h
      exact hdelivers ⟨eid, raw, h⟩
  · exact .inl (keeps_dispatch_of_not_isResultMessage (fun _ _ => rfl) hmessage s)

end OpenIotRsp.Esipa
