import OpenIotRsp.Library.Increasing
import OpenIotRsp.Verification.Server.Finality

/-!
# Delivery and correlation

A poll is answered with the first pending package, or with the head of the
queue if there is none.  What comes later is queued behind it and what ends is
gone, so that it stays the first of its kind for as long as it is pending, and
a result with its identifiers is taken for its own.
-/

namespace OpenIotRsp.Server

open Octets Ber Stateful Asn1 Storage Euiccpkg Api Esipa

variable {request : EuiccPackageRequest}

/-! ## The first of the queue -/

section

variable {s s' : Store} {key : DeviceKey}

theorem Numbered.increasing_allPending (h : Numbered (ledger s)) (key : DeviceKey) :
    Increasing Operation.sequenceNumber (s.allPending key) := by
  refine Increasing.insertionSort (List.pairwise_map.mpr ?_)
  refine ((pairwise_allOperations s).filter _).imp_of_mem ?_
  intro a b ha hb hid hsequence
  obtain ⟨ha, hpa⟩ := List.mem_filter.mp ha
  obtain ⟨hb, hpb⟩ := List.mem_filter.mp hb
  obtain ⟨hatenant, haeid, -⟩ := of_decide_eq_true hpa
  obtain ⟨hbtenant, hbeid, -⟩ := of_decide_eq_true hpb
  have hdevice : a.device = b.device := by
    rw [MemoryOperation.device, MemoryOperation.device, hatenant, hbtenant, haeid, hbeid]
  exact hid (h.sequence_injective (entries_of_queued (queued_of_mem_allOperations ha))
    (entries_of_queued (queued_of_mem_allOperations hb)) hdevice hsequence)

/-- The first pending operation with a property is the first one later, if it is still pending:
operations before it can only go. -/
theorem Later.find?_pending (h : Later s s') (hnumbered : Numbered (ledger s))
    (hnumbered' : Numbered (ledger s')) {p : Operation → Bool} {operation : Operation} {limit n : Nat}
    (hfind : (s.pending key limit).find? p = some operation) (hstill : Queued s' key operation)
    (hlimit : limit ≤ n) : (s'.pending key n).find? p = some operation := by
  rw [pending_eq_take] at hfind ⊢
  have hmem := List.mem_of_find?_eq_some hfind
  have hall := List.mem_of_mem_take hmem
  obtain ⟨hqueued, hstatus⟩ := mem_allPending.mp hall
  have hbehind : operation.sequenceNumber < (ledger s).nextSequence key :=
    hnumbered.sequence_lt (entries_of_queued hqueued)
  have hold : ∀ other ∈ s'.allPending key, other ∈ s.allPending key ∨
      operation.sequenceNumber < other.sequenceNumber := by
    intro other hother
    obtain ⟨hqueued', hstatus'⟩ := mem_allPending.mp hother
    rcases h.pending hqueued' hstatus' with hold | hnew
    · exact .inl (mem_allPending.mpr ⟨hold, hstatus'⟩)
    · exact .inr (hbehind.trans_le hnew)
  have hincreasing := hnumbered.increasing_allPending key
  have hincreasing' := hnumbered'.increasing_allPending key
  have hmem' : operation ∈ s'.allPending key := mem_allPending.mpr ⟨hstill, hstatus⟩
  refine hincreasing'.find?_take ?_ (List.find?_some hfind) ?_
  · -- no more operations are before it than there were
    rw [hincreasing'.mem_take_iff hmem']
    have hbefore := (hincreasing.mem_take_iff hall limit).mp hmem
    have hnodup : ((s'.allPending key).filter fun other =>
        other.sequenceNumber < operation.sequenceNumber).Nodup :=
      (hincreasing'.sublist List.filter_sublist).imp fun hlt heq => absurd (heq ▸ hlt) (lt_irrefl _)
    refine ((hnodup.subperm fun other hother => ?_).length_le.trans_lt hbefore).trans_le hlimit
    obtain ⟨hother, hlt⟩ := List.mem_filter.mp hother
    rcases hold other hother with hold | hnew
    · exact List.mem_filter.mpr ⟨hold, hlt⟩
    · exact absurd (of_decide_eq_true hlt) hnew.not_gt
  · intro other hother hp
    rcases hold other hother with hold | hnew
    · have hfirst : (s.allPending key).find? p = some operation := by
        rw [← List.take_append_drop limit (s.allPending key), List.find?_append, hfind]
        rfl
      rcases rel_of_find? hincreasing hfirst hold hp with rfl | hlt
      · exact le_refl _
      · exact hlt.le
    · exact hnew.le

end

/-! ## Polls -/

/-- A poll is answered with the operation. -/
structure Sends (H : Handler) (s : Store) (tlv : Tlv) (eid : Bytes) (operation : Operation) :
    Prop where
  request : ∃ request, GetEimPackageRequest.unmarshalBERTLV H.bertlv tlv = .ok request ∧
    eidKey request.eid = .ok eid
  known : (s.devices.lookup (H.device eid)).isSome
  selected : (selectOperationForGetEimPackage H eid s).1 = .ok (some operation)
  identified : operation.id ≠ 0
  response : ∃ response, getEimPackageOperationResponse H operation = .ok response

section

variable {H : Handler} {s : Store} {tlv : Tlv} {eid : Bytes} {operation : Operation}

theorem ensureDeviceKnown_apply (H : Handler) (eid : Bytes) (s : Store) :
    ensureDeviceKnown H eid s =
      if (s.devices.lookup (H.device eid)).isSome then (.ok (), s) else (.error .notFound, s) := by
  cases hdevice : s.devices.lookup (H.device eid) with
  | none =>
      have hlist : listProfileStates H.tenant eid s = (.error .notFound, s) := require_of_none hdevice
      exact bind_of_error hlist
  | some device => exact bind_of_ok (require_of_some hdevice)

/-- A poll of a known device is answered with the operation that is selected. -/
theorem handleGetEimPackage_of_known {request : GetEimPackageRequest}
    (hrequest : GetEimPackageRequest.unmarshalBERTLV H.bertlv tlv = .ok request)
    (heid : eidKey request.eid = .ok eid) (hknown : (s.devices.lookup (H.device eid)).isSome) :
    (handleGetEimPackage H tlv s).1 =
      nextPackageReply H (selectFrom (s.pending (H.device eid) 100)) := by
  have hensure : ensureDeviceKnown H eid s = (.ok (), s) := by
    rw [ensureDeviceKnown_apply, if_pos hknown]
  have hfound : findRow (ensureDeviceKnown H eid) s = (.ok (some ()), s) := by
    simp [findRow, hensure]
  have hselect : findRow (selectOperationForGetEimPackage H eid) s =
      (.ok (some (selectFrom (s.pending (H.device eid) 100))), s) := by
    simp [findRow, selectOperationForGetEimPackage_apply]
  rw [handleGetEimPackage, ofExcept_bind_of_ok _ _ hrequest, heid]
  dsimp only
  rw [bind_of_ok hfound]
  dsimp only
  rw [bind_of_ok hselect]
  rfl

theorem handleGetEimPackage_of_unknown {request : GetEimPackageRequest}
    (hrequest : GetEimPackageRequest.unmarshalBERTLV H.bertlv tlv = .ok request)
    (heid : eidKey request.eid = .ok eid) (hunknown : ¬ (s.devices.lookup (H.device eid)).isSome) :
    handleGetEimPackage H tlv s = (.ok (.getEimPackage (.error getEimPackageErrorEIDNotFound)), s) := by
  have hensure := (ensureDeviceKnown_apply H eid s).trans (if_neg hunknown)
  have hnone : findRow (ensureDeviceKnown H eid) s = (.ok none, s) := by
    simp [findRow, hensure]
  rw [handleGetEimPackage, ofExcept_bind_of_ok _ _ hrequest, heid]
  exact bind_of_ok hnone

theorem package_of_response
    (h : getEimPackageOperationResponse H operation = .ok (.euiccPackageRequest request)) :
    operation.kind = .euiccPackage ∧ decodePackage H operation = .ok request := by
  unfold getEimPackageOperationResponse at h
  split at h
  next hkind => exact ⟨hkind, by simpa [decodePackage, Outcome.bind_eq_ok] using h⟩
  next => simp [Outcome.bind_eq_ok] at h
  next =>
      obtain ⟨tlv, -, h⟩ := Outcome.bind_eq_ok.mp h
      split at h <;> simp at h
  next => cases h

/-- What is sent is the first package, or the head of the queue. -/
theorem Sends.first (h : Sends H s tlv eid operation) :
    (s.pending (H.device eid) 100).find? (fun other =>
      operation.kind = .euiccPackage → other.kind = .euiccPackage) = some operation := by
  have hselected := h.selected
  rw [selectOperationForGetEimPackage_apply] at hselected
  exact first_of_selectFrom (Except.ok.inj hselected)

/-- The operation stays the first one to be found. -/
theorem Sends.first_later {s' : Store} (h : Sends H s tlv eid operation) (hlater : Later s s')
    (hnumbered : Numbered (ledger s)) (hnumbered' : Numbered (ledger s'))
    (hstill : Queued s' (H.device eid) operation) {n : Nat} (hn : 100 ≤ n) :
    (s'.pending (H.device eid) n).find? (fun other =>
      operation.kind = .euiccPackage → other.kind = .euiccPackage) = some operation :=
  hlater.find?_pending hnumbered hnumbered' h.first hstill hn

/-! ## Correlation -/

/-- The identifiers of the package, as its result repeats them. -/
def Echoes (signed : EuiccPackageSigned) : EuiccPackageResult → Prop
  | .ok result => result.data.eimID = signed.eimID ∧
      result.data.counterValue = signed.counterValue ∧
      result.data.eimTransactionID.getD [] = signed.eimTransactionID.getD []
  | .errorSigned error => error.data.eimID = signed.eimID ∧
      error.data.counterValue = signed.counterValue ∧
      error.data.eimTransactionID.getD [] = signed.eimTransactionID.getD []
  | .errorUnsigned error => error.eimID = signed.eimID ∧
      error.eimTransactionID.getD [] = signed.eimTransactionID.getD []

theorem firstMatching_of_first {operations : List Operation} {eimID transactionID : Bytes}
    {counter : Int}
    (hfirst : operations.find? (fun other => other.kind = .euiccPackage) = some operation)
    (hdecode : decodePackage H operation = .ok request)
    (hcorrelates : correlates request.euiccPackageSigned eimID counter transactionID = true) :
    firstMatchingEuiccPackage H eimID counter transactionID operations = .ok (some operation) := by
  induction operations with
  | nil => cases hfirst
  | cons other operations ih =>
      rw [firstMatchingEuiccPackage]
      by_cases hkind : other.kind = .euiccPackage
      · rw [List.find?_cons_of_pos (by simpa using hkind)] at hfirst
        obtain rfl := Option.some.inj hfirst
        rw [if_pos hkind, hdecode]
        simp [bind, Except.bind, hcorrelates, pure, Except.pure]
      · rw [List.find?_cons_of_neg (by simpa using hkind)] at hfirst
        rw [if_neg hkind]
        exact ih hfirst

/-- The first pending package is found by any of its identifiers. -/
theorem matchPending_of_first {eimID transactionID : Bytes} {counter : Int}
    (hfirst : (s.pending (H.device eid) 10000).find? (fun other => other.kind = .euiccPackage) =
      some operation) (hdecode : decodePackage H operation = .ok request)
    (hcorrelates : correlates request.euiccPackageSigned eimID counter transactionID = true) :
    matchPendingEuiccPackageByCorrelation H eid eimID counter transactionID s =
      (.ok operation, s) := by
  have hfetch : fetchPendingOperations H.tenant eid 10000 s =
      (.ok (s.pending (H.device eid) 10000), s) := rfl
  have hmatch := firstMatching_of_first hfirst hdecode hcorrelates
  rw [matchPendingEuiccPackageByCorrelation, bind_of_ok hfetch, ofExcept_bind_of_ok _ _ hmatch]
  rfl

theorem firstPending_of_first
    (hfirst : (s.pending (H.device eid) 10000).find? (fun other => other.kind = .euiccPackage) =
      some operation) : firstPendingEuiccPackageOperation H eid s = (.ok operation, s) := by
  have hfetch : fetchPendingOperations H.tenant eid 10000 s =
      (.ok (s.pending (H.device eid) 10000), s) := rfl
  rw [firstPendingEuiccPackageOperation, bind_of_ok hfetch, hfirst]
  rfl

theorem matching_of_first {result : EuiccPackageResult}
    (hfirst : (s.pending (H.device eid) 10000).find? (fun other => other.kind = .euiccPackage) =
      some operation) (hdecode : decodePackage H operation = .ok request)
    (hechoes : Echoes request.euiccPackageSigned result) :
    (matchingEUICCPackageOperation H eid result s).1 = .ok operation := by
  cases result with
  | ok result =>
      obtain ⟨heim, hcounter, htransaction⟩ := hechoes
      rw [matchingEUICCPackageOperation, matchPending_of_first hfirst hdecode]
      simp [correlates, heim, hcounter, htransaction]
  | errorSigned error =>
      obtain ⟨heim, hcounter, htransaction⟩ := hechoes
      rw [matchingEUICCPackageOperation, matchPending_of_first hfirst hdecode]
      simp [correlates, heim, hcounter, htransaction]
  | errorUnsigned error =>
      obtain ⟨heim, htransaction⟩ := hechoes
      have hmatch : matchPendingEuiccPackageByCorrelation H eid error.eimID 0
          (error.eimTransactionID.getD []) s = (.ok operation, s) :=
        matchPending_of_first hfirst hdecode (by simp [correlates, heim, htransaction])
      have hfound : findRow (matchPendingEuiccPackageByCorrelation H eid error.eimID 0
          (error.eimTransactionID.getD [])) s = (.ok (some operation), s) := by
        simp [findRow, hmatch]
      rw [matchingEUICCPackageOperation]
      split
      next =>
          rw [bind_of_ok hfound]
          rfl
      next => rw [firstPending_of_first hfirst]

/-- The transaction that the payload of an operation carries; one that does not decode has none. -/
def transactionOf (H : Handler) (operation : Operation) : Bytes :=
  (operationTransactionID H.bertlv operation).toOption.join.getD []

theorem firstPendingTransaction_of_head {kind : Storage.OperationKind} {rest : List Operation}
    {transactionID : Option Bytes} (hkind : operation.kind = kind)
    (hdecode : operationTransactionID H.bertlv operation = .ok transactionID) :
    firstPendingTransaction kind (operationTransactionID H.bertlv) (transactionID.getD [])
      (operation :: rest) = .ok (some operation) := by
  rw [firstPendingTransaction, if_pos hkind, hdecode]
  simp [bind, Except.bind, pure, Except.pure]

theorem pendingIpaEuiccData_of_head {rest : List Operation}
    (hhead : s.pending (H.device eid) 100 = operation :: rest)
    (hkind : operation.kind = .ipaEuiccData) :
    (pendingIpaEuiccDataOperation H eid (transactionOf H operation) s).1 = .ok (some operation) := by
  have hfetch : fetchPendingOperations H.tenant eid 100 s = (.ok (operation :: rest), s) :=
    congrArg (fun pending => (Except.ok pending, s)) hhead
  rw [pendingIpaEuiccDataOperation, bind_of_ok hfetch]
  split
  next => simp [hkind]
  next hne =>
      cases hdecode : operationTransactionID H.bertlv operation with
      | error e => simp [transactionOf, hdecode, Except.toOption] at hne
      | ok transactionID =>
          rw [ofExcept_apply]
          have htransaction : transactionOf H operation = transactionID.getD [] := by
            simp [transactionOf, hdecode, Except.toOption]
          rw [htransaction]
          exact firstPendingTransaction_of_head hkind hdecode

/-- A trigger that could be sent decodes. -/
theorem Sends.trigger_decodes (h : Sends H s tlv eid operation)
    (hkind : operation.kind = .profileDownloadTrigger) :
    ∃ transactionID, operationTransactionID H.bertlv operation = .ok transactionID := by
  obtain ⟨response, hresponse⟩ := h.response
  rw [getEimPackageOperationResponse, hkind] at hresponse
  obtain ⟨request, hdecode, -⟩ := Outcome.bind_eq_ok.mp hresponse
  refine ⟨request.eimTransactionID, ?_⟩
  rw [operationTransactionID, hkind]
  exact Outcome.bind_eq_ok.mpr ⟨request, hdecode, rfl⟩

theorem pendingTrigger_of_head {rest : List Operation}
    (hhead : s.pending (H.device eid) 100 = operation :: rest)
    (hkind : operation.kind = .profileDownloadTrigger)
    (hdecodes : ∃ transactionID, operationTransactionID H.bertlv operation = .ok transactionID) :
    (pendingProfileDownloadTrigger H eid (transactionOf H operation) s).1 =
      .ok (some operation) := by
  obtain ⟨transactionID, hdecode⟩ := hdecodes
  have hfetch : fetchPendingOperations H.tenant eid 100 s = (.ok (operation :: rest), s) :=
    congrArg (fun pending => (Except.ok pending, s)) hhead
  have htransaction : transactionOf H operation = transactionID.getD [] := by
    simp [transactionOf, hdecode, Except.toOption]
  rw [pendingProfileDownloadTrigger, bind_of_ok hfetch, ofExcept_apply, htransaction]
  exact firstPendingTransaction_of_head hkind hdecode

theorem Sends.package_decodes (h : Sends H s tlv eid operation)
    (hkind : operation.kind = .euiccPackage) :
    ∃ request, decodePackage H operation = .ok request := by
  obtain ⟨response, hresponse⟩ := h.response
  rw [getEimPackageOperationResponse, hkind] at hresponse
  obtain ⟨request, hdecode, -⟩ := Outcome.bind_eq_ok.mp hresponse
  exact ⟨request, hdecode⟩

end

/-- However a run goes on after a poll, a result that repeats the identifiers of the operation that
was sent is taken for the result of that operation, for as long as the operation is pending. -/
theorem sent_operation_found {S : Service} {H : Handler} (hB : H.bertlv.Lawful)
    {events events' : List Event} {tlv : Tlv} {eid : Bytes} {operation : Operation}
    (hsends : Sends H (Run.after (step S H) System.new events).store tlv eid operation)
    (hstill : Queued (Run.after (step S H) System.new (events ++ events')).store (H.device eid)
      operation) :
    let s' := (Run.after (step S H) System.new (events ++ events')).store
    (operation.kind = .euiccPackage →
      ∃ request, decodePackage H operation = .ok request ∧
        ∀ result, Echoes request.euiccPackageSigned result →
          (matchingEUICCPackageOperation H eid result s').1 = .ok operation) ∧
    (operation.kind = .ipaEuiccData →
      ∀ response, (ipaEuiccDataTransactionID response).getD [] = transactionOf H operation →
        (pendingIpaEuiccDataOperation H eid ((ipaEuiccDataTransactionID response).getD []) s').1 =
          .ok (some operation)) ∧
    (operation.kind = .profileDownloadTrigger →
      ∀ result : ProfileDownloadTriggerResult,
        result.eimTransactionID.getD [] = transactionOf H operation →
        (pendingProfileDownloadTrigger H eid (result.eimTransactionID.getD []) s').1 =
          .ok (some operation)) := by
  have hnumbered : ∀ events, Numbered (ledger (Run.after (step S H) System.new events).store) :=
    fun events => (accounted_after hB events).numbered
  have hlater : Later (Run.after (step S H) System.new events).store
      (Run.after (step S H) System.new (events ++ events')).store := by
    rw [Run.after_append]
    exact later_after hB (hnumbered events) events'
  have hfirst := fun n => hsends.first_later (n := n) hlater (hnumbered _) (hnumbered _) hstill
  -- an operation that is not a package was at the head of the queue, and still is
  have hhead : operation.kind ≠ .euiccPackage → ∃ rest,
      (Run.after (step S H) System.new (events ++ events')).store.pending (H.device eid) 100 =
        operation :: rest := by
    intro hkind
    have hfind := hfirst 100 (le_refl _)
    simp only [hkind, false_imp_iff, decide_true] at hfind
    cases hpending : (Run.after (step S H) System.new (events ++ events')).store.pending
        (H.device eid) 100 with
    | nil => simp [hpending] at hfind
    | cons first rest =>
        rw [hpending, List.find?_cons_of_pos rfl] at hfind
        obtain rfl := Option.some.inj hfind
        exact ⟨rest, rfl⟩
  refine ⟨fun hkind => ?_, fun hkind response htransaction => ?_, fun hkind result htransaction => ?_⟩
  · obtain ⟨request, hdecode⟩ := hsends.package_decodes hkind
    refine ⟨request, hdecode, fun result hechoes => ?_⟩
    have hfind := hfirst 10000 (by decide)
    simp only [hkind, true_imp_iff] at hfind
    exact matching_of_first hfind hdecode hechoes
  · obtain ⟨rest, hrest⟩ := hhead (by simp [hkind])
    rw [htransaction]
    exact pendingIpaEuiccData_of_head hrest hkind
  · obtain ⟨rest, hrest⟩ := hhead (by simp [hkind])
    rw [htransaction]
    exact pendingTrigger_of_head hrest hkind (hsends.trigger_decodes hkind)

/-! The sample device polls for its package before another one of the same transaction is queued. -/

def samplePoll : Tlv := .constructed tagGetEimPackage [.primitive tagEID sampleEID]

def sampleShared : List Event :=
  [.draw [] sampleDevice [0x07] .getRAT, .sign 0, .enqueue 0]

theorem sends_sampleEnable :
    Sends sampleHandler (sampleSystem sampleEnable).store samplePoll sampleDevice
      sampleEnableOperation where
  request := ⟨⟨sampleEID, false, none, none⟩, rfl, by decide +kernel⟩
  known := by decide +kernel
  selected := by decide +kernel
  identified := by decide
  response := by
    have hok : (getEimPackageOperationResponse sampleHandler sampleEnableOperation).isOk = true := by
      decide +kernel
    cases hresponse : getEimPackageOperationResponse sampleHandler sampleEnableOperation with
    | error e =>
        rw [hresponse] at hok
        cases hok
    | ok response => exact ⟨response, rfl⟩

theorem sent_operation_found_shared :
    ∃ request, decodePackage sampleHandler sampleEnableOperation = .ok request ∧
      ∀ result, Echoes request.euiccPackageSigned result →
        (matchingEUICCPackageOperation sampleHandler sampleDevice result
          (sampleSystem (sampleEnable ++ sampleShared)).store).1 = .ok sampleEnableOperation := by
  have hstill : Queued (sampleSystem (sampleEnable ++ sampleShared)).store
      (sampleHandler.device sampleDevice) sampleEnableOperation :=
    ⟨⟨⟨sampleHandler.tenant, sampleEnableOperation⟩, rfl⟩, by decide +kernel, rfl, rfl⟩
  exact (sent_operation_found Bertlv.reference_lawful sends_sampleEnable hstill).1 rfl

end OpenIotRsp.Server
