import OpenIotRsp.Library.Table
import OpenIotRsp.Verification.Storage.Records

/-!
# Queued operations and their results

What the listings return, and what recording a result for a queued operation
does to the store.
-/

namespace OpenIotRsp.Storage

open Octets Stateful

variable {s : Store} {tenantID : TenantID} {key : DeviceKey} {operation : Operation}
  {stored : MemoryOperation}

/-- The store holds the operation, for the device. -/
def Queued (s : Store) (key : DeviceKey) (operation : Operation) : Prop :=
  ∃ stored, s.operations.lookup operation.id = some stored ∧
    stored.val = ⟨key.tenantID, operation⟩ ∧ operation.eid = key.eid

theorem Queued.operation_eq (h : Queued s key operation) :
    s.operation key operation.id = some operation := by
  obtain ⟨stored, hlookup, hstored, heid⟩ := h
  simp [Store.operation, hlookup, hstored, MemoryOperation.device, heid]

/-! ## Listings -/

theorem lookup_of_mem_allOperations (h : stored ∈ s.allOperations) :
    ∃ row, s.operations.lookup stored.operation.id = some row ∧ row.val = stored := by
  obtain ⟨⟨_, ⟨stored, rfl⟩⟩, hrow, rfl⟩ := List.mem_map.mp h
  exact ⟨⟨stored, rfl⟩, AList.mem_lookup_iff.mpr hrow, rfl⟩

theorem mem_allOperations_of_lookup {id : Int} {row : StoredOperation id}
    (h : s.operations.lookup id = some row) : row.val ∈ s.allOperations :=
  List.mem_map.mpr ⟨⟨id, row⟩, AList.mem_lookup_iff.mp h, rfl⟩

theorem mem_selectOperations {p : MemoryOperation → Bool} {limit : Nat}
    (h : operation ∈ s.selectOperations p limit) :
    ∃ stored ∈ s.allOperations, p stored ∧ stored.operation = operation := by
  have hsorted := List.mem_of_mem_take h
  rw [sortOperations, List.mem_insertionSort] at hsorted
  obtain ⟨stored, hstored, heq⟩ := List.mem_map.mp hsorted
  obtain ⟨hmem, hp⟩ := List.mem_filter.mp hstored
  exact ⟨stored, hmem, hp, heq⟩

/-- No two operations have the same identifier. -/
theorem pairwise_allOperations (s : Store) :
    s.allOperations.Pairwise fun a b => a.operation.id ≠ b.operation.id := by
  have hids : s.allOperations.map (fun stored => stored.operation.id) =
      s.operations.entries.map Sigma.fst := by
    rw [Store.allOperations, List.map_map]
    exact List.map_congr_left fun row _ => row.2.property
  rw [← List.pairwise_map (f := fun stored : MemoryOperation => stored.operation.id), hids]
  exact s.operations.nodupKeys

/-- A listing is sorted by sequence number and has no operation twice. -/
theorem pairwise_selectOperations (s : Store) (p : MemoryOperation → Bool) (limit : Nat) :
    (s.selectOperations p limit).Pairwise fun a b =>
      a.sequenceNumber ≤ b.sequenceNumber ∧ a.id ≠ b.id := by
  have hselected : ((s.allOperations.filter p).map MemoryOperation.operation).Pairwise fun a b =>
      a.id ≠ b.id := List.pairwise_map.mpr ((pairwise_allOperations s).filter p)
  have hdistinct := (List.perm_insertionSort (fun a b : Operation =>
    a.sequenceNumber ≤ b.sequenceNumber) _).pairwise_iff (fun h => h.symm) |>.mpr hselected
  have hsorted := List.pairwise_insertionSort (fun a b : Operation =>
    a.sequenceNumber ≤ b.sequenceNumber) ((s.allOperations.filter p).map MemoryOperation.operation)
  exact (hsorted.and hdistinct).sublist (List.take_sublist _ _)

theorem queued_of_mem_allOperations (h : stored ∈ s.allOperations) :
    Queued s stored.device stored.operation := by
  obtain ⟨row, hlookup, hrow⟩ := lookup_of_mem_allOperations h
  exact ⟨row, hlookup, hrow, rfl⟩

/-- The pending operations of a device, as a list. -/
def Store.pending (s : Store) (key : DeviceKey) (limit : Nat) : List Operation :=
  s.selectOperations (fun stored => stored.tenantID = key.tenantID ∧
    stored.operation.eid = key.eid ∧ stored.operation.status = .pending) limit

def Store.queue (s : Store) (key : DeviceKey) (limit : Nat) : List Operation :=
  s.selectOperations (fun stored => stored.tenantID = key.tenantID ∧
    stored.operation.eid = key.eid) limit

theorem queued_of_mem_pending {limit : Nat} (h : operation ∈ s.pending key limit) :
    Queued s key operation ∧ operation.status = .pending := by
  obtain ⟨stored, hmem, hp, rfl⟩ := mem_selectOperations h
  obtain ⟨htenant, heid, hstatus⟩ := of_decide_eq_true hp
  have hdevice : stored.device = key := by
    rw [MemoryOperation.device, htenant, heid]
  exact ⟨hdevice ▸ queued_of_mem_allOperations hmem, hstatus⟩

theorem queued_of_mem_queue {limit : Nat} (h : operation ∈ s.queue key limit) :
    Queued s key operation := by
  obtain ⟨stored, hmem, hp, rfl⟩ := mem_selectOperations h
  obtain ⟨htenant, heid⟩ := of_decide_eq_true hp
  have hdevice : stored.device = key := by
    rw [MemoryOperation.device, htenant, heid]
  exact hdevice ▸ queued_of_mem_allOperations hmem

/-- All the pending operations of a device, by their sequence numbers. -/
def Store.allPending (s : Store) (key : DeviceKey) : List Operation :=
  sortOperations ((s.allOperations.filter fun stored => stored.tenantID = key.tenantID ∧
    stored.operation.eid = key.eid ∧ stored.operation.status = .pending).map
      MemoryOperation.operation)

theorem pending_eq_take (s : Store) (key : DeviceKey) (limit : Nat) :
    s.pending key limit = (s.allPending key).take limit := rfl

theorem mem_allPending :
    operation ∈ s.allPending key ↔ Queued s key operation ∧ operation.status = .pending := by
  rw [Store.allPending, sortOperations, List.mem_insertionSort]
  constructor
  · intro h
    have htake : operation ∈ s.pending key (s.allPending key).length := by
      rw [pending_eq_take, List.take_length]
      exact (List.mem_insertionSort _).mpr h
    exact queued_of_mem_pending htake
  · rintro ⟨⟨stored, hlookup, hstored, heid⟩, hstatus⟩
    have hmem := mem_allOperations_of_lookup hlookup
    rw [hstored] at hmem
    refine List.mem_map.mpr ⟨_, List.mem_filter.mpr ⟨hmem, ?_⟩, rfl⟩
    simp [heid, hstatus]

/-- A longer listing starts with the shorter one, and a long enough one has every operation. -/
theorem exists_longer_pending (hqueued : Queued s key operation)
    (hstatus : operation.status = .pending) (limit : Nat) :
    ∃ longer, operation ∈ s.pending key longer ∧
      s.pending key limit = (s.pending key longer).take limit := by
  have hmem := mem_allPending.mpr ⟨hqueued, hstatus⟩
  refine ⟨max limit (s.allPending key).length, ?_, ?_⟩
  · rwa [pending_eq_take, List.take_of_length_le (le_max_right _ _)]
  · rw [pending_eq_take, pending_eq_take, List.take_take, min_eq_left (le_max_left _ _)]

/-! ## Status updates -/

/-- The rows of the operation map are stored under their own identifiers. -/
theorem row_eq_of_id {id : Int} {stored : StoredOperation id}
    {row : (id : Int) × StoredOperation id} (hlookup : s.operations.lookup id = some stored)
    (hrow : row ∈ s.operations.entries) (hid : row.2.val.operation.id = id) :
    row = ⟨id, stored⟩ := by
  obtain ⟨id', stored'⟩ := row
  obtain rfl : id' = id := stored'.property.symm.trans hid
  obtain rfl := Option.some.inj ((AList.mem_lookup_iff.mpr hrow).symm.trans hlookup)
  rfl

section

variable {result : EUICCPackageResult}

theorem isFor_iff_of_id (hid : result.operationID ≠ 0) :
    result.isFor tenantID stored = true ↔
      stored.tenantID = tenantID ∧ stored.operation.id = result.operationID := by
  simp [EUICCPackageResult.isFor, hid]

theorem updateStatus_of_id {stored : StoredOperation result.operationID}
    (hid : result.operationID ≠ 0) (hlookup : s.operations.lookup result.operationID = some stored)
    (htenant : stored.val.tenantID = tenantID) :
    s.updateStatus tenantID result = { s with
      operations := s.operations.insert result.operationID
        ⟨stored.val.withStatus result.status, stored.property⟩ } := by
  have hmem := AList.mem_lookup_iff.mp hlookup
  have hfor : result.isFor tenantID stored.val = true :=
    (isFor_iff_of_id hid).mpr ⟨htenant, stored.property⟩
  rw [Store.updateStatus]
  cases hfind : s.operations.entries.find? fun row => result.isFor tenantID row.2.val with
  | none => exact absurd hfor (List.find?_eq_none.mp hfind _ hmem)
  | some row =>
      have hfound := List.find?_some hfind
      obtain rfl := row_eq_of_id hlookup (List.mem_of_find?_eq_some hfind)
        ((isFor_iff_of_id hid).mp hfound).2
      rfl

/-- The operation after the status update. -/
def EUICCPackageResult.updated (result : EUICCPackageResult) (tenantID : TenantID)
    (stored : MemoryOperation) : MemoryOperation :=
  if result.isFor tenantID stored then stored.withStatus result.status else stored

theorem EUICCPackageResult.updated_of_not_isFor (h : ¬ result.isFor tenantID stored) :
    result.updated tenantID stored = stored := if_neg h

theorem mem_allOperations :
    stored ∈ s.allOperations ↔ ∃ row ∈ s.operations.entries, row.2.val = stored := List.mem_map

theorem eq_of_id {a b : MemoryOperation} (ha : a ∈ s.allOperations) (hb : b ∈ s.allOperations)
    (hid : a.operation.id = b.operation.id) : a = b := by
  obtain ⟨row, hrow, rfl⟩ := mem_allOperations.mp ha
  obtain ⟨row', hrow', rfl⟩ := mem_allOperations.mp hb
  rw [row.2.property, row'.2.property] at hid
  obtain rfl := s.operations.nodupKeys.eq_of_fst_eq hrow hrow' hid
  rfl

/-- If the result is for one operation at most, each operation is updated in its place. -/
theorem mem_allOperations_updateStatus
    (hunique : ∀ a ∈ s.allOperations, ∀ b ∈ s.allOperations, result.isFor tenantID a →
      result.isFor tenantID b → a.operation.id = b.operation.id) :
    stored ∈ (s.updateStatus tenantID result).allOperations ↔
      ∃ old ∈ s.allOperations, result.updated tenantID old = stored := by
  rw [Store.updateStatus]
  cases hfind : s.operations.entries.find? fun row => result.isFor tenantID row.2.val with
  | none =>
      have hnone : ∀ old ∈ s.allOperations, result.updated tenantID old = old := by
        intro old hold
        obtain ⟨row, hrow, rfl⟩ := mem_allOperations.mp hold
        exact EUICCPackageResult.updated_of_not_isFor (List.find?_eq_none.mp hfind row hrow)
      constructor
      · intro h
        exact ⟨stored, h, hnone stored h⟩
      · rintro ⟨old, hold, rfl⟩
        rwa [hnone old hold]
  | some row =>
      have hrow := List.mem_of_find?_eq_some hfind
      have hfound := List.find?_some hfind
      have hfor : result.isFor tenantID row.2.val = true := hfound
      have hmem : row.2.val ∈ s.allOperations := mem_allOperations.mpr ⟨row, hrow, rfl⟩
      have hrow_updated : result.updated tenantID row.2.val = row.2.val.withStatus result.status :=
        if_pos hfor
      -- no other row is updated
      have hother : ∀ other ∈ s.operations.entries, other.1 ≠ row.1 →
          result.updated tenantID other.2.val = other.2.val := by
        intro other hother hne
        refine EUICCPackageResult.updated_of_not_isFor fun hfor' => hne ?_
        have hid := hunique _ (mem_allOperations.mpr ⟨other, hother, rfl⟩) _ hmem hfor' hfor
        rwa [other.2.property, row.2.property] at hid
      simp only [mem_allOperations, Table.mem_entries_insert]
      constructor
      · rintro ⟨_, rfl | ⟨hold, hne⟩, rfl⟩
        · exact ⟨_, ⟨row, hrow, rfl⟩, hrow_updated⟩
        · exact ⟨_, ⟨_, hold, rfl⟩, hother _ hold hne⟩
      · rintro ⟨_, ⟨old, hold, rfl⟩, rfl⟩
        by_cases hne : old.1 = row.1
        · obtain rfl := s.operations.nodupKeys.eq_of_fst_eq hold hrow hne
          exact ⟨_, .inl rfl, hrow_updated.symm⟩
        · exact ⟨old, .inr ⟨hold, hne⟩, (hother old hold hne).symm⟩

/-- A status update of operations of one device does not touch another device. -/
theorem records_updateStatus {key key' : DeviceKey} (hkey : key' ≠ key)
    (hdevice : ∀ row ∈ s.operations.entries, result.isFor tenantID row.2.val →
      row.2.val.device = key) : (s.updateStatus tenantID result).records key' = s.records key' := by
  rw [Store.updateStatus]
  split
  next => rfl
  next row hfind =>
      have hmem := List.mem_of_find?_eq_some hfind
      have hfound := List.find?_some hfind
      have hrow := hdevice row hmem hfound
      ext1
      case operations =>
        funext id
        simp only [Store.records, Store.operation]
        by_cases hid : id = row.1
        · -- neither the old row nor the new one belongs to the other device
          subst hid
          have hold : s.operations.lookup row.1 = some row.2 := AList.mem_lookup_iff.mpr hmem
          have hne : row.2.val.device ≠ key' := fun h => hkey (h.symm.trans hrow)
          have hne' : (row.2.val.withStatus result.status).device ≠ key' := hne
          simp [AList.lookup_insert, hold, Option.filter, hne, hne']
        · rw [AList.lookup_insert_ne hid]
      all_goals rfl

/-! ## Recording a result -/

variable {γ : Type} {f : Store → γ}

theorem updateStatus_keeps (hf : ∀ (s : Store) operations, f { s with operations := operations } = f s)
    (s : Store) (tenantID : TenantID) (result : EUICCPackageResult) :
    f (s.updateStatus tenantID result) = f s := by
  rw [Store.updateStatus]
  split
  next => rfl
  next => exact hf s _

/-- An observation that reads no results is kept if status updates keep it. -/
theorem keeps_recordEUICCPackageResult_of_updateStatus
    (hresults : ∀ (s : Store) results, f { s with results := results } = f s)
    (hstatus : ∀ (s : Store) tenantID result, f (s.updateStatus tenantID result) = f s) :
    Keeps f (recordEUICCPackageResult tenantID result) := by
  have hresolve : Keeps f (resolveResult (normalizeTenantID tenantID) result) :=
    Keeps.ite (fun _ => keeps_pure f _) fun _ =>
      (keeps_require f _).bind fun _ => Keeps.ite (fun _ => keeps_pure f _) fun _ => keeps_fail f _
  refine hresolve.bind fun resolved => (keeps_require f _).bind fun _ => ?_
  exact (keeps_modify fun s => hresults s _).bind fun _ => keeps_modify fun s => hstatus s _ _

/-- An observation that reads neither results nor operations is kept. -/
theorem keeps_recordEUICCPackageResult (hf : ∀ (s : Store) results operations,
      f { s with results := results, operations := operations } = f s) :
    Keeps f (recordEUICCPackageResult tenantID result) := by
  refine keeps_recordEUICCPackageResult_of_updateStatus (fun s results => hf s results s.operations) ?_
  exact updateStatus_keeps fun s operations => hf s s.results operations

end

/-- The result that a queued operation is recorded with. -/
def Operation.result (operation : Operation) (status : OperationStatus) (payload : Bytes) :
    EUICCPackageResult :=
  ⟨operation.eid, operation.id, operation.sequenceNumber, status, payload⟩

/-- The result of an operation in the queue is resolved to itself. -/
theorem resolveResult_of_queued {status : OperationStatus} {payload : Bytes}
    (hqueued : Queued s key operation) :
    resolveResult key.tenantID (operation.result status payload) s =
      (.ok (operation.result status payload), s) := by
  by_cases hid : (operation.result status payload).operationID = 0
  · rw [resolveResult, if_pos hid, pure_apply]
  · obtain ⟨stored, hlookup, hstored, -⟩ := hqueued
    have hrequire : require (fun s => s.operations.lookup operation.id) s = (.ok stored, s) := by
      simp [require, hlookup]
    rw [resolveResult, if_neg hid]
    refine (bind_of_ok hrequire).trans ?_
    simp [hstored, Operation.result]

/-- The store after a result for the operation has been recorded. -/
def Store.recorded (s : Store) (key : DeviceKey) (operation : Operation)
    (status : OperationStatus) (payload : Bytes) : Store :=
  Store.updateStatus
    { s with
      results := s.results.insert ⟨key.tenantID, operation.eid, operation.sequenceNumber⟩
        (operation.result (normalizeResultStatus status) payload) }
    key.tenantID (operation.result (normalizeResultStatus status) payload)

theorem recorded_keeps {γ : Type} {f : Store → γ}
    (hf : ∀ (s : Store) results operations,
      f { s with results := results, operations := operations } = f s)
    (s : Store) (key : DeviceKey) (operation : Operation) (status : OperationStatus)
    (payload : Bytes) : f (s.recorded key operation status payload) = f s :=
  (updateStatus_keeps (fun s operations => hf s s.results operations) _ _ _).trans
    (hf s _ s.operations)

/-- Recording a result for a queued operation succeeds for a registered device, and does nothing
for any other. -/
theorem recordEUICCPackageResult_of_queued {eid : Bytes} {status : OperationStatus}
    {payload : Bytes} (hqueued : Queued s (newDeviceKey tenantID eid) operation) :
    recordEUICCPackageResult tenantID ⟨eid, operation.id, operation.sequenceNumber, status,
        payload⟩ s =
      if (s.devices.lookup (newDeviceKey tenantID eid)).isSome then
        (.ok (), s.recorded (newDeviceKey tenantID eid) operation status payload)
      else (.error .notFound, s) := by
  obtain rfl : operation.eid = eid := hqueued.choose_spec.2.2
  refine (bind_of_ok (resolveResult_of_queued hqueued)).trans ?_
  cases hdevice : s.devices.lookup (newDeviceKey tenantID operation.eid) with
  | none => exact require_of_none hdevice
  | some device => exact require_of_some hdevice

/-- Only the device of the operation is touched. -/
theorem records_recorded {key key' : DeviceKey} {status : OperationStatus} {payload : Bytes}
    (hqueued : Queued s key operation) (hkey : key' ≠ key) :
    (s.recorded key operation status payload).records key' = s.records key' := by
  obtain ⟨stored, hlookup, hstored, heid⟩ := hqueued
  rw [Store.recorded, records_updateStatus hkey]
  · ext1
    case results =>
      funext sequenceNumber
      refine AList.lookup_insert_ne ?_
      intro h
      exact hkey (by cases key; cases key'; simp_all)
    all_goals rfl
  · intro row hrow hfor
    by_cases hid : operation.id = 0
    · simp only [EUICCPackageResult.isFor, Operation.result, hid, if_true, decide_eq_true_eq] at hfor
      rw [MemoryOperation.device, hfor.1, hfor.2.1, heid]
    · have hrowid := (isFor_iff_of_id hid).mp hfor
      obtain rfl := row_eq_of_id hlookup hrow hrowid.2
      rw [hstored, MemoryOperation.device, heid]

end OpenIotRsp.Storage
