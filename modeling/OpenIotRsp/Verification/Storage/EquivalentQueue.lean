import OpenIotRsp.Verification.Storage.DatabaseNumbers
import OpenIotRsp.Verification.Storage.EquivalentRecords

/-!
# The operation queue in the two stores

The methods of both stores for operations and their results.  The identifiers
that the stores give to operations stay the same as long as every operation that
one of them takes is taken by the other.
-/

namespace OpenIotRsp.Storage

open Octets Stateful Postgres

variable {α : Type} {s : Store} {d : Database} {tenantID : TenantID} {eid : Bytes}

/-! ## Operations by identifier and by sequence number -/

theorem nodup_operationsID (d : Database) : (d.tables.operations.map OperationRow.id).Nodup :=
  d.valid.unique .operationsID

theorem nodup_operationsSequence (d : Database) :
    (d.tables.operations.map OperationRow.key).Nodup := d.valid.unique .operationsSequence

/-- The operation of a tenant under an identifier, in both stores. -/
theorem Simulates.operation_cases (h : Simulates s d) (tenant : TenantID) (id : Int) :
    ((d.tables.operations.find? fun row => row.tenantID = tenant ∧ row.id = id) = none ∧
        ∀ stored, s.operations.lookup id = some stored → stored.val.tenantID ≠ tenant) ∨
      ∃ (row : OperationRow) (hid : row.id = id), row ∈ d.tables.operations ∧
        row.tenantID = tenant ∧
        (d.tables.operations.find? fun row => row.tenantID = tenant ∧ row.id = id) = some row ∧
        s.operations.lookup id = some ⟨row.toMemoryOperation, hid⟩ := by
  cases hfind : d.tables.operations.find? fun row => row.tenantID = tenant ∧ row.id = id with
  | some row =>
      have hfound := List.find?_some hfind
      obtain ⟨htenant, hid⟩ := of_decide_eq_true hfound
      have hrow := List.mem_of_find?_eq_some hfind
      subst hid
      exact .inr ⟨row, rfl, hrow, htenant, rfl, h.operations.lookup_eq_some.mpr ⟨row, hrow, rfl⟩⟩
  | none =>
      refine .inl ⟨rfl, fun stored hstored htenant => ?_⟩
      obtain ⟨row, hrow, hentry⟩ := h.operations.lookup_eq_some.mp hstored
      have hid : row.id = id := congrArg Sigma.fst hentry
      have hstored : row.toMemoryOperation = stored.val :=
        congrArg (fun e : Sigma StoredOperation => e.2.val) hentry
      refine List.find?_eq_none.mp hfind row hrow (decide_eq_true ⟨?_, hid⟩)
      rw [hstored, htenant]

section

variable {tenant : TenantID} {id : Int} {k : StoredOperation id → StoreM α}

theorem requireOperation_of_missing
    (h : ∀ stored, s.operations.lookup id = some stored → stored.val.tenantID ≠ tenant) :
    (do
      let stored ← require fun s => s.operations.lookup id
      if stored.val.tenantID = tenant then k stored else fail .notFound) s =
        (.error .notFound, s) := by
  cases hlookup : s.operations.lookup id with
  | none => exact require_of_none hlookup
  | some stored => exact (require_of_some hlookup).trans (congrFun (if_neg (h stored hlookup)) s)

theorem requireOperation_of_found {stored : StoredOperation id}
    (hlookup : s.operations.lookup id = some stored) (htenant : stored.val.tenantID = tenant) :
    (do
      let stored ← require fun s => s.operations.lookup id
      if stored.val.tenantID = tenant then k stored else fail .notFound) s = k stored s :=
  (require_of_some hlookup).trans (congrFun (if_pos htenant) s)

end

theorem equivalent_getOperation (h : Simulates s d) {operationID : Int}
    (htexts : [normalizeTenantID tenantID].all isText) :
    Equivalent (Storage.getOperation tenantID operationID)
      (Postgres.getOperation tenantID operationID) s d := by
  refine equivalent_parameters htexts ?_
  rcases h.operation_cases (normalizeTenantID tenantID) operationID with
    ⟨hfind, hmissing⟩ | ⟨row, hid, -, htenant, hfind, hlookup⟩
  · exact equivalent_notFound (requireOperation_of_missing hmissing) (queryRow_of_none hfind) h
  · exact matches_of_ok (requireOperation_of_found hlookup htenant) (queryRow_of_some hfind) h

/-- The operations, up to their order. -/
theorem Simulates.perm_operations (h : Simulates s d) :
    (d.tables.operations.map OperationRow.toMemoryOperation).Perm s.allOperations := by
  have hperm := (h.operations.perm (nodup_operationsID d)).map fun e => e.2.val
  rwa [List.map_map] at hperm

theorem equivalent_getOperationBySequence (h : Simulates s d) {sequenceNumber : Int}
    (htexts : [normalizeTenantID tenantID, eid].all isText) :
    Equivalent (Storage.getOperationBySequence tenantID eid sequenceNumber)
      (Postgres.getOperationBySequence tenantID eid sequenceNumber) s d := by
  refine equivalent_parameters htexts ?_
  let p : MemoryOperation → Bool := fun stored =>
    stored.tenantID = normalizeTenantID tenantID ∧ stored.operation.eid = eid ∧
      stored.operation.sequenceNumber = sequenceNumber
  have hp : ∀ row : OperationRow, p row.toMemoryOperation =
      decide (row.key = ⟨normalizeTenantID tenantID, eid, sequenceNumber⟩) :=
    fun row => decide_eq_decide.mpr (ResultKey.mk.injEq ..).to_iff.symm
  have hfind : (s.allOperations.find? p) = (d.tables.operations.find? fun row =>
      row.key = ⟨normalizeTenantID tenantID, eid, sequenceNumber⟩).map
        OperationRow.toMemoryOperation := by
    rw [← Table.find?_eq_of_perm h.perm_operations, List.find?_map]
    · exact congrArg (fun q => (d.tables.operations.find? q).map _) (funext hp)
    · intro a ha b hb hpa hpb
      obtain ⟨row, hrow, rfl⟩ := List.mem_map.mp ha
      obtain ⟨row', hrow', rfl⟩ := List.mem_map.mp hb
      have hkey : row.key = row'.key :=
        (of_decide_eq_true ((hp row).symm.trans hpa)).trans
          (of_decide_eq_true ((hp row').symm.trans hpb)).symm
      rw [Table.eq_of_key (nodup_operationsSequence d) hrow hrow' hkey]
  rw [Storage.getOperationBySequence, ← bind_pure (require _)]
  cases hrow : d.tables.operations.find? fun row =>
      row.key = ⟨normalizeTenantID tenantID, eid, sequenceNumber⟩ with
  | none =>
      refine equivalent_notFound (require_of_none ?_) (queryRow_of_none hrow) h
      exact congrArg (Option.map MemoryOperation.operation) (hfind.trans (congrArg _ hrow))
  | some row =>
      refine matches_of_ok (require_of_some ?_) (queryRow_of_some hrow) h
      exact congrArg (Option.map MemoryOperation.operation) (hfind.trans (congrArg _ hrow))

/-! ## Lists of operations -/

/-- A selection of operations with different sequence numbers. -/
theorem Simulates.selectOperations_eq (h : Simulates s d) {p : MemoryOperation → Bool}
    {q : OperationRow → Bool} (hq : ∀ row ∈ d.tables.operations, q row = p row.toMemoryOperation)
    (hsequence : ((d.tables.operations.filter q).map fun row =>
      row.operation.sequenceNumber).Nodup) (limit : Int) :
    d.tables.selectOperations q limit = s.selectOperations p limit.toNat := by
  have hperm : ((d.tables.operations.filter q).map fun row => row.operation).Perm
      ((s.allOperations.filter p).map MemoryOperation.operation) := by
    have hperm := (h.perm_operations.filter p).map MemoryOperation.operation
    rw [List.filter_map, List.map_map] at hperm
    rwa [List.filter_congr hq]
  refine congrArg (List.take limit.toNat) (Table.insertionSort_eq_of_perm hperm ?_)
  rwa [List.map_map]

/-- A list that is empty unless the limit is positive. -/
theorem equivalent_limited (h : Simulates s d) {limit : Int} {texts : List Bytes}
    {p : MemoryOperation → Bool} {q : OperationRow → Bool}
    (htexts : 0 < limit → texts.all isText)
    (hselect : 0 < limit → d.tables.selectOperations q limit = s.selectOperations p limit.toNat) :
    Equivalent (get fun s => s.selectOperations p limit.toNat)
      (if limit ≤ 0 then pure [] else do
        parameters texts
        get fun d => d.tables.selectOperations q limit) s d := by
  split
  next hlimit =>
      have hempty : s.selectOperations p limit.toNat = [] := by
        rw [Int.toNat_of_nonpos hlimit]
        exact List.take_zero
      exact matches_of_ok rfl (congrArg (fun operations => (Except.ok operations, d)) hempty.symm) h
  next hlimit =>
      have hlimit : 0 < limit := not_le.mp hlimit
      refine equivalent_parameters (htexts hlimit) (matches_of_ok rfl ?_ h)
      exact congrArg (fun operations => (Except.ok operations, d)) (hselect hlimit)

/-- The operations of a device have different sequence numbers. -/
theorem nodup_sequence_device (d : Database) {key : DeviceKey} {q : OperationRow → Bool}
    (hq : ∀ row, q row → row.device = key) :
    ((d.tables.operations.filter q).map fun row => row.operation.sequenceNumber).Nodup := by
  refine Table.nodup_select (nodup_operationsSequence d) fun a _ b _ ha hb hsequence => ?_
  obtain ⟨htenant, heid⟩ := DeviceKey.mk.inj ((hq a ha).trans (hq b hb).symm)
  exact ResultKey.mk.injEq .. ▸ ⟨htenant, heid, hsequence⟩

theorem equivalent_fetchPendingOperations (h : Simulates s d) {limit : Int}
    (htexts : 0 < limit → [normalizeTenantID tenantID, eid].all isText) :
    Equivalent (Storage.fetchPendingOperations tenantID eid limit.toNat)
      (Postgres.fetchPendingOperations tenantID eid limit) s d := by
  refine equivalent_limited h htexts fun _ => h.selectOperations_eq (fun row _ => ?_)
    (nodup_sequence_device d fun row hrow => (of_decide_eq_true hrow).1) limit
  refine decide_eq_decide.mpr ?_
  rw [OperationRow.device, deviceKey_eq_iff, and_assoc]
  rfl

theorem equivalent_listOperations (h : Simulates s d) {limit : Int}
    (htexts : 0 < limit → [normalizeTenantID tenantID, eid].all isText) :
    Equivalent (Storage.listOperations tenantID eid limit.toNat)
      (Postgres.listOperations tenantID eid limit) s d := by
  refine equivalent_limited h htexts fun _ => h.selectOperations_eq (fun row _ => ?_)
    (nodup_sequence_device d fun row hrow => of_decide_eq_true hrow) limit
  exact decide_eq_decide.mpr deviceKey_eq_iff

/-- The pending operations of a tenant, in the order of the map. -/
def Store.pendingOperations (s : Store) (tenant : TenantID) : List MemoryOperation :=
  s.allOperations.filter fun stored =>
    stored.tenantID = tenant ∧ stored.operation.status = .pending

theorem equivalent_listPendingOperations (h : Simulates s d) {limit : Int}
    (htexts : 0 < limit → [normalizeTenantID tenantID].all isText)
    (hsequence : 0 < limit → ((s.pendingOperations (normalizeTenantID tenantID)).map fun stored =>
      stored.operation.sequenceNumber).Nodup) :
    Equivalent (Storage.listPendingOperations tenantID limit.toNat)
      (Postgres.listPendingOperations tenantID limit) s d := by
  refine equivalent_limited h htexts fun hlimit =>
    h.selectOperations_eq (fun row _ => ?_) ?_ limit
  · rfl
  have hperm := (h.perm_operations.filter fun stored => stored.tenantID =
    normalizeTenantID tenantID ∧ stored.operation.status = .pending).map
      fun stored => stored.operation.sequenceNumber
  rw [List.filter_map, List.map_map] at hperm
  exact hperm.nodup_iff.mpr (hsequence hlimit)

/-! ## New operations -/

/-- A new operation under the next identifier. -/
theorem Simulates.appendOperation (h : Simulates s d) {new : OperationRow}
    (hid : new.id = d.operationsID + 1)
    (hvalid : ({ d.tables with operations := d.tables.operations ++ [new] } : Tables).Valid) :
    Simulates
      { s with
        nextOperationID := new.id + 1
        operations := s.operations.insert new.id ⟨new.toMemoryOperation, rfl⟩ }
      { d with
        operationsID := d.operationsID + 1
        tables := { d.tables with operations := d.tables.operations ++ [new] }
        valid := hvalid } := by
  refine { h with operations := ?_, nextOperationID := ?_, operationsID := ?_ }
  · refine h.operations.append rfl fun row hrow => ?_
    rw [hid]
    exact ne_of_lt (Int.lt_add_one_of_le (h.operationsID row hrow))
  · exact congrArg (· + 1) hid
  · intro row hrow
    rcases List.mem_append.mp hrow with hrow | hrow
    · exact Int.le_add_one (h.operationsID row hrow)
    · rw [List.mem_singleton.mp hrow]
      exact hid.le

theorem equivalent_enqueueOperation (h : Simulates s d) (hahead : d.tables.numbers.Ahead)
    {kind : OperationKind} {payload : Option Bytes}
    (htexts : [normalizeTenantID tenantID, eid].all isText)
    (hrequest : s.devices.lookup (newDeviceKey tenantID eid) ≠ none →
      isText (kindName kind) ∧ payload ≠ none) :
    Equivalent (Storage.enqueueOperation tenantID ⟨eid, kind, payload.getD []⟩)
      (Postgres.enqueueOperation tenantID eid kind payload) s d := by
  set key := newDeviceKey tenantID eid
  rcases h.devices.find?_cases key with ⟨hfind, hlookup⟩ | ⟨row, device, hfind, hlookup, hentry⟩
  · refine equivalent_notFound (require_of_none hlookup) (transaction_of_error ?_) h
    exact (congrFun (parameters_bind htexts _) d).trans (queryRow_of_none hfind)
  obtain ⟨hkind, hpayload⟩ := hrequest (by rw [hlookup]; exact Option.some_ne_none device)
  obtain ⟨payload, rfl⟩ := Option.ne_none_iff_exists'.mp hpayload
  have hrow := List.mem_of_find?_eq_some hfind
  have hkey : row.key = key := congrArg Sigma.fst hentry
  obtain rfl : (deviceEntry row).2 = device := eq_of_heq (Sigma.mk.inj hentry).2
  have hmemory : ∀ id, s.nextOperationID = id →
      Storage.enqueueOperation tenantID ⟨eid, kind, payload⟩ s =
        (.ok ⟨id, eid, row.nextSequenceNumber, kind, payload, .pending⟩, { s with
          nextOperationID := id + 1
          devices := s.devices.insert key
            ⟨row.nextSequenceNumber + 1, row.nextEUICCPackageCounter⟩
          operations := s.operations.insert id ⟨⟨key.tenantID,
            ⟨id, eid, row.nextSequenceNumber, kind, payload, .pending⟩⟩, rfl⟩ }) := by
    rintro _ rfl
    refine (require_of_some (a := (deviceEntry row).2) ?_).trans ?_
    · exact hlookup
    · rfl
  obtain ⟨hvalid, hsimulates⟩ := h.updateDevice hrow hkey
    (f := fun row => { row with
      nextSequenceNumber := row.nextSequenceNumber + 1
      sequence_pos := Int.lt_add_one_of_le row.sequence_pos.le }) fun _ => rfl
  let new : OperationRow := ⟨⟨key.tenantID,
    ⟨d.operationsID + 1, eid, row.nextSequenceNumber, kind, payload, .pending⟩⟩, row.sequence_pos⟩
  have hid : new.id ∉ d.tables.operations.map OperationRow.id := by
    intro hmem
    obtain ⟨old, hold, hid⟩ := List.mem_map.mp hmem
    exact absurd (hid ▸ h.operationsID old hold) (not_le.mpr (Int.lt_succ _))
  have hnumber : new.key ∉ d.tables.operations.map OperationRow.key := by
    intro hused
    refine lt_irrefl row.nextSequenceNumber (hahead key row.numbers ?_ _ hused)
    exact next_of_device hfind
  have hvalid' := valid_operations_append hvalid hid hnumber
    (List.mem_map.mpr ⟨_, Table.mem_update.mpr (.inr ⟨row, hrow, decide_eq_true hkey, rfl⟩), hkey⟩)
  have htexts' : [normalizeTenantID tenantID, eid, kindName kind].all isText := by
    simpa [hkind] using htexts
  have hrelated := hsimulates.appendOperation (show new.id = d.operationsID + 1 from rfl) hvalid'
  refine matches_of_ok (hmemory _ h.nextOperationID) (transaction_of_ok ?_) hrelated
  refine (congrFun (parameters_bind htexts _) d).trans ((queryRow_of_some hfind).trans
    ((bind_of_ok (statement_of_valid hvalid)).trans
      ((congrFun (parameters_bind htexts' _) _).trans ?_)))
  exact bind_of_ok (statement_of_valid hvalid')

/-! ## Results -/

/-- A number drawn for a serial column. -/
theorem Simulates.drawOperationResultsID (h : Simulates s d) :
    Simulates s { d with operationResultsID := d.operationResultsID + 1 } :=
  { h with operationResultsID := fun row hrow => Int.le_add_one (h.operationResultsID row hrow) }

/-- What a conflict writes to the row of a result. -/
def setResultRow (old excluded : OperationResultRow) : OperationResultRow :=
  { old with
    operationID := excluded.operationID
    status := excluded.status
    payload := excluded.payload
    status_final := excluded.status_final }

theorem setResultRow_entry {old new : OperationResultRow} (hkey : old.key = new.key) :
    resultEntry (setResultRow old new) = resultEntry new := by
  obtain ⟨id, tenant, eid, operationID, sequenceNumber, status, payload, hpos, hfinal⟩ := new
  obtain ⟨rfl, rfl, rfl⟩ := ResultKey.mk.inj hkey
  rfl

section

variable {tenant : TenantID} {operationID sequenceNumber : Int} {status : OperationStatus}
  {payload : Bytes}

/-- The row of a result. -/
def resultRow (id : Int) (tenant : TenantID) (eid : Bytes) (operationID : Int)
    {sequenceNumber : Int} (hsequence : 0 < sequenceNumber) (status : OperationStatus)
    (payload : Bytes) : OperationResultRow :=
  ⟨id, tenant, eid, if operationID = 0 then none else some operationID, sequenceNumber,
    normalizeResultStatus status, payload, hsequence, normalizeResultStatus_final status⟩

theorem insertResult_eq (htexts : [tenant, eid].all isText) (hsequence : 0 < sequenceNumber)
    (d : Database) :
    insertResult tenant eid operationID sequenceNumber status (some payload) d =
      statement (fun t => { t with
        operationResults := Table.upsert OperationResultRow.key setResultRow
          (resultRow (d.operationResultsID + 1) tenant eid operationID hsequence status payload)
          t.operationResults })
        { d with operationResultsID := d.operationResultsID + 1 } := by
  refine (congrFun (parameters_bind htexts _) d).trans ?_
  change (if hpos : 0 < sequenceNumber then _ else _ : PgM Unit) _ = _
  rw [dif_pos hsequence]
  rfl

theorem equivalent_insertResult (h : Simulates s d) (htexts : [tenant, eid].all isText)
    (hsequence : 0 < sequenceNumber)
    (hoperation : operationID ≠ 0 → operationID ∈ d.tables.operations.map OperationRow.id) :
    Equivalent (do
      let _ ← require fun s => s.devices.lookup ⟨tenant, eid⟩
      modify fun s => { s with
        results := s.results.insert ⟨tenant, eid, sequenceNumber⟩
          ⟨eid, operationID, sequenceNumber, normalizeResultStatus status, payload⟩ })
      (referenced (insertResult tenant eid operationID sequenceNumber status (some payload))) s d := by
  let new := resultRow (d.operationResultsID + 1) tenant eid operationID hsequence status payload
  have hset : ∀ old : OperationResultRow, old.key = new.key →
      (setResultRow old new).key = new.key := fun _ hkey => hkey
  have hnew : new.id ∉ d.tables.operationResults.map OperationResultRow.id := by
    intro hmem
    obtain ⟨row, hrow, hid⟩ := List.mem_map.mp hmem
    exact absurd (hid ▸ h.operationResultsID row hrow) (not_le.mpr (Int.lt_succ _))
  have hid : (if operationID = 0 then none else some operationID).getD 0 = operationID := by
    by_cases hzero : operationID = 0
    · rw [if_pos hzero, hzero]
      rfl
    · rw [if_neg hzero]
      rfl
  have hentry : resultEntry new = ⟨⟨tenant, eid, sequenceNumber⟩,
      ⟨eid, operationID, sequenceNumber, normalizeResultStatus status, payload⟩⟩ := by
    rw [resultEntry, show new.operationID.getD 0 = operationID from hid]
    rfl
  have hoperations : ∀ id ∈ new.operationID, id ∈ d.tables.operations.map OperationRow.id := by
    intro id hid
    by_cases hzero : operationID = 0
    · simp [new, resultRow, hzero] at hid
    · obtain rfl : operationID = id := by simpa [new, resultRow, hzero] using hid
      exact hoperation hzero
  refine (equivalent_upsert OperationResultRow.device .operationResults h.drawOperationResultsID
    (d.valid.references .operationResults) hset (fun row hkey => ?_)
    (unique_operationResults d.valid
      (Table.nodup_map_upsert (d.valid.unique .operationResultsID) (fun _ _ _ => rfl) fun _ => hnew)
      (Table.nodup_upsert (d.valid.unique .operationResultsSequence) hset))
    (fun hdevices => references_operationResults d.valid hdevices ?_) id
    fun hvalid => ?_).congr rfl (referenced_congr (insertResult_eq htexts hsequence d))
  · obtain ⟨htenant, heid, -⟩ := ResultKey.mk.inj hkey
    exact congrArg₂ DeviceKey.mk htenant heid
  · exact Table.forall_mem_upsert (d.valid.references .operationResultsOperation)
      (fun _ _ _ => hoperations) hoperations
  · exact { h.drawOperationResultsID with
      results := h.results.upsert hentry fun old _ hkey =>
        (setResultRow_entry (show old.key = new.key from hkey)).trans hentry
      operationResultsID := Table.forall_mem_upsert h.drawOperationResultsID.operationResultsID
        (fun old hold _ => h.drawOperationResultsID.operationResultsID old hold) le_rfl }

end

/-- The status of the operation that a result is for. -/
theorem Simulates.updateStatus (h : Simulates s d) {tenant : TenantID} {result : EUICCPackageResult}
    {p : OperationRow → Bool} (hp : ∀ row, p row = result.isFor tenant row.toMemoryOperation)
    (hunique : ∀ a ∈ d.tables.operations, ∀ b ∈ d.tables.operations, p a → p b → a.id = b.id) :
    ∃ hvalid : ({ d.tables with
        operations := Table.update p (fun row => row.withStatus result.status)
          d.tables.operations } : Tables).Valid,
      Simulates (s.updateStatus tenant result) { d with
        tables := { d.tables with
          operations := Table.update p (fun row => row.withStatus result.status)
            d.tables.operations }
        valid := hvalid } := by
  set rows := Table.update p (fun row => row.withStatus result.status) d.tables.operations with hrows
  have hids : rows.map OperationRow.id = d.tables.operations.map OperationRow.id :=
    Table.map_update _ fun _ _ _ => rfl
  have hkeys : rows.map OperationRow.key = d.tables.operations.map OperationRow.key :=
    Table.map_update _ fun _ _ _ => rfl
  have hbound : ∀ row ∈ rows, row.id ≤ d.operationsID :=
    Table.forall_mem_update h.operationsID fun _ _ hbound => hbound
  refine ⟨valid_operations d.valid ?_ ?_ ?_ ?_, ?_⟩
  · rw [hids]
    exact nodup_operationsID d
  · rw [hkeys]
    exact nodup_operationsSequence d
  · exact Table.forall_mem_update (d.valid.references .operations) fun _ _ hdevice => hdevice
  · rw [hids]
    exact fun _ hid => hid
  cases hfind : s.operations.entries.find? fun e => result.isFor tenant e.2.val with
  | none =>
      have hsame : s.updateStatus tenant result = s := by
        rw [Store.updateStatus, hfind]
      have hnone : ∀ row ∈ d.tables.operations, p row = false := by
        intro row hrow
        have hentry := (h.operations (operationEntry row)).mp (List.mem_map_of_mem hrow)
        rw [hp]
        exact Bool.eq_false_iff.mpr (List.find?_eq_none.mp hfind _ hentry)
      have hoperations : Table.Holds operationEntry rows s.operations := by
        rw [hrows, Table.update_of_none hnone]
        exact h.operations
      rw [hsame]
      exact { h with operations := hoperations, operationsID := hbound }
  | some e =>
      obtain ⟨row, hrow, rfl⟩ := List.mem_map.mp
        ((h.operations e).mpr (List.mem_of_find?_eq_some hfind))
      have hfound := List.find?_some hfind
      have hrowp : p row := (hp row).trans hfound
      have hchange : s.updateStatus tenant result = { s with
          operations := s.operations.insert row.id
            ⟨row.toMemoryOperation.withStatus result.status, rfl⟩ } := by
        rw [Store.updateStatus, hfind]
        rfl
      rw [hchange]
      refine { h with
        operations := h.operations.update (fun other hother => ⟨fun hother' => ?_, fun hid => ?_⟩)
          ⟨row, hrow, rfl⟩ fun other hother hid => ?_
        operationsID := hbound }
      · exact hunique other hother row hrow hother' hrowp
      · rwa [Table.eq_of_key (nodup_operationsID d) hother hrow hid]
      · rw [Table.eq_of_key (nodup_operationsID d) hother hrow hid]
        rfl

/-- A result is for at most one operation. -/
theorem isFor_unique {tenant : TenantID} {result : EUICCPackageResult} (d : Database) :
    ∀ a ∈ d.tables.operations, ∀ b ∈ d.tables.operations,
      result.isFor tenant a.toMemoryOperation → result.isFor tenant b.toMemoryOperation →
        a.id = b.id := by
  intro a ha b hb hisA hisB
  obtain ⟨htenantA, hisA⟩ := of_decide_eq_true hisA
  obtain ⟨htenantB, hisB⟩ := of_decide_eq_true hisB
  by_cases hzero : result.operationID = 0
  · rw [if_pos hzero] at hisA hisB
    have hkey : a.key = b.key := ResultKey.mk.injEq .. ▸
      ⟨htenantA.trans htenantB.symm, hisA.1.trans hisB.1.symm, hisA.2.trans hisB.2.symm⟩
    rw [Table.eq_of_key (nodup_operationsSequence d) ha hb hkey]
  · rw [if_neg hzero] at hisA hisB
    exact hisA.trans hisB.symm

/-- The statements of `recordEUICCPackageResult` once the device and the sequence number are known. -/
def storeResolved (tenant : TenantID) (operationID : Int) (status : OperationStatus)
    (payload : Option Bytes) (resolved : Bytes × Int) : PgM Unit := do
  referenced (insertResult tenant resolved.1 operationID resolved.2 status payload)
  statement fun t => { t with
    operations := Table.update
      (fun row =>
        if operationID = 0 then row.key = ⟨tenant, resolved.1, resolved.2⟩
        else row.tenantID = tenant ∧ row.id = operationID)
      (fun row => row.withStatus (normalizeResultStatus status)) t.operations }

theorem recordEUICCPackageResult_eq (tenantID : TenantID) (eid : Bytes)
    (operationID sequenceNumber : Int) (status : OperationStatus) (payload : Option Bytes) :
    Postgres.recordEUICCPackageResult tenantID eid operationID sequenceNumber status payload =
      transaction (Postgres.resolveResult (normalizeTenantID tenantID) eid operationID
        sequenceNumber >>= storeResolved (normalizeTenantID tenantID) operationID status payload) :=
  rfl

section

variable {tenant : TenantID} {operationID sequenceNumber : Int} {status : OperationStatus}
  {payload : Bytes}

/-- A result whose device and sequence number are known. -/
theorem equivalent_recordResolved (h : Simulates s d) (htexts : [tenant, eid].all isText)
    (hsequence : 0 < sequenceNumber)
    (hoperation : operationID ≠ 0 → operationID ∈ d.tables.operations.map OperationRow.id)
    {result : EUICCPackageResult} (hresult : result =
      ⟨eid, operationID, sequenceNumber, normalizeResultStatus status, payload⟩)
    {m : PgM Unit}
    (hm : m d = storeResolved tenant operationID status (some payload) (eid, sequenceNumber) d) :
    Equivalent (do
      let _ ← require fun s => s.devices.lookup ⟨tenant, eid⟩
      modify fun s => { s with results := s.results.insert ⟨tenant, eid, sequenceNumber⟩ result }
      modify fun s => s.updateStatus tenant result) (transaction m) s d := by
  subst hresult
  have hinsert : Equivalent _ (referenced
      (insertResult tenant eid operationID sequenceNumber status (some payload))) s d :=
    equivalent_insertResult h htexts hsequence hoperation
  rcases hinsert.cases with ⟨_, s', d', hs, hd, hrelated⟩ | ⟨e, e', s', d', hs, hd, he, hrelated⟩
  · let result : EUICCPackageResult :=
      ⟨eid, operationID, sequenceNumber, normalizeResultStatus status, payload⟩
    have hp : ∀ row : OperationRow,
        (if operationID = 0 then decide (row.key = ⟨tenant, eid, sequenceNumber⟩)
          else decide (row.tenantID = tenant ∧ row.id = operationID)) =
        result.isFor tenant row.toMemoryOperation := by
      intro row
      by_cases hzero : operationID = 0
      · rw [if_pos hzero]
        refine decide_eq_decide.mpr ?_
        rw [if_pos hzero]
        exact (ResultKey.mk.injEq ..).to_iff
      · rw [if_neg hzero]
        refine decide_eq_decide.mpr ?_
        rw [if_neg hzero]
        rfl
    obtain ⟨hvalid, hupdated⟩ := hrelated.updateStatus hp fun a ha b hb hpa hpb =>
      isFor_unique d' a ha b hb ((hp a).symm.trans hpa) ((hp b).symm.trans hpb)
    refine matches_of_ok ?_ (transaction_of_ok (hm.trans ((bind_of_ok hd).trans
      (statement_of_valid hvalid)))) hupdated
    rw [← bind_assoc]
    exact bind_of_ok hs
  · cases hlookup : s.devices.lookup ⟨tenant, eid⟩ with
    | some device =>
        rw [require_of_some hlookup] at hs
        cases hs
    | none =>
        rw [require_of_none hlookup] at hs
        cases hs
        obtain rfl : e' = .store .notFound := he.mp rfl
        obtain ⟨e'', hrun⟩ := referenced_eq_error hd
        have htables : d'.tables = d.tables := by
          rw [statement_error ((insertResult_eq htexts hsequence d).symm.trans hrun)]
        refine equivalent_notFound (require_of_none hlookup)
          (transaction_of_error (hm.trans (bind_of_error hd))) ?_
        rwa [restore_eq htables]

end

theorem equivalent_recordEUICCPackageResult (h : Simulates s d) {operationID sequenceNumber : Int}
    {status : OperationStatus} {payload : Option Bytes}
    (htexts : [normalizeTenantID tenantID].all isText)
    (hbySequence : operationID = 0 → isText eid ∧ 0 < sequenceNumber ∧ payload ≠ none)
    (hbyID : ∀ stored, s.operations.lookup operationID = some stored →
      stored.val.tenantID = normalizeTenantID tenantID → payload ≠ none) :
    Equivalent
      (Storage.recordEUICCPackageResult tenantID
        ⟨eid, operationID, sequenceNumber, status, payload.getD []⟩)
      (Postgres.recordEUICCPackageResult tenantID eid operationID sequenceNumber status payload)
      s d := by
  rw [recordEUICCPackageResult_eq]
  by_cases hzero : operationID = 0
  · obtain ⟨heid, hsequence, hpayload⟩ := hbySequence hzero
    obtain ⟨payload, rfl⟩ := Option.ne_none_iff_exists'.mp hpayload
    subst hzero
    have hpostgres : Postgres.resolveResult (normalizeTenantID tenantID) eid 0 sequenceNumber d =
        (.ok (eid, sequenceNumber), d) := rfl
    refine equivalent_recordResolved h ?_ hsequence (fun hne => absurd rfl hne) rfl
      (bind_of_ok hpostgres)
    simpa [heid] using htexts
  · rcases h.operation_cases (normalizeTenantID tenantID) operationID with
      ⟨hfind, hmissing⟩ | ⟨row, hid, hrow, htenant, hfind, hlookup⟩
    · have hmemory : Storage.resolveResult (normalizeTenantID tenantID)
          ⟨eid, operationID, sequenceNumber, status, payload.getD []⟩ s = (.error .notFound, s) :=
        (congrFun (if_neg hzero) s).trans (requireOperation_of_missing hmissing)
      have hpostgres : Postgres.resolveResult (normalizeTenantID tenantID) eid operationID
          sequenceNumber d = (.error (.store .notFound), d) :=
        (congrFun (if_neg hzero) d).trans
          ((congrFun (parameters_bind htexts _) d).trans (queryRow_of_none hfind))
      exact equivalent_notFound (bind_of_error hmemory)
        (transaction_of_error (bind_of_error hpostgres)) h
    · obtain ⟨payload, rfl⟩ := Option.ne_none_iff_exists'.mp (hbyID _ hlookup htenant)
      have hmemory : Storage.resolveResult (normalizeTenantID tenantID)
          ⟨eid, operationID, sequenceNumber, status, payload⟩ s =
            (.ok ⟨row.operation.eid, operationID, row.operation.sequenceNumber, status, payload⟩,
              s) :=
        (congrFun (if_neg hzero) s).trans (requireOperation_of_found hlookup htenant)
      have hpostgres : Postgres.resolveResult (normalizeTenantID tenantID) eid operationID
          sequenceNumber d = (.ok (row.operation.eid, row.operation.sequenceNumber), d) :=
        (congrFun (if_neg hzero) d).trans
          ((congrFun (parameters_bind htexts _) d).trans (queryRow_of_some hfind))
      have heid : isText row.operation.eid :=
        h.eids row.device (d.valid.references .operations row hrow)
      refine Matches.congr ?_ (bind_of_ok hmemory) rfl
      refine equivalent_recordResolved h ?_ row.sequence_pos (fun _ => ?_) rfl
        (bind_of_ok hpostgres)
      · simpa [heid] using htexts
      · exact List.mem_map.mpr ⟨row, hrow, hid⟩

theorem equivalent_getOperationResult (h : Simulates s d) {operationID : Int}
    (htexts : [normalizeTenantID tenantID].all isText) :
    Equivalent (Storage.getOperationResult tenantID operationID)
      (Postgres.getOperationResult tenantID operationID) s d := by
  refine equivalent_parameters htexts ?_
  have hfilter : (d.tables.operations.filter fun row =>
      row.tenantID = normalizeTenantID tenantID ∧ row.id = operationID) =
        (d.tables.operations.find? fun row =>
          row.tenantID = normalizeTenantID tenantID ∧ row.id = operationID).toList := by
    refine Table.filter_eq_find? (nodup_operationsID d).of_map fun a ha b hb hpa hpb => ?_
    exact Table.eq_of_key (nodup_operationsID d) ha hb
      ((of_decide_eq_true hpa).2.trans (of_decide_eq_true hpb).2.symm)
  have hresults : ∀ key : ResultKey, (d.tables.operationResults.filter fun row => row.key = key) =
      (d.tables.operationResults.find? fun row => row.key = key).toList := by
    intro key
    have hunique : (d.tables.operationResults.map OperationResultRow.key).Nodup :=
      d.valid.unique .operationResultsSequence
    refine Table.filter_eq_find? hunique.of_map fun a ha b hb hpa hpb => ?_
    exact Table.eq_of_key hunique ha hb ((of_decide_eq_true hpa).trans (of_decide_eq_true hpb).symm)
  rw [← bind_pure (queryRow _)]
  rcases h.operation_cases (normalizeTenantID tenantID) operationID with
    ⟨hfind, hmissing⟩ | ⟨row, hid, -, htenant, hfind, hlookup⟩
  · refine equivalent_notFound (bind_of_error (requireOperation_of_missing hmissing))
      (queryRow_of_none ?_) h
    rw [Tables.joinResults, hfilter, hfind]
    rfl
  have hmemory : Storage.getOperation tenantID operationID s = (.ok row.operation, s) :=
    requireOperation_of_found hlookup htenant
  have hkey : row.key = ⟨normalizeTenantID tenantID, row.operation.eid,
      row.operation.sequenceNumber⟩ := by rw [OperationRow.key, htenant]
  have hjoin : (d.tables.joinResults (normalizeTenantID tenantID) operationID).head? =
      (d.tables.operationResults.find? fun result => result.key = row.key).map fun result =>
        ⟨row.id, result.eid, result.sequenceNumber, result.status, result.payload⟩ := by
    rw [Tables.joinResults, hfilter, hfind]
    cases hresult : d.tables.operationResults.find? fun result => result.key = row.key <;>
      simp [hresults, hresult]
  rcases h.results.find?_cases row.key with ⟨hresult, hnone⟩ | ⟨result, stored, hresult, hsome, hentry⟩
  · refine equivalent_notFound ((bind_of_ok hmemory).trans (require_of_none (hkey ▸ hnone)))
      (queryRow_of_none ?_) h
    exact hjoin.trans (congrArg _ hresult)
  · obtain rfl : (resultEntry result).2 = stored := eq_of_heq (Sigma.mk.inj hentry).2
    refine matches_of_ok ((bind_of_ok hmemory).trans (require_of_some (hkey ▸ hsome)))
      (queryRow_of_some (hjoin.trans (congrArg _ hresult))) h

end OpenIotRsp.Storage
