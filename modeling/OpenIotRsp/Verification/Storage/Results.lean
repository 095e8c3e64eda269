import OpenIotRsp.Verification.Storage.Numbering

/-!
# Status and result of an operation

A result is stored under the device and sequence number of its operation, and
the operation takes its status.  The two agree as long as no result is recorded
for a sequence number that the queue of the device has not reached.
-/

namespace OpenIotRsp.Storage

open Octets Stateful Server

variable {log : List MemoryOperation} {tenantID : TenantID}

/-! ## Recording -/

/-- The result that is recorded: one that names its operation is for the device and sequence number
of that operation. -/
inductive ResolvesTo (s : Store) (tenantID : TenantID) (result : EUICCPackageResult) :
    EUICCPackageResult → Prop
  | plain (hid : result.operationID = 0) : ResolvesTo s tenantID result result
  | named {stored : MemoryOperation} (hid : result.operationID ≠ 0)
      (hmem : stored ∈ s.allOperations) (htenant : stored.tenantID = tenantID)
      (hstored : stored.operation.id = result.operationID) :
      ResolvesTo s tenantID result
        { result with
          eid := stored.operation.eid
          sequenceNumber := stored.operation.sequenceNumber }

theorem resolveResult_cases (tenantID : TenantID) (result : EUICCPackageResult) (s : Store) :
    resolveResult tenantID result s = (.error .notFound, s) ∨
      ∃ resolved, ResolvesTo s tenantID result resolved ∧
        resolveResult tenantID result s = (.ok resolved, s) := by
  by_cases hid : result.operationID = 0
  · exact .inr ⟨result, .plain hid, by rw [resolveResult, if_pos hid]; rfl⟩
  · rw [resolveResult, if_neg hid]
    cases hlookup : s.operations.lookup result.operationID with
    | none => exact .inl (require_of_none hlookup)
    | some stored =>
        rw [require_of_some hlookup]
        by_cases htenant : stored.val.tenantID = tenantID
        · refine .inr ⟨_, .named hid (mem_allOperations_of_lookup hlookup) htenant
            stored.property, ?_⟩
          rw [if_pos htenant, pure_apply]
        · exact .inl (by rw [if_neg htenant, fail_apply])

/-- The store with a result, and with the status of its operation. -/
def Store.withResult (s : Store) (tenantID : TenantID) (result : EUICCPackageResult) : Store :=
  Store.updateStatus
    { s with results := s.results.insert ⟨tenantID, result.eid, result.sequenceNumber⟩ result }
    tenantID result

/-- A result is recorded for a registered device only. -/
theorem recordEUICCPackageResult_cases (tenantID : TenantID) (result : EUICCPackageResult)
    (s : Store) :
    recordEUICCPackageResult tenantID result s = (.error .notFound, s) ∨
      ∃ resolved device, ResolvesTo s (normalizeTenantID tenantID) result resolved ∧
        s.devices.lookup ⟨normalizeTenantID tenantID, resolved.eid⟩ = some device ∧
        recordEUICCPackageResult tenantID result s =
          (.ok (), s.withResult (normalizeTenantID tenantID)
            { resolved with status := normalizeResultStatus resolved.status }) := by
  rcases resolveResult_cases (normalizeTenantID tenantID) result s with hrun | ⟨resolved, h, hrun⟩
  · exact .inl (bind_of_error hrun)
  · have hrest := bind_of_ok hrun (k := fun resolved => do
      let _ ← require fun s => s.devices.lookup ⟨normalizeTenantID tenantID, resolved.eid⟩
      let resolved := { resolved with status := normalizeResultStatus resolved.status }
      modify fun s =>
        { s with
          results := s.results.insert
            ⟨normalizeTenantID tenantID, resolved.eid, resolved.sequenceNumber⟩ resolved }
      modify fun s => s.updateStatus (normalizeTenantID tenantID) resolved)
    cases hdevice : s.devices.lookup ⟨normalizeTenantID tenantID, resolved.eid⟩ with
    | none => exact .inl (hrest.trans (require_of_none hdevice))
    | some device => exact .inr ⟨resolved, device, h, hdevice, hrest.trans (require_of_some hdevice)⟩

/-! ## Agreement -/

/-- The result stored for the device and sequence number of the operation. -/
def Store.resultOf (s : Store) (stored : MemoryOperation) : Option EUICCPackageResult :=
  s.results.lookup ⟨stored.tenantID, stored.operation.eid, stored.operation.sequenceNumber⟩

/-- Operations without a result are pending, and the others have the status of their result; every
result is for a number that the queue of its device has reached. -/
structure Agreed (s : Store) : Prop where
  pending : ∀ stored ∈ s.allOperations, s.resultOf stored = none →
    stored.operation.status = .pending
  status : ∀ stored ∈ s.allOperations, ∀ result, s.resultOf stored = some result →
    stored.operation.status = result.status
  final : ∀ key result, s.results.lookup key = some result →
    result.status = .done ∨ result.status = .failed
  reached : ∀ key result, s.results.lookup key = some result →
    ∃ device, s.devices.lookup ⟨key.tenantID, key.eid⟩ = some device ∧
      key.sequenceNumber < device.nextSequence

/-- A result that names no operation is not recorded ahead of the queue of its device. -/
def StoreCall.NotAhead (s : Store) : StoreCall → Prop
  | .recordEUICCPackageResult tenantID eid operationID sequenceNumber _ _ =>
      operationID = 0 → ∀ device, s.devices.lookup (newDeviceKey tenantID eid) = some device →
        sequenceNumber < device.nextSequence
  | _ => True

theorem agreed_new : Agreed Store.new where
  pending _ h := nomatch h
  status _ h := nomatch h
  final _ _ h := nomatch h
  reached _ _ h := nomatch h

section

variable {s s' : Store}

/-- Agreement depends on operations and results, and on devices whose queues do not go back. -/
theorem Agreed.of_devices (h : Agreed s) (hoperations : s'.operations = s.operations)
    (hresults : s'.results = s.results)
    (hdevices : ∀ key device, s.devices.lookup key = some device →
      ∃ device', s'.devices.lookup key = some device' ∧
        device.nextSequence ≤ device'.nextSequence) : Agreed s' where
  pending stored hmem hresult := by
    rw [Store.allOperations, hoperations] at hmem
    rw [Store.resultOf, hresults] at hresult
    exact h.pending stored hmem hresult
  status stored hmem result hresult := by
    rw [Store.allOperations, hoperations] at hmem
    rw [Store.resultOf, hresults] at hresult
    exact h.status stored hmem result hresult
  final key result hresult := h.final key result (hresults ▸ hresult)
  reached key result hresult := by
    obtain ⟨device, hdevice, hlt⟩ := h.reached key result (hresults ▸ hresult)
    obtain ⟨device', hdevice', hle⟩ := hdevices _ device hdevice
    exact ⟨device', hdevice', hlt.trans_le hle⟩

theorem Agreed.registerDevice (h : Agreed s) (tenantID : TenantID) (eid : Bytes) :
    Agreed (registerDevice tenantID eid s).2 := by
  rw [registerDevice_apply]
  cases hdevice : s.devices.lookup (newDeviceKey tenantID eid) with
  | some device => exact h
  | none =>
      refine h.of_devices rfl rfl fun key device hkey => ⟨device, ?_, le_rfl⟩
      have hne : key ≠ newDeviceKey tenantID eid := by
        rintro rfl
        rw [hdevice] at hkey
        cases hkey
      rw [← hkey]
      exact AList.lookup_insert_ne hne

/-- A device whose queue goes on. -/
theorem lookup_insert_device {key key' : DeviceKey} {device device' old : MemoryDevice}
    (hdevice : s.devices.lookup key = some device)
    (hle : device.nextSequence ≤ device'.nextSequence)
    (hold : s.devices.lookup key' = some old) :
    ∃ new, (s.devices.insert key device').lookup key' = some new ∧
      old.nextSequence ≤ new.nextSequence := by
  by_cases hkey : key' = key
  · subst hkey
    obtain rfl := Option.some.inj (hdevice.symm.trans hold)
    exact ⟨device', AList.lookup_insert _, hle⟩
  · exact ⟨old, by rw [AList.lookup_insert_ne hkey, hold], le_rfl⟩

theorem Agreed.nextEUICCPackageCounter (h : Agreed s) (tenantID : TenantID) (eid : Bytes) :
    Agreed (nextEUICCPackageCounter tenantID eid s).2 := by
  rw [nextEUICCPackageCounter_apply]
  cases hdevice : s.devices.lookup (newDeviceKey tenantID eid) with
  | none => exact h
  | some device =>
      refine h.of_devices rfl rfl fun key old hold => ?_
      exact lookup_insert_device hdevice (by simp) hold

/-- A new operation is ahead of the results of its device. -/
theorem Agreed.enqueueOperation (h : Agreed s) (tenantID : TenantID) (request : OperationRequest) :
    Agreed (enqueueOperation tenantID request s).2 := by
  rw [enqueueOperation_apply]
  cases hdevice : s.devices.lookup (newDeviceKey tenantID request.eid) with
  | none => exact h
  | some device =>
      have hold : ∀ stored ∈ (s.enqueued (newDeviceKey tenantID request.eid) device
          (s.newOperation device request)).allOperations,
          stored = ⟨normalizeTenantID tenantID, s.newOperation device request⟩ ∨
            stored ∈ s.allOperations := by
        intro stored hstored
        obtain ⟨row, hrow, rfl⟩ := mem_allOperations.mp hstored
        rcases Table.mem_entries_insert.mp hrow with rfl | ⟨hrow, -⟩
        · exact .inl rfl
        · exact .inr (mem_allOperations.mpr ⟨row, hrow, rfl⟩)
      have hnew : s.resultOf ⟨normalizeTenantID tenantID, s.newOperation device request⟩ = none := by
        cases hresult : s.resultOf ⟨normalizeTenantID tenantID, s.newOperation device request⟩ with
        | none => rfl
        | some result =>
            obtain ⟨device', hdevice', hlt⟩ := h.reached _ result hresult
            obtain rfl := Option.some.inj (hdevice.symm.trans hdevice')
            exact absurd hlt (lt_irrefl _)
      refine ⟨fun stored hmem hresult => ?_, fun stored hmem result hresult => ?_, h.final,
        fun key result hresult => ?_⟩
      · rcases hold stored hmem with rfl | hstored
        · rfl
        · exact h.pending stored hstored hresult
      · rcases hold stored hmem with rfl | hstored
        · exact absurd (hnew.symm.trans hresult) (by simp)
        · exact h.status stored hstored result hresult
      · obtain ⟨old, hdevice', hlt⟩ := h.reached key result hresult
        have hnext : device.nextSequence ≤
            ({ device with nextSequence := device.nextSequence + 1 } : MemoryDevice).nextSequence :=
          (lt_add_one _).le
        obtain ⟨new, hnew, hle⟩ := lookup_insert_device hdevice hnext hdevice'
        exact ⟨new, hnew, hlt.trans_le hle⟩

/-- Two operations of one device with the same sequence number are the same. -/
theorem Logged.eq_of_sequence (h : Logged (ledger s) log) {a b : MemoryOperation}
    (ha : a ∈ s.allOperations) (hb : b ∈ s.allOperations) (hdevice : a.device = b.device)
    (hsequence : a.operation.sequenceNumber = b.operation.sequenceNumber) :
    a.operation.id = b.operation.id := by
  have hlogged : ∀ stored ∈ s.allOperations, stored.device = b.device →
      stored.operation.asQueued ∈ (ofDevice b.device log).map MemoryOperation.operation := by
    intro stored hstored heq
    exact h.mem_iff.mpr ⟨_, heq ▸ queued_of_mem_allOperations hstored, rfl⟩
  have heq : a.operation.asQueued = b.operation.asQueued :=
    h.increasing_log.eq_of_key (hlogged a ha hdevice) (hlogged b hb rfl) hsequence
  have hid : a.operation.asQueued.id = b.operation.asQueued.id := by rw [heq]
  exact hid

/-- The queue of a device is ahead of its operations. -/
theorem Logged.reached (h : Logged (ledger s) log) {stored : MemoryOperation}
    (hmem : stored ∈ s.allOperations) {device : MemoryDevice}
    (hdevice : s.devices.lookup stored.device = some device) :
    stored.operation.sequenceNumber < device.nextSequence := by
  have hlogged := h.mem_iff.mpr ⟨_, queued_of_mem_allOperations hmem, rfl⟩
  have hnumber : stored.operation.sequenceNumber ∈
      (ofDevice stored.device log).map fun stored => stored.operation.sequenceNumber := by
    obtain ⟨logged, hlogged, heq⟩ := List.mem_map.mp hlogged
    exact List.mem_map.mpr ⟨logged, hlogged, by rw [heq]; rfl⟩
  have hnext : (ledger s).nextSequence stored.device = device.nextSequence := by
    simp [ledger, hdevice]
  rw [h.sequences] at hnumber
  rw [h.nextSequence] at hnext
  simp only [numbers, List.mem_map, List.mem_range] at hnumber
  omega

/-- The result is for the operations under whose device and sequence number it is stored. -/
theorem ResolvesTo.isFor_iff (hlog : Logged (ledger s) log) {result resolved : EUICCPackageResult}
    {status : OperationStatus} (h : ResolvesTo s tenantID result resolved)
    {stored : MemoryOperation} (hmem : stored ∈ s.allOperations) :
    ({ resolved with status := status } : EUICCPackageResult).isFor tenantID stored ↔
      stored.tenantID = tenantID ∧ stored.operation.eid = resolved.eid ∧
        stored.operation.sequenceNumber = resolved.sequenceNumber := by
  cases h with
  | plain hid => simp [EUICCPackageResult.isFor, hid]
  | @named named hid hnamed htenant hnamed_id =>
      simp only [EUICCPackageResult.isFor, hid, if_false, decide_eq_true_eq]
      constructor
      · rintro ⟨htenant', hid'⟩
        obtain rfl := eq_of_id hmem hnamed (hid'.trans hnamed_id.symm)
        exact ⟨htenant', rfl, rfl⟩
      · rintro ⟨htenant', heid, hsequence⟩
        refine ⟨htenant', (hlog.eq_of_sequence hmem hnamed ?_ hsequence).trans hnamed_id⟩
        rw [MemoryOperation.device, MemoryOperation.device, htenant', htenant, heid]

/-- The operations under whose device and sequence number a result is stored take its status. -/
theorem Agreed.withResult (h : Agreed s) (hlog : Logged (ledger s) log)
    {result : EUICCPackageResult} {device : MemoryDevice}
    (hfor : ∀ stored ∈ s.allOperations, (result.isFor tenantID stored ↔
      stored.tenantID = tenantID ∧ stored.operation.eid = result.eid ∧
        stored.operation.sequenceNumber = result.sequenceNumber))
    (hfinal : result.status = .done ∨ result.status = .failed)
    (hdevice : s.devices.lookup ⟨tenantID, result.eid⟩ = some device)
    (hreached : result.sequenceNumber < device.nextSequence) :
    Agreed (s.withResult tenantID result) := by
  have hunique : ∀ a ∈ s.allOperations, ∀ b ∈ s.allOperations, result.isFor tenantID a →
      result.isFor tenantID b → a.operation.id = b.operation.id := by
    intro a ha b hb hfora hforb
    obtain ⟨htenant, heid, hsequence⟩ := (hfor a ha).mp hfora
    obtain ⟨htenant', heid', hsequence'⟩ := (hfor b hb).mp hforb
    refine hlog.eq_of_sequence ha hb ?_ (hsequence.trans hsequence'.symm)
    rw [MemoryOperation.device, MemoryOperation.device, htenant, htenant', heid, heid']
  have hmem : ∀ {stored}, stored ∈ (s.withResult tenantID result).allOperations ↔
      ∃ old ∈ s.allOperations, result.updated tenantID old = stored :=
    fun {stored} => mem_allOperations_updateStatus (s := { s with
      results := s.results.insert ⟨tenantID, result.eid, result.sequenceNumber⟩ result }) hunique
  have hresults : (s.withResult tenantID result).results =
      s.results.insert ⟨tenantID, result.eid, result.sequenceNumber⟩ result :=
    updateStatus_keeps (f := Store.results) (fun _ _ => rfl) _ _ _
  have hdevices : (s.withResult tenantID result).devices = s.devices :=
    updateStatus_keeps (f := Store.devices) (fun _ _ => rfl) _ _ _
  -- the result of an operation is the new one if it is for the operation, and else the old one
  have hresultOf : ∀ old ∈ s.allOperations,
      (s.withResult tenantID result).resultOf (result.updated tenantID old) =
        if result.isFor tenantID old then some result else s.resultOf old := by
    intro old hold
    rw [Store.resultOf, hresults]
    by_cases hisFor : result.isFor tenantID old
    · obtain ⟨htenant, heid, hsequence⟩ := (hfor old hold).mp hisFor
      rw [if_pos hisFor, EUICCPackageResult.updated, if_pos hisFor, ← htenant, ← heid, ← hsequence]
      exact AList.lookup_insert _
    · rw [if_neg hisFor, EUICCPackageResult.updated_of_not_isFor hisFor]
      refine AList.lookup_insert_ne fun heq => hisFor ((hfor old hold).mpr ?_)
      obtain ⟨htenant, heid, hsequence⟩ := ResultKey.mk.inj heq
      exact ⟨htenant, heid, hsequence⟩
  refine ⟨fun stored hstored hnone => ?_, fun stored hstored r hsome => ?_, fun key r hr => ?_,
    fun key r hr => ?_⟩
  · obtain ⟨old, hold, rfl⟩ := hmem.mp hstored
    rw [hresultOf old hold] at hnone
    split at hnone
    next => cases hnone
    next hisFor =>
        rw [EUICCPackageResult.updated_of_not_isFor hisFor]
        exact h.pending old hold hnone
  · obtain ⟨old, hold, rfl⟩ := hmem.mp hstored
    rw [hresultOf old hold] at hsome
    split at hsome
    next hisFor =>
        obtain rfl := Option.some.inj hsome
        rw [EUICCPackageResult.updated, if_pos hisFor]
        rfl
    next hisFor =>
        rw [EUICCPackageResult.updated_of_not_isFor hisFor]
        exact h.status old hold r hsome
  · rw [hresults] at hr
    by_cases hkey : key = ⟨tenantID, result.eid, result.sequenceNumber⟩
    · subst hkey
      obtain rfl := Option.some.inj ((AList.lookup_insert _).symm.trans hr)
      exact hfinal
    · exact h.final key r ((AList.lookup_insert_ne hkey).symm.trans hr)
  · rw [hdevices]
    rw [hresults] at hr
    by_cases hkey : key = ⟨tenantID, result.eid, result.sequenceNumber⟩
    · subst hkey
      exact ⟨device, hdevice, hreached⟩
    · exact h.reached key r ((AList.lookup_insert_ne hkey).symm.trans hr)

theorem Agreed.recordEUICCPackageResult (h : Agreed s) (hlog : Logged (ledger s) log)
    (tenantID : TenantID) (result : EUICCPackageResult) (hahead : result.operationID = 0 → ∀ device,
      s.devices.lookup (newDeviceKey tenantID result.eid) = some device →
        result.sequenceNumber < device.nextSequence) :
    Agreed (recordEUICCPackageResult tenantID result s).2 := by
  rcases recordEUICCPackageResult_cases tenantID result s with
    hrun | ⟨resolved, device, hresolves, hdevice, hrun⟩
  · rw [hrun]
    exact h
  · rw [hrun]
    refine h.withResult hlog (fun stored hstored => hresolves.isFor_iff hlog hstored) ?_ hdevice ?_
    · exact normalizeResultStatus_final _
    · cases hresolves with
      | plain hid => exact hahead hid device hdevice
      | named hid hmem htenant =>
          refine hlog.reached hmem ?_
          rw [MemoryOperation.device, htenant]
          exact hdevice

theorem agreed_step (h : Agreed s) (hlog : Logged (ledger s) log) {call : StoreCall}
    (hcall : call.NotAhead s) : Agreed (StoreCall.step s call) := by
  have hstate : ∀ {α : Type} (m : StoreM α) (reply : α → StoreReply), Agreed (m s).2 →
      Agreed ((do return reply (← m)) s : Except Error StoreReply × Store).2 := by
    intro α m reply hm
    rwa [bind_state_of_readOnly fun _ _ => rfl]
  cases hwrites : call.writesQueue with
  | false =>
      have hkeeps : Keeps (fun s : Store => (s.operations, s.results, s.devices)) call.memory :=
        StoreCall.keeps_memory (fun _ _ _ _ _ _ => rfl) hwrites
      obtain ⟨hoperations, hrest⟩ := Prod.mk.inj (hkeeps s)
      obtain ⟨hresults, hdevices⟩ := Prod.mk.inj hrest
      refine h.of_devices hoperations hresults fun key device hkey => ⟨device, ?_, le_rfl⟩
      rw [← hkey]
      exact congrArg (AList.lookup key) hdevices
  | true =>
      cases call with
      | registerDevice tenantID eid =>
          exact hstate _ (fun _ => .done) (h.registerDevice tenantID eid)
      | nextEUICCPackageCounter tenantID eid =>
          exact hstate _ .counter (h.nextEUICCPackageCounter tenantID eid)
      | enqueueOperation tenantID eid kind payload =>
          exact hstate _ .operation (h.enqueueOperation tenantID ⟨eid, kind, payload.getD []⟩)
      | recordEUICCPackageResult tenantID eid operationID sequenceNumber status payload =>
          exact hstate _ (fun _ => .done) (h.recordEUICCPackageResult hlog tenantID
            ⟨eid, operationID, sequenceNumber, status, payload.getD []⟩ hcall)
      | _ => cases hwrites

end

theorem agreed_after {calls : List StoreCall}
    (h : Run.Meets StoreCall.step StoreCall.NotAhead Store.new calls) :
    Agreed (StoreCall.after calls) := by
  have hinvariant := h.invariant (P := fun s => Agreed s ∧ ∃ log, Logged (ledger s) log)
    (fun s call ⟨hagreed, log, hlog⟩ hcall =>
      ⟨agreed_step hagreed hlog hcall, _, logged_step hlog call⟩) ⟨agreed_new, [], logged_new⟩
  exact hinvariant.1

theorem getOperation_eq_ok {s : Store} {operationID : Int} {operation : Operation}
    (h : (getOperation tenantID operationID s).1 = .ok operation) :
    (⟨normalizeTenantID tenantID, operation⟩ : MemoryOperation) ∈ s.allOperations := by
  rw [getOperation] at h
  cases hlookup : s.operations.lookup operationID with
  | none =>
      rw [require_of_none hlookup] at h
      cases h
  | some stored =>
      rw [require_of_some hlookup] at h
      split at h
      next htenant =>
          obtain rfl := Except.ok.inj h
          rw [← htenant]
          exact mem_allOperations_of_lookup hlookup
      next => cases h

theorem getOperationResult_of_getOperation {s : Store} {operationID : Int} {operation : Operation}
    (h : (getOperation tenantID operationID s).1 = .ok operation) :
    (getOperationResult tenantID operationID s).1 =
      match s.resultOf ⟨normalizeTenantID tenantID, operation⟩ with
      | none => .error .notFound
      | some result => .ok ⟨operation.id, result.eid, result.sequenceNumber, result.status,
          result.payload⟩ := by
  have hrun : getOperation tenantID operationID s = (.ok operation, s) :=
    Prod.ext h (keeps_getOperation id _ _ s)
  rw [getOperationResult, bind_of_ok hrun]
  cases hresult : s.resultOf ⟨normalizeTenantID tenantID, operation⟩ with
  | none => exact congrArg Prod.fst (require_of_none hresult)
  | some result => exact congrArg Prod.fst (require_of_some hresult)

/-- In every state that calls lead to, none of which records a result ahead of the queue, an
operation has a result exactly if it is done or failed, and the status of its result. -/
theorem result_iff_completed {calls : List StoreCall}
    (h : Run.Meets StoreCall.step StoreCall.NotAhead Store.new calls) {tenantID : TenantID}
    {operationID : Int} {operation : Operation}
    (hoperation : (getOperation tenantID operationID (StoreCall.after calls)).1 = .ok operation) :
    ((getOperationResult tenantID operationID (StoreCall.after calls)).1.isOk ↔
      operation.status = .done ∨ operation.status = .failed) ∧
    (∀ result, (getOperationResult tenantID operationID (StoreCall.after calls)).1 = .ok result →
      result.status = operation.status) ∧
    (operation.status = .pending →
      (getOperationResult tenantID operationID (StoreCall.after calls)).1 = .error .notFound) := by
  have hagreed := agreed_after h
  have hmem := getOperation_eq_ok hoperation
  rw [getOperationResult_of_getOperation hoperation]
  cases hresult : (StoreCall.after calls).resultOf ⟨normalizeTenantID tenantID, operation⟩ with
  | none =>
      have hpending : operation.status = .pending := hagreed.pending _ hmem hresult
      simp [hpending, Except.isOk, Except.toBool]
  | some result =>
      have hstatus : operation.status = result.status := hagreed.status _ hmem result hresult
      have hfinal := hagreed.final _ result hresult
      rw [hstatus]
      refine ⟨⟨fun _ => hfinal, fun _ => rfl⟩, ?_, fun hpending => ?_⟩
      · rintro _ hok
        obtain rfl := Except.ok.inj hok
        rfl
      · rcases hfinal with hdone | hfailed
        · rw [hdone] at hpending
          cases hpending
        · rw [hfailed] at hpending
          cases hpending

/-! A device, an operation for it and a result for its first sequence number, in two orders. -/

def sampleRecording : List StoreCall :=
  [.registerDevice [] [0x01], .enqueueOperation [] [0x01] .euiccPackage none,
    .recordEUICCPackageResult [] [0x01] 0 1 .failed none]

def sampleRecordingAhead : List StoreCall :=
  [.registerDevice [] [0x01], .recordEUICCPackageResult [] [0x01] 0 1 .done none,
    .enqueueOperation [] [0x01] .euiccPackage none]

theorem result_iff_completed_recorded :
    (getOperationResult [] 1 (StoreCall.after sampleRecording)).1.isOk ↔
      OperationStatus.failed = .done ∨ OperationStatus.failed = .failed := by
  have hoperation : (getOperation [] 1 (StoreCall.after sampleRecording)).1 =
      .ok ⟨1, [0x01], 1, .euiccPackage, [], .failed⟩ := by
    decide
  have hmeets : Run.Meets StoreCall.step StoreCall.NotAhead Store.new sampleRecording := by
    refine ⟨trivial, trivial, fun _ device hdevice => ?_, trivial⟩
    obtain rfl := Option.some.inj hdevice
    decide
  exact (result_iff_completed hmeets hoperation).1

/-- A result recorded for the number that the queue gives out next is the result of an operation
that is still to be delivered. -/
theorem pending_operation_with_result :
    ((getOperation [] 1 (StoreCall.after sampleRecordingAhead)).1.map Operation.status).toOption =
        some .pending ∧
      ((getOperationResult [] 1 (StoreCall.after sampleRecordingAhead)).1.map
        OperationResult.status).toOption = some .done := by
  decide

end OpenIotRsp.Storage
