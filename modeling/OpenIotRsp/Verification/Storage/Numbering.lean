import OpenIotRsp.Library.Increasing
import OpenIotRsp.Model.Storage.Call
import OpenIotRsp.Verification.Server.Counters

/-!
# Numbering of the queue

The operations that the calls of a run have queued, in the order in which they
were queued, say everything about the queue but the status of an operation: the
identifiers count all of them, the sequence numbers those of each device.
-/

namespace OpenIotRsp.Storage

open Octets Stateful Server

/-! ## What a run has queued -/

/-! ## What calls leave alone -/

def StoreCall.isMutation : StoreCall → Bool
  | registerDevice .. => true
  | setProfileState .. => true
  | deleteProfileState .. => true
  | setEUICCState .. => true
  | nextEUICCPackageCounter .. => true
  | enqueueOperation .. => true
  | recordEUICCPackageResult .. => true
  | storeEIMConfig .. => true
  | setAssociatedEIM .. => true
  | deleteAssociatedEIM .. => true
  | storeNotification .. => true
  | _ => false

theorem StoreCall.readOnly_memory {call : StoreCall} (hcall : call.isMutation = false) :
    ReadOnly call.memory := by
  have hreply : ∀ {α : Type} {m : StoreM α} (reply : α → StoreReply), ReadOnly m →
      ReadOnly (do return reply (← m)) := fun reply hm => (hm.keeps id).bind fun _ => keeps_pure id _
  cases call with
  | getProfileState => exact hreply _ (keeps_getProfileState id _ _ _)
  | listProfileStates => exact hreply _ (keeps_listProfileStates id _ _)
  | getEUICCState => exact hreply _ (keeps_getEUICCState id _ _)
  | getOperation => exact hreply _ (keeps_getOperation id _ _)
  | getOperationBySequence => exact hreply _ (keeps_require id _)
  | fetchPendingOperations => exact hreply _ (keeps_get id _)
  | listOperations => exact hreply _ (keeps_get id _)
  | listPendingOperations => exact hreply _ (keeps_get id _)
  | getOperationResult => exact hreply _ (keeps_getOperationResult id _ _)
  | readEIMConfig => exact hreply _ (keeps_require id _)
  | getAssociatedEIM => exact hreply _ (keeps_require id _)
  | listAssociatedEIMs => exact hreply _ (keeps_listAssociatedEIMs id _ _)
  | listNotifications => exact hreply _ (keeps_listNotifications id _ _)
  | _ => cases hcall

/-- The calls that write to devices, operations or results. -/
def StoreCall.writesQueue : StoreCall → Bool
  | .registerDevice .. => true
  | .nextEUICCPackageCounter .. => true
  | .enqueueOperation .. => true
  | .recordEUICCPackageResult .. => true
  | _ => false

/-- Every other call keeps what does not depend on the state of a device. -/
theorem StoreCall.keeps_memory {γ : Type} {f : Store → γ}
    (hf : ∀ (s : Store) profileStates euiccStates associatedEIMs eimConfigs notifications,
      f { s with
        profileStates := profileStates
        euiccStates := euiccStates
        associatedEIMs := associatedEIMs
        eimConfigs := eimConfigs
        notifications := notifications } = f s)
    {call : StoreCall} (hcall : call.writesQueue = false) : Keeps f call.memory := by
  have hstate : ∀ tenantID eid, IgnoresState f tenantID eid := fun _ _ =>
    ignoresState_of_forall fun s profileStates euiccStates associatedEIMs =>
      hf s profileStates euiccStates associatedEIMs s.eimConfigs s.notifications
  have hreply : ∀ {α : Type} {m : StoreM α} (reply : α → StoreReply), Keeps f m →
      Keeps f (do return reply (← m)) := fun reply hm => hm.bind fun _ => keeps_pure f _
  cases call with
  | registerDevice => cases hcall
  | nextEUICCPackageCounter => cases hcall
  | enqueueOperation => cases hcall
  | recordEUICCPackageResult => cases hcall
  | setProfileState tenantID state =>
      exact hreply (fun _ => .done) ((hstate tenantID _).setProfile state rfl)
  | deleteProfileState tenantID eid iccid =>
      exact hreply (fun _ => .done) ((hstate tenantID eid).deleteProfile iccid)
  | setEUICCState tenantID state =>
      exact hreply (fun _ => .done) ((hstate tenantID _).setEUICC state rfl)
  | storeEIMConfig tenantID eimID data =>
      refine hreply (fun _ => .done) (keeps_modify fun s => ?_)
      exact hf s s.profileStates s.euiccStates s.associatedEIMs _ s.notifications
  | setAssociatedEIM tenantID eid =>
      exact hreply (fun _ => .done) ((hstate tenantID eid).setEIM _ rfl)
  | deleteAssociatedEIM tenantID eid eimID =>
      exact hreply (fun _ => .done) ((hstate tenantID eid).deleteEIM eimID)
  | storeNotification =>
      refine hreply (fun _ => .done) (keeps_storeNotification fun s => ?_)
      exact hf s s.profileStates s.euiccStates s.associatedEIMs s.eimConfigs _
  | _ => exact (StoreCall.readOnly_memory rfl).keeps f

/-- The operation that a call queues, in the state in which it is made. -/
def StoreCall.enqueued (s : Store) : StoreCall → List MemoryOperation
  | .enqueueOperation tenantID eid kind payload =>
      match (Storage.enqueueOperation tenantID ⟨eid, kind, payload.getD []⟩ s).1 with
      | .ok operation => [⟨normalizeTenantID tenantID, operation⟩]
      | .error _ => []
  | _ => []

/-- The operations that the calls queue, the oldest first. -/
def StoreCall.log : Store → List StoreCall → List MemoryOperation
  | _, [] => []
  | s, call :: calls => call.enqueued s ++ log (call.step s) calls

/-- One, two and so on. -/
def numbers (n : Nat) : List Int := (List.range n).map fun i : Nat => (i : Int) + 1

theorem numbers_succ (n : Nat) : numbers (n + 1) = numbers n ++ [(n : Int) + 1] := by
  simp [numbers, List.range_succ]

theorem pairwise_numbers (n : Nat) : (numbers n).Pairwise (· < ·) := by
  rw [numbers, List.pairwise_map]
  exact List.pairwise_lt_range.imp fun h => by omega

/-- The operations of one device. -/
def ofDevice (key : DeviceKey) (log : List MemoryOperation) : List MemoryOperation :=
  log.filter fun stored => stored.device = key

/-- The ledger is the one that queueing the operations has left. -/
structure Logged (l : Ledger) (log : List MemoryOperation) : Prop where
  nextID : l.nextID = log.length + 1
  ids : log.map (fun stored => stored.operation.id) = numbers log.length
  entries : ∀ {id e}, l.entries id = some e ↔
    ∃ stored ∈ log, stored.operation.id = id ∧ entryOf stored = e
  nextSequence : ∀ key, l.nextSequence key = (ofDevice key log).length + 1
  sequences : ∀ key, (ofDevice key log).map (fun stored => stored.operation.sequenceNumber) =
    numbers (ofDevice key log).length
  pending : ∀ stored ∈ log, stored.operation.status = .pending

theorem logged_new : Logged (ledger Store.new) [] where
  nextID := rfl
  ids := rfl
  entries := by simp [ledger, Store.new]
  nextSequence _ := rfl
  sequences _ := rfl
  pending := by simp

/-- The log goes on with an operation that takes the next numbers. -/
theorem Logged.enqueue {l : Ledger} {log : List MemoryOperation} (h : Logged l log)
    (stored : MemoryOperation) (hid : stored.operation.id = l.nextID)
    (hsequence : stored.operation.sequenceNumber = l.nextSequence stored.device)
    (hpending : stored.operation.status = .pending) :
    Logged (l.enqueue stored.device stored.operation.kind stored.operation.payload)
      (log ++ [stored]) := by
  have hofDevice : ∀ key, ofDevice key (log ++ [stored]) =
      if stored.device = key then ofDevice key log ++ [stored] else ofDevice key log := by
    intro key
    by_cases hkey : stored.device = key <;> simp [ofDevice, hkey]
  constructor
  case nextID => simp [Ledger.enqueue, h.nextID]
  case ids => simp [h.ids, hid, h.nextID, numbers_succ]
  case entries =>
    intro id e
    by_cases hlast : id = l.nextID
    · -- no older operation has the identifier
      have hnew : ∀ old ∈ log, old.operation.id ≠ l.nextID := by
        intro old hold heq
        have hmem : old.operation.id ∈ numbers log.length := by
          rw [← h.ids]
          exact List.mem_map_of_mem hold
        simp only [numbers, List.mem_map, List.mem_range] at hmem
        have hnext := h.nextID
        omega
      subst hlast
      simp only [Ledger.enqueue, Function.update_self, List.mem_append, List.mem_singleton]
      constructor
      · intro he
        refine ⟨stored, .inr rfl, hid, ?_⟩
        rw [entryOf, hsequence]
        exact Option.some.inj he
      · rintro ⟨old, hold | rfl, hold_id, rfl⟩
        · exact absurd hold_id (hnew old hold)
        · rw [entryOf, hsequence]
    · simp only [Ledger.enqueue, Function.update_of_ne hlast, List.mem_append, List.mem_singleton,
        h.entries]
      constructor
      · rintro ⟨old, hold, heq⟩
        exact ⟨old, .inl hold, heq⟩
      · rintro ⟨old, hold | rfl, hold_id, heq⟩
        · exact ⟨old, hold, hold_id, heq⟩
        · exact absurd (hold_id.symm.trans hid) hlast
  case nextSequence =>
    intro key
    rw [hofDevice]
    by_cases hkey : stored.device = key
    · subst hkey
      simp [Ledger.enqueue, h.nextSequence]
    · simp [Ledger.enqueue, Function.update_of_ne (Ne.symm hkey), h.nextSequence, hkey]
  case sequences =>
    intro key
    rw [hofDevice]
    by_cases hkey : stored.device = key
    · subst hkey
      simp [h.sequences, hsequence, h.nextSequence, numbers_succ]
    · simp [h.sequences, hkey]
  case pending =>
    intro old hold
    rcases List.mem_append.mp hold with hold | hold
    · exact h.pending old hold
    · rwa [List.mem_singleton.mp hold]

/-- The counters of packages are not part of the queue. -/
theorem Logged.draw {l : Ledger} {log : List MemoryOperation} (h : Logged l log)
    (key : DeviceKey) : Logged (l.draw key) log :=
  ⟨h.nextID, h.ids, h.entries, h.nextSequence, h.sequences, h.pending⟩

/-! ## Calls -/

section

variable {s : Store} {log : List MemoryOperation} (h : Logged (ledger s) log)
include h

/-- A call that makes its reply from a method that keeps the ledger. -/
theorem Logged.kept {α : Type} {m : StoreM α} (hm : Keeps ledger m) (reply : α → StoreReply) :
    Logged (ledger ((do return reply (← m)) s : Except Error StoreReply × Store).2) (log ++ []) := by
  have hkeeps : Keeps ledger (do return reply (← m)) := hm.bind fun _ => keeps_pure _ _
  rwa [hkeeps s, List.append_nil]

theorem Logged.enqueueOperation (tenantID : TenantID) (eid : Bytes) (kind : OperationKind)
    (payload : Option Bytes) :
    Logged (ledger (StoreCall.step s (.enqueueOperation tenantID eid kind payload)))
      (log ++ StoreCall.enqueued s (.enqueueOperation tenantID eid kind payload)) := by
  have hstep : StoreCall.step s (.enqueueOperation tenantID eid kind payload) =
      (Storage.enqueueOperation tenantID ⟨eid, kind, payload.getD []⟩ s).2 :=
    bind_state_of_readOnly (fun _ _ => rfl) s
  have hledger := ledger_enqueueOperation tenantID ⟨eid, kind, payload.getD []⟩ s
  rw [hstep, StoreCall.enqueued]
  rw [enqueueOperation_apply] at hledger ⊢
  cases hdevice : s.devices.lookup (newDeviceKey tenantID eid) with
  | none => simpa using h
  | some device =>
      rw [hdevice] at hledger
      rcases hledger with heq | heq
      · -- the identifier has been taken
        have hnext := congrArg Ledger.nextID heq
        simp [ledger, Store.enqueued] at hnext
      · have hsequence : (ledger s).nextSequence (newDeviceKey tenantID eid) =
            device.nextSequence := by simp [ledger, hdevice]
        rw [heq]
        exact h.enqueue ⟨normalizeTenantID tenantID, s.newOperation device ⟨eid, kind, payload.getD []⟩⟩ rfl
          hsequence.symm rfl

theorem Logged.nextEUICCPackageCounter (tenantID : TenantID) (eid : Bytes) :
    Logged (ledger (StoreCall.step s (.nextEUICCPackageCounter tenantID eid))) (log ++ []) := by
  have hstep : StoreCall.step s (.nextEUICCPackageCounter tenantID eid) =
      (Storage.nextEUICCPackageCounter tenantID eid s).2 :=
    bind_state_of_readOnly (fun _ _ => rfl) s
  rw [hstep, List.append_nil]
  rcases hrun : Storage.nextEUICCPackageCounter tenantID eid s with ⟨outcome, s'⟩
  cases outcome with
  | ok counter =>
      rw [(ledger_nextEUICCPackageCounter hrun).2]
      exact h.draw _
  | error e =>
      rw [nextEUICCPackageCounter_apply] at hrun
      cases hdevice : s.devices.lookup (newDeviceKey tenantID eid) with
      | none =>
          rw [hdevice] at hrun
          obtain ⟨-, rfl⟩ := Prod.mk.inj hrun
          exact h
      | some device =>
          rw [hdevice] at hrun
          cases hrun

theorem logged_step (call : StoreCall) :
    Logged (ledger (call.step s)) (log ++ call.enqueued s) := by
  by_cases hcall : call.writesQueue = false
  · have hkeeps : Keeps ledger call.memory := StoreCall.keeps_memory (fun _ _ _ _ _ _ => rfl) hcall
    have hnone : call.enqueued s = [] := by
      cases call <;> first | rfl | cases hcall
    rwa [StoreCall.step, hkeeps s, hnone, List.append_nil]
  · cases call with
    | registerDevice tenantID eid => exact h.kept (fun s => ledger_registerDevice tenantID eid s) _
    | nextEUICCPackageCounter tenantID eid => exact h.nextEUICCPackageCounter tenantID eid
    | enqueueOperation tenantID eid kind payload =>
        exact h.enqueueOperation tenantID eid kind payload
    | recordEUICCPackageResult => exact h.kept (unaffected_ledger.record _ _) _
    | _ => exact absurd rfl hcall

end

theorem logged_after {s : Store} {log : List MemoryOperation} (h : Logged (ledger s) log)
    (calls : List StoreCall) :
    Logged (ledger (Run.after StoreCall.step s calls)) (log ++ StoreCall.log s calls) := by
  induction calls generalizing s log with
  | nil => rwa [StoreCall.log, List.append_nil]
  | cons call calls ih =>
      rw [StoreCall.log, ← List.append_assoc]
      exact ih (logged_step h call)

/-! ## The operations of a device -/

/-- The operations stored for a device, by their sequence numbers. -/
def Store.operationsOf (s : Store) (key : DeviceKey) : List Operation :=
  sortOperations ((s.allOperations.filter fun stored => stored.device = key).map
    MemoryOperation.operation)

/-- The operation as it was queued. -/
def Operation.asQueued (operation : Operation) : Operation :=
  { operation with status := .pending }

theorem mem_operationsOf {s : Store} {key : DeviceKey} {operation : Operation} :
    operation ∈ s.operationsOf key ↔ Queued s key operation := by
  rw [Store.operationsOf, sortOperations, List.mem_insertionSort, List.mem_map]
  constructor
  · rintro ⟨stored, hstored, rfl⟩
    obtain ⟨hmem, hdevice⟩ := List.mem_filter.mp hstored
    obtain rfl := of_decide_eq_true hdevice
    exact queued_of_mem_allOperations hmem
  · rintro ⟨stored, hlookup, hstored, heid⟩
    refine ⟨stored.val, List.mem_filter.mpr ⟨mem_allOperations_of_lookup hlookup, ?_⟩, ?_⟩
    · simp [hstored, MemoryOperation.device, heid]
    · rw [hstored]

theorem asQueued_eq_of_entryOf {a b : MemoryOperation} (hid : a.operation.id = b.operation.id)
    (hentry : entryOf a = entryOf b) : a.operation.asQueued = b.operation.asQueued := by
  obtain ⟨hdevice, hsequence, hkind, hpayload⟩ := Entry.mk.inj hentry
  have heid : a.operation.eid = b.operation.eid := congrArg DeviceKey.eid hdevice
  simp [Operation.asQueued, hid, heid, hsequence, hkind, hpayload]

section

variable {s : Store} {log : List MemoryOperation} (h : Logged (ledger s) log) {key : DeviceKey}
include h

/-- The log has the operations of the store, as they were queued. -/
theorem Logged.mem_iff {operation : Operation} :
    operation ∈ (ofDevice key log).map MemoryOperation.operation ↔
      ∃ stored, Queued s key stored ∧ stored.asQueued = operation := by
  rw [List.mem_map]
  constructor
  · rintro ⟨logged, hlogged, rfl⟩
    obtain ⟨hmem, hdevice⟩ := List.mem_filter.mp hlogged
    have hentry := h.entries.mpr ⟨logged, hmem, rfl, rfl⟩
    obtain ⟨row, hrow, heq⟩ := Option.map_eq_some_iff.mp hentry
    have hid := row.property
    have hqueued := queued_of_mem_allOperations (mem_allOperations_of_lookup hrow)
    have hkey : row.val.device = key :=
      (congrArg Entry.device heq).trans (of_decide_eq_true hdevice)
    refine ⟨row.val.operation, hkey ▸ hqueued, (asQueued_eq_of_entryOf hid heq).trans ?_⟩
    rw [Operation.asQueued, ← h.pending logged hmem]
  · rintro ⟨stored, hqueued, rfl⟩
    obtain ⟨logged, hmem, hid, hentry⟩ := h.entries.mp (entries_of_queued hqueued)
    have heid := hqueued.choose_spec.2.2
    have hstored : entryOf logged = entryOf ⟨key.tenantID, stored⟩ := by
      rw [hentry, entry, entryOf, MemoryOperation.device, heid]
    refine ⟨logged, List.mem_filter.mpr ⟨hmem, decide_eq_true ?_⟩, ?_⟩
    · exact congrArg Entry.device hentry
    · rw [← asQueued_eq_of_entryOf hid hstored, Operation.asQueued, ← h.pending logged hmem]

theorem Logged.increasing_log :
    Increasing Operation.sequenceNumber ((ofDevice key log).map MemoryOperation.operation) := by
  have hnumbers := pairwise_numbers (ofDevice key log).length
  rw [← h.sequences] at hnumbers
  exact List.pairwise_map.mpr (List.pairwise_map.mp hnumbers)

/-- The operations of a device have different sequence numbers. -/
theorem Logged.distinct :
    (s.allOperations.filter fun stored => stored.device = key).Pairwise fun a b =>
      a.operation.sequenceNumber ≠ b.operation.sequenceNumber := by
  have hlogged : ∀ stored ∈ s.allOperations.filter fun stored => stored.device = key,
      stored.operation.asQueued ∈ (ofDevice key log).map MemoryOperation.operation := by
    intro stored hstored
    obtain ⟨hmem, hdevice⟩ := List.mem_filter.mp hstored
    exact h.mem_iff.mpr ⟨_, of_decide_eq_true hdevice ▸ queued_of_mem_allOperations hmem, rfl⟩
  refine ((pairwise_allOperations s).filter _).imp_of_mem ?_
  intro a b ha hb hid hsequence
  have heq := congrArg Operation.id
    (h.increasing_log.eq_of_key (hlogged a ha) (hlogged b hb) hsequence)
  exact hid heq

theorem Logged.increasing_operationsOf :
    Increasing Operation.sequenceNumber (s.operationsOf key) :=
  Increasing.insertionSort (List.pairwise_map.mpr h.distinct)

/-- In the order of their sequence numbers the operations of a device are those that were queued
for it, in the order in which they were. -/
theorem Logged.operationsOf_eq (key : DeviceKey) : (s.operationsOf key).map Operation.asQueued =
    (ofDevice key log).map MemoryOperation.operation := by
  have hincreasing : Increasing Operation.sequenceNumber
      ((s.operationsOf key).map Operation.asQueued) :=
    List.pairwise_map.mpr h.increasing_operationsOf
  refine hincreasing.ext h.increasing_log fun operation => ?_
  simp only [h.mem_iff, List.mem_map, mem_operationsOf]

end

/-- The pending operations are those of the device, in the same order. -/
theorem Logged.pending_eq {s : Store} {log : List MemoryOperation} (h : Logged (ledger s) log)
    (key : DeviceKey) (limit : Nat) : s.pending key limit =
      ((s.operationsOf key).filter fun operation => operation.status = .pending).take limit := by
  have hselected : (s.allOperations.filter fun stored => stored.tenantID = key.tenantID ∧
        stored.operation.eid = key.eid ∧ stored.operation.status = .pending) =
      (s.allOperations.filter fun stored => stored.device = key).filter fun stored =>
        stored.operation.status = .pending := by
    rw [List.filter_filter]
    refine List.filter_congr fun stored _ => ?_
    cases key
    simp [MemoryOperation.device, Bool.and_comm, Bool.and_left_comm]
  have hincreasing : Increasing Operation.sequenceNumber
      (sortOperations (((s.allOperations.filter fun stored => stored.device = key).filter
        fun stored => stored.operation.status = .pending).map MemoryOperation.operation)) :=
    Increasing.insertionSort (List.pairwise_map.mpr (h.distinct.filter _))
  rw [Store.pending, Store.selectOperations, hselected]
  congr 1
  refine hincreasing.ext (h.increasing_operationsOf.sublist List.filter_sublist) fun operation => ?_
  rw [sortOperations, List.mem_insertionSort, List.mem_filter, Store.operationsOf, sortOperations,
    List.mem_insertionSort]
  simp only [List.mem_map, List.mem_filter]
  constructor
  · rintro ⟨stored, ⟨hstored, hstatus⟩, rfl⟩
    exact ⟨⟨stored, hstored, rfl⟩, hstatus⟩
  · rintro ⟨⟨stored, hstored, rfl⟩, hstatus⟩
    exact ⟨stored, ⟨hstored, hstatus⟩, rfl⟩

/-- In every state that calls lead to, the operations of a device are the ones that were queued for
it, numbered from one in that order; identifiers are unique, and a poll returns the first of the
pending ones, as many as it asks for. -/
theorem queue_numbered (calls : List StoreCall) :
    (∀ key, ((StoreCall.after calls).operationsOf key).map Operation.asQueued =
        (ofDevice key (StoreCall.log Store.new calls)).map MemoryOperation.operation ∧
      ((StoreCall.after calls).operationsOf key).map Operation.sequenceNumber =
        numbers ((StoreCall.after calls).operationsOf key).length) ∧
    (StoreCall.after calls).allOperations.Pairwise (fun a b => a.operation.id ≠ b.operation.id) ∧
    ∀ tenantID eid limit,
      (StoreCall.fetchPendingOperations tenantID eid limit).memory (StoreCall.after calls) =
        (.ok (.operations ((((StoreCall.after calls).operationsOf (newDeviceKey tenantID eid)).filter
          fun operation => operation.status = .pending).take limit.toNat)),
          StoreCall.after calls) := by
  have h : Logged (ledger (StoreCall.after calls)) (StoreCall.log Store.new calls) :=
    logged_after logged_new calls
  refine ⟨fun key => ⟨h.operationsOf_eq key, ?_⟩, pairwise_allOperations _, ?_⟩
  · have heq := congrArg (List.map Operation.sequenceNumber) (h.operationsOf_eq key)
    have hlength := congrArg List.length (h.operationsOf_eq key)
    rw [List.map_map, List.map_map] at heq
    rw [List.length_map, List.length_map] at hlength
    rw [hlength, ← h.sequences]
    exact heq
  · intro tenantID eid limit
    rw [← h.pending_eq]
    rfl

end OpenIotRsp.Storage
