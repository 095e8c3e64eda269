import Mathlib.Data.List.AList
import Mathlib.Data.List.Sort
import OpenIotRsp.Library.Stateful
import OpenIotRsp.Model.Storage.Record

/-!
# The in-memory store

`storage/memory/store.go`.  Each method runs under the store's mutex, so it is
one action.  A Go map is an association list without duplicate keys; its order
stands for the arbitrary iteration order of the map.  Operations and profile
states are stored under their own identifiers, which the types below record.
-/

namespace OpenIotRsp.Storage

open Octets Stateful

structure DeviceKey where
  tenantID : TenantID
  eid : Bytes
deriving DecidableEq

structure ResultKey where
  tenantID : TenantID
  eid : Bytes
  sequenceNumber : Int
deriving DecidableEq

structure ProfileStateKey where
  tenantID : TenantID
  eid : Bytes
  iccid : Bytes
deriving DecidableEq

structure AssociatedEIMKey where
  tenantID : TenantID
  eid : Bytes
  eimID : Bytes
deriving DecidableEq

structure ConfigKey where
  tenantID : TenantID
  eimID : Bytes
deriving DecidableEq

structure NotificationKey where
  tenantID : TenantID
  eid : Bytes
  sequenceNumber : Int
deriving DecidableEq

structure MemoryDevice where
  nextSequence : Int
  nextEUICCPackageCounter : Int
deriving DecidableEq

structure MemoryOperation where
  tenantID : TenantID
  operation : Operation
deriving DecidableEq

/-- An operation stored under its identifier. -/
abbrev StoredOperation (id : Int) : Type :=
  { stored : MemoryOperation // stored.operation.id = id }

/-- A profile state stored under its device and ICCID. -/
abbrev StoredProfile (key : ProfileStateKey) : Type :=
  { state : ProfileState // state.eid = key.eid ∧ state.iccid = key.iccid }

structure Store where
  devices : AList fun _ : DeviceKey => MemoryDevice
  profileStates : AList StoredProfile
  euiccStates : AList fun _ : DeviceKey => EUICCState
  associatedEIMs : AList fun _ : AssociatedEIMKey => AssociatedEIM
  operations : AList StoredOperation
  results : AList fun _ : ResultKey => EUICCPackageResult
  eimConfigs : AList fun _ : ConfigKey => EIMConfig
  notifications : AList fun _ : NotificationKey => Notification
  nextOperationID : Int

abbrev StoreM (α : Type) := Stateful Store Error α

def Store.new : Store where
  devices := ∅
  profileStates := ∅
  euiccStates := ∅
  associatedEIMs := ∅
  operations := ∅
  results := ∅
  eimConfigs := ∅
  notifications := ∅
  nextOperationID := 1

def newDeviceKey (tenantID : TenantID) (eid : Bytes) : DeviceKey :=
  ⟨normalizeTenantID tenantID, eid⟩

def newProfileStateKey (tenantID : TenantID) (eid iccid : Bytes) : ProfileStateKey :=
  ⟨normalizeTenantID tenantID, eid, iccid⟩

def newAssociatedEIMKey (tenantID : TenantID) (eid eimID : Bytes) : AssociatedEIMKey :=
  ⟨normalizeTenantID tenantID, eid, eimID⟩

/-- A row that has to be there. -/
def require {α : Type} (find : Store → Option α) : StoreM α := do
  match ← get find with
  | none => fail .notFound
  | some row => pure row

/-! ## Devices and profile states -/

def registerDevice (tenantID : TenantID) (eid : Bytes) : StoreM Unit := do
  let key := newDeviceKey tenantID eid
  match ← get fun s => s.devices.lookup key with
  | some _ => pure ()
  | none => modify fun s => { s with devices := s.devices.insert key ⟨1, 1⟩ }

def getProfileState (tenantID : TenantID) (eid iccid : Bytes) : StoreM ProfileState := do
  return (← require fun s => s.profileStates.lookup (newProfileStateKey tenantID eid iccid)).val

def sortProfileStates (states : List ProfileState) : List ProfileState :=
  states.insertionSort fun a b => a.iccid ≤ b.iccid

/-- The profile rows of one device. -/
def Store.profilesOf (s : Store) (key : DeviceKey) : List ProfileState :=
  (s.profileStates.entries.filter fun row =>
    row.1.tenantID = key.tenantID ∧ row.1.eid = key.eid).map fun row => row.2.val

def listProfileStates (tenantID : TenantID) (eid : Bytes) : StoreM (List ProfileState) := do
  let key := newDeviceKey tenantID eid
  let _ ← require fun s => s.devices.lookup key
  get fun s => sortProfileStates (s.profilesOf key)

def setProfileState (tenantID : TenantID) (state : ProfileState) : StoreM Unit := do
  let _ ← require fun s => s.devices.lookup (newDeviceKey tenantID state.eid)
  modify fun s => { s with
    profileStates := s.profileStates.insert (newProfileStateKey tenantID state.eid state.iccid)
      ⟨state, rfl, rfl⟩ }

def deleteProfileState (tenantID : TenantID) (eid iccid : Bytes) : StoreM Unit := do
  let key := newProfileStateKey tenantID eid iccid
  let _ ← require fun s => s.devices.lookup (newDeviceKey tenantID eid)
  let _ ← require fun s => s.profileStates.lookup key
  modify fun s => { s with profileStates := s.profileStates.erase key }

/-! ## eUICC states -/

def getEUICCState (tenantID : TenantID) (eid : Bytes) : StoreM EUICCState :=
  require fun s => s.euiccStates.lookup (newDeviceKey tenantID eid)

def setEUICCState (tenantID : TenantID) (state : EUICCState) : StoreM Unit := do
  let key := newDeviceKey tenantID state.eid
  let _ ← require fun s => s.devices.lookup key
  modify fun s => { s with euiccStates := s.euiccStates.insert key state }

/-! ## Counters and the operation queue -/

def nextEUICCPackageCounter (tenantID : TenantID) (eid : Bytes) : StoreM Int := do
  let key := newDeviceKey tenantID eid
  let device ← require fun s => s.devices.lookup key
  modify fun s => { s with
    devices := s.devices.insert key
      { device with nextEUICCPackageCounter := device.nextEUICCPackageCounter + 1 } }
  return device.nextEUICCPackageCounter

def enqueueOperation (tenantID : TenantID) (request : OperationRequest) : StoreM Operation := do
  let key := newDeviceKey tenantID request.eid
  let device ← require fun s => s.devices.lookup key
  let id ← get Store.nextOperationID
  let operation : Operation :=
    { id := id, eid := request.eid, sequenceNumber := device.nextSequence, kind := request.kind,
      payload := request.payload, status := .pending }
  modify fun s => { s with
    nextOperationID := s.nextOperationID + 1
    devices := s.devices.insert key { device with nextSequence := device.nextSequence + 1 }
    operations := s.operations.insert operation.id ⟨⟨key.tenantID, operation⟩, rfl⟩ }
  return operation

def sortOperations (operations : List Operation) : List Operation :=
  operations.insertionSort fun a b => a.sequenceNumber ≤ b.sequenceNumber

/-- The stored operations, in the iteration order of the map. -/
def Store.allOperations (s : Store) : List MemoryOperation :=
  s.operations.entries.map fun row => row.2.val

/-- The operations that satisfy a condition, oldest sequence first, up to a limit. -/
def Store.selectOperations (s : Store) (p : MemoryOperation → Bool) (limit : Nat) :
    List Operation :=
  (sortOperations ((s.allOperations.filter p).map MemoryOperation.operation)).take limit

def getOperation (tenantID : TenantID) (operationID : Int) : StoreM Operation := do
  let stored ← require fun s => s.operations.lookup operationID
  if stored.val.tenantID = normalizeTenantID tenantID then return stored.val.operation
  else fail .notFound

def getOperationBySequence (tenantID : TenantID) (eid : Bytes) (sequenceNumber : Int) :
    StoreM Operation :=
  require fun s => (s.allOperations.find? fun stored =>
    stored.tenantID = normalizeTenantID tenantID ∧ stored.operation.eid = eid ∧
      stored.operation.sequenceNumber = sequenceNumber).map MemoryOperation.operation

def fetchPendingOperations (tenantID : TenantID) (eid : Bytes) (limit : Nat) :
    StoreM (List Operation) :=
  get fun s => s.selectOperations (fun stored =>
    stored.tenantID = normalizeTenantID tenantID ∧ stored.operation.eid = eid ∧
      stored.operation.status = .pending) limit

def listOperations (tenantID : TenantID) (eid : Bytes) (limit : Nat) : StoreM (List Operation) :=
  get fun s => s.selectOperations (fun stored =>
    stored.tenantID = normalizeTenantID tenantID ∧ stored.operation.eid = eid) limit

def listPendingOperations (tenantID : TenantID) (limit : Nat) : StoreM (List Operation) :=
  get fun s => s.selectOperations (fun stored =>
    stored.tenantID = normalizeTenantID tenantID ∧ stored.operation.status = .pending) limit

/-! ## Results -/

def normalizeResultStatus : OperationStatus → OperationStatus
  | .failed => .failed
  | _ => .done

theorem normalizeResultStatus_final (status : OperationStatus) :
    normalizeResultStatus status = .done ∨ normalizeResultStatus status = .failed := by
  cases status <;> simp [normalizeResultStatus]

/-- A result that names its operation takes the device and sequence number from it. -/
def resolveResult (tenantID : TenantID) (result : EUICCPackageResult) :
    StoreM EUICCPackageResult := do
  if result.operationID = 0 then return result
  let stored ← require fun s => s.operations.lookup result.operationID
  if stored.val.tenantID = tenantID then
    return { result with
      eid := stored.val.operation.eid
      sequenceNumber := stored.val.operation.sequenceNumber }
  else fail .notFound

/-- The operation a result is for: by identifier, or by device and sequence number. -/
def EUICCPackageResult.isFor (result : EUICCPackageResult) (tenantID : TenantID)
    (stored : MemoryOperation) : Bool :=
  stored.tenantID = tenantID ∧
    if result.operationID = 0 then
      stored.operation.eid = result.eid ∧ stored.operation.sequenceNumber = result.sequenceNumber
    else stored.operation.id = result.operationID

def MemoryOperation.withStatus (stored : MemoryOperation) (status : OperationStatus) :
    MemoryOperation :=
  { stored with operation := { stored.operation with status := status } }

/-- Set the status of the first operation the result is for. -/
def Store.updateStatus (s : Store) (tenantID : TenantID) (result : EUICCPackageResult) : Store :=
  match s.operations.entries.find? fun row => result.isFor tenantID row.2.val with
  | none => s
  | some row =>
      { s with
        operations := s.operations.insert row.1
          ⟨row.2.val.withStatus result.status, row.2.property⟩ }

def recordEUICCPackageResult (tenantID : TenantID) (result : EUICCPackageResult) : StoreM Unit := do
  let tenantID := normalizeTenantID tenantID
  let result ← resolveResult tenantID result
  let _ ← require fun s => s.devices.lookup ⟨tenantID, result.eid⟩
  let result := { result with status := normalizeResultStatus result.status }
  modify fun s =>
    { s with
      results := s.results.insert ⟨tenantID, result.eid, result.sequenceNumber⟩ result }
  modify fun s => s.updateStatus tenantID result

def getOperationResult (tenantID : TenantID) (operationID : Int) : StoreM OperationResult := do
  let operation ← getOperation tenantID operationID
  let result ← require fun s =>
    s.results.lookup ⟨normalizeTenantID tenantID, operation.eid, operation.sequenceNumber⟩
  return ⟨operation.id, result.eid, result.sequenceNumber, result.status, result.payload⟩

/-! ## eIM configurations and associations -/

def storeEIMConfig (tenantID : TenantID) (config : EIMConfig) : StoreM Unit :=
  modify fun s => { s with
    eimConfigs := s.eimConfigs.insert ⟨normalizeTenantID tenantID, config.eimID⟩ config }

def readEIMConfig (tenantID : TenantID) (eimID : Bytes) : StoreM EIMConfig :=
  require fun s => s.eimConfigs.lookup ⟨normalizeTenantID tenantID, eimID⟩

def setAssociatedEIM (tenantID : TenantID) (associated : AssociatedEIM) : StoreM Unit := do
  let key := newAssociatedEIMKey tenantID associated.eid associated.eimID
  let _ ← require fun s => s.devices.lookup ⟨key.tenantID, key.eid⟩
  modify fun s => { s with associatedEIMs := s.associatedEIMs.insert key associated }

def deleteAssociatedEIM (tenantID : TenantID) (eid eimID : Bytes) : StoreM Unit := do
  let key := newAssociatedEIMKey tenantID eid eimID
  let _ ← require fun s => s.devices.lookup ⟨key.tenantID, key.eid⟩
  let _ ← require fun s => s.associatedEIMs.lookup key
  modify fun s => { s with associatedEIMs := s.associatedEIMs.erase key }

def getAssociatedEIM (tenantID : TenantID) (eid eimID : Bytes) : StoreM AssociatedEIM :=
  require fun s => s.associatedEIMs.lookup (newAssociatedEIMKey tenantID eid eimID)

def sortAssociatedEIMs (items : List AssociatedEIM) : List AssociatedEIM :=
  items.insertionSort fun a b => a.eimID ≤ b.eimID

/-- The associated eIMs of one device. -/
def Store.associatedEIMsOf (s : Store) (key : DeviceKey) : List AssociatedEIM :=
  (s.associatedEIMs.entries.filter fun row =>
    row.1.tenantID = key.tenantID ∧ row.1.eid = key.eid).map Sigma.snd

def listAssociatedEIMs (tenantID : TenantID) (eid : Bytes) : StoreM (List AssociatedEIM) := do
  let key := newDeviceKey tenantID eid
  let _ ← require fun s => s.devices.lookup key
  get fun s => sortAssociatedEIMs (s.associatedEIMsOf key)

/-! ## Notifications -/

def storeNotification (tenantID : TenantID) (notification : Notification) : StoreM Unit := do
  let tenantID := normalizeTenantID tenantID
  let _ ← require fun s => s.devices.lookup ⟨tenantID, notification.eid⟩
  if notification.sequenceNumber ≤ 0 then fail .notFound
  else
    modify fun s => { s with
      notifications := s.notifications.insert
        ⟨tenantID, notification.eid, notification.sequenceNumber⟩ notification }

def sortNotifications (items : List Notification) : List Notification :=
  items.insertionSort fun a b => a.sequenceNumber ≤ b.sequenceNumber

/-- The notifications of one device. -/
def Store.notificationsOf (s : Store) (key : DeviceKey) : List Notification :=
  (s.notifications.entries.filter fun row =>
    row.1.tenantID = key.tenantID ∧ row.1.eid = key.eid).map Sigma.snd

def listNotifications (tenantID : TenantID) (eid : Bytes) : StoreM (List Notification) := do
  let key := newDeviceKey tenantID eid
  let _ ← require fun s => s.devices.lookup key
  get fun s => sortNotifications (s.notificationsOf key)

end OpenIotRsp.Storage
