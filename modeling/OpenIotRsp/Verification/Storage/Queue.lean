import OpenIotRsp.Verification.Storage.Operations

/-!
# Devices, counters and the queue

What registering a device, drawing a package counter and queueing an operation
do to the store.
-/

namespace OpenIotRsp.Storage

open Octets Stateful

theorem registerDevice_apply (tenantID : TenantID) (eid : Bytes) (s : Store) :
    registerDevice tenantID eid s =
      (.ok (), match s.devices.lookup (newDeviceKey tenantID eid) with
        | some _ => s
        | none => { s with devices := s.devices.insert (newDeviceKey tenantID eid) ⟨1, 1⟩ }) := by
  cases hdevice : s.devices.lookup (newDeviceKey tenantID eid) <;>
    simp [registerDevice, hdevice]

/-- A counter is drawn for a registered device only. -/
theorem nextEUICCPackageCounter_apply (tenantID : TenantID) (eid : Bytes) (s : Store) :
    nextEUICCPackageCounter tenantID eid s =
      match s.devices.lookup (newDeviceKey tenantID eid) with
      | none => (.error .notFound, s)
      | some device => (.ok device.nextEUICCPackageCounter, { s with
          devices := s.devices.insert (newDeviceKey tenantID eid)
            { device with nextEUICCPackageCounter := device.nextEUICCPackageCounter + 1 } }) := by
  cases hdevice : s.devices.lookup (newDeviceKey tenantID eid) with
  | none => exact require_of_none hdevice
  | some device => exact require_of_some hdevice

/-- The operation that a request queues. -/
def Store.newOperation (s : Store) (device : MemoryDevice) (request : OperationRequest) :
    Operation :=
  { id := s.nextOperationID, eid := request.eid, sequenceNumber := device.nextSequence,
    kind := request.kind, payload := request.payload, status := .pending }

/-- The store after an operation has been queued for a device. -/
def Store.enqueued (s : Store) (key : DeviceKey) (device : MemoryDevice) (operation : Operation) :
    Store :=
  { s with
    nextOperationID := s.nextOperationID + 1
    devices := s.devices.insert key { device with nextSequence := device.nextSequence + 1 }
    operations := s.operations.insert operation.id ⟨⟨key.tenantID, operation⟩, rfl⟩ }

theorem enqueueOperation_apply (tenantID : TenantID) (request : OperationRequest) (s : Store) :
    enqueueOperation tenantID request s =
      match s.devices.lookup (newDeviceKey tenantID request.eid) with
      | none => (.error .notFound, s)
      | some device =>
          (.ok (s.newOperation device request),
            s.enqueued (newDeviceKey tenantID request.eid) device
              (s.newOperation device request)) := by
  cases hdevice : s.devices.lookup (newDeviceKey tenantID request.eid) with
  | none => exact require_of_none hdevice
  | some device => exact require_of_some hdevice

theorem enqueueOperation_eq_ok {tenantID : TenantID} {request : OperationRequest} {s s' : Store}
    {operation : Operation} (h : enqueueOperation tenantID request s = (.ok operation, s')) :
    ∃ device, s.devices.lookup (newDeviceKey tenantID request.eid) = some device ∧
      operation = s.newOperation device request ∧
      s' = s.enqueued (newDeviceKey tenantID request.eid) device operation := by
  rw [enqueueOperation_apply] at h
  cases hdevice : s.devices.lookup (newDeviceKey tenantID request.eid) with
  | none =>
      rw [hdevice] at h
      cases h
  | some device =>
      rw [hdevice] at h
      obtain ⟨hop, hstate⟩ := Prod.mk.inj h
      obtain rfl := Except.ok.inj hop
      exact ⟨device, rfl, rfl, hstate.symm⟩

end OpenIotRsp.Storage
