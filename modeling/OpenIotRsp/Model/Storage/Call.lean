import OpenIotRsp.Library.Run
import OpenIotRsp.Model.Storage.Memory

/-!
# Calls of the store interface

The methods of `storage.Store` as data, so that a run is a list of calls.  A
slice of octets that may be nil is an optional string here; the in-memory store
does not tell a nil slice from an empty one.
-/

namespace OpenIotRsp.Storage

open Octets Stateful

inductive StoreCall where
  | registerDevice (tenantID : TenantID) (eid : Bytes)
  | getProfileState (tenantID : TenantID) (eid iccid : Bytes)
  | listProfileStates (tenantID : TenantID) (eid : Bytes)
  | setProfileState (tenantID : TenantID) (state : ProfileState)
  | deleteProfileState (tenantID : TenantID) (eid iccid : Bytes)
  | getEUICCState (tenantID : TenantID) (eid : Bytes)
  | setEUICCState (tenantID : TenantID) (state : EUICCState)
  | nextEUICCPackageCounter (tenantID : TenantID) (eid : Bytes)
  | enqueueOperation (tenantID : TenantID) (eid : Bytes) (kind : OperationKind)
      (payload : Option Bytes)
  | getOperation (tenantID : TenantID) (operationID : Int)
  | getOperationBySequence (tenantID : TenantID) (eid : Bytes) (sequenceNumber : Int)
  | fetchPendingOperations (tenantID : TenantID) (eid : Bytes) (limit : Int)
  | listOperations (tenantID : TenantID) (eid : Bytes) (limit : Int)
  | listPendingOperations (tenantID : TenantID) (limit : Int)
  | recordEUICCPackageResult (tenantID : TenantID) (eid : Bytes)
      (operationID sequenceNumber : Int) (status : OperationStatus) (payload : Option Bytes)
  | getOperationResult (tenantID : TenantID) (operationID : Int)
  | storeEIMConfig (tenantID : TenantID) (eimID : Bytes) (data : Option Bytes)
  | readEIMConfig (tenantID : TenantID) (eimID : Bytes)
  | setAssociatedEIM (tenantID : TenantID) (eid eimID : Bytes) (eimIDType : Option Int)
      (configPayload : Option Bytes)
  | deleteAssociatedEIM (tenantID : TenantID) (eid eimID : Bytes)
  | getAssociatedEIM (tenantID : TenantID) (eid eimID : Bytes)
  | listAssociatedEIMs (tenantID : TenantID) (eid : Bytes)
  | storeNotification (tenantID : TenantID) (eid : Bytes) (sequenceNumber : Int) (kind : Bytes)
      (payload : Option Bytes)
  | listNotifications (tenantID : TenantID) (eid : Bytes)
deriving DecidableEq

/-- What a call returns when it does not fail. -/
inductive StoreReply where
  | done
  | profileState (state : ProfileState)
  | profileStates (states : List ProfileState)
  | euiccState (state : EUICCState)
  | counter (value : Int)
  | operation (operation : Operation)
  | operations (operations : List Operation)
  | result (result : OperationResult)
  | config (config : EIMConfig)
  | associatedEIM (associated : AssociatedEIM)
  | associatedEIMs (items : List AssociatedEIM)
  | notifications (items : List Notification)
deriving DecidableEq

namespace StoreCall

/-- The call on the in-memory store.  A limit that is not positive selects nothing. -/
def memory : StoreCall → StoreM StoreReply
  | registerDevice tenantID eid => do
      Storage.registerDevice tenantID eid
      return .done
  | getProfileState tenantID eid iccid =>
      return .profileState (← Storage.getProfileState tenantID eid iccid)
  | listProfileStates tenantID eid =>
      return .profileStates (← Storage.listProfileStates tenantID eid)
  | setProfileState tenantID state => do
      Storage.setProfileState tenantID state
      return .done
  | deleteProfileState tenantID eid iccid => do
      Storage.deleteProfileState tenantID eid iccid
      return .done
  | getEUICCState tenantID eid => return .euiccState (← Storage.getEUICCState tenantID eid)
  | setEUICCState tenantID state => do
      Storage.setEUICCState tenantID state
      return .done
  | nextEUICCPackageCounter tenantID eid =>
      return .counter (← Storage.nextEUICCPackageCounter tenantID eid)
  | enqueueOperation tenantID eid kind payload =>
      return .operation (← Storage.enqueueOperation tenantID ⟨eid, kind, payload.getD []⟩)
  | getOperation tenantID operationID =>
      return .operation (← Storage.getOperation tenantID operationID)
  | getOperationBySequence tenantID eid sequenceNumber =>
      return .operation (← Storage.getOperationBySequence tenantID eid sequenceNumber)
  | fetchPendingOperations tenantID eid limit =>
      return .operations (← Storage.fetchPendingOperations tenantID eid limit.toNat)
  | listOperations tenantID eid limit =>
      return .operations (← Storage.listOperations tenantID eid limit.toNat)
  | listPendingOperations tenantID limit =>
      return .operations (← Storage.listPendingOperations tenantID limit.toNat)
  | recordEUICCPackageResult tenantID eid operationID sequenceNumber status payload => do
      Storage.recordEUICCPackageResult tenantID
        ⟨eid, operationID, sequenceNumber, status, payload.getD []⟩
      return .done
  | getOperationResult tenantID operationID =>
      return .result (← Storage.getOperationResult tenantID operationID)
  | storeEIMConfig tenantID eimID data => do
      Storage.storeEIMConfig tenantID ⟨eimID, data.getD []⟩
      return .done
  | readEIMConfig tenantID eimID => return .config (← Storage.readEIMConfig tenantID eimID)
  | setAssociatedEIM tenantID eid eimID eimIDType configPayload => do
      Storage.setAssociatedEIM tenantID ⟨eid, eimID, eimIDType, configPayload.getD []⟩
      return .done
  | deleteAssociatedEIM tenantID eid eimID => do
      Storage.deleteAssociatedEIM tenantID eid eimID
      return .done
  | getAssociatedEIM tenantID eid eimID =>
      return .associatedEIM (← Storage.getAssociatedEIM tenantID eid eimID)
  | listAssociatedEIMs tenantID eid =>
      return .associatedEIMs (← Storage.listAssociatedEIMs tenantID eid)
  | storeNotification tenantID eid sequenceNumber kind payload => do
      Storage.storeNotification tenantID ⟨eid, sequenceNumber, kind, payload.getD []⟩
      return .done
  | listNotifications tenantID eid =>
      return .notifications (← Storage.listNotifications tenantID eid)

/-- The in-memory store after a call. -/
def step (s : Store) (call : StoreCall) : Store := (call.memory s).2

/-- The in-memory store after calls on an empty one. -/
def after (calls : List StoreCall) : Store := Run.after step Store.new calls

end StoreCall

end OpenIotRsp.Storage
