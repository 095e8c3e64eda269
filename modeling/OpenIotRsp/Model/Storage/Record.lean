import OpenIotRsp.Model.Error

/-!
# Stored records

The records of `storage/store.go`.  Time stamps are left out: no code that
decides anything reads them.
-/

namespace OpenIotRsp.Storage

open Octets

abbrev TenantID := Bytes

def defaultTenantID : TenantID := text "openiotrsp"

def normalizeTenantID (tenantID : TenantID) : TenantID :=
  if tenantID = [] then defaultTenantID else tenantID

structure ProfileState where
  eid : Bytes
  iccid : Bytes
  isEnabled : Bool := false
  isFallback : Bool := false
  smdpAddress : Bytes := []
deriving DecidableEq

structure EUICCState where
  eid : Bytes
  eidValue : Bytes := []
  defaultSMDPAddress : Bytes := []
  rootSMDSAddress : Bytes := []
  euiccInfo1 : Bytes := []
  euiccInfo2 : Bytes := []
  ipaCapabilities : Bytes := []
  deviceInfo : Bytes := []
  eumCertificate : Bytes := []
  euiccCertificate : Bytes := []
  certificateIdentifiers : List Bytes := []
  rawPayload : Bytes := []
deriving DecidableEq

inductive OperationStatus where
  | pending
  | inFlight
  | done
  | failed
deriving DecidableEq

inductive OperationKind where
  | euiccPackage
  | profileDownloadTrigger
  | ipaEuiccData
  /-- a kind no code of the repository enqueues -/
  | other (name : Bytes)
deriving DecidableEq

structure OperationRequest where
  eid : Bytes
  kind : OperationKind
  payload : Bytes
deriving DecidableEq

/-- `sequenceNumber` is the eIM's own queue position, not a sequence number of the eUICC. -/
structure Operation where
  id : Int
  eid : Bytes
  sequenceNumber : Int
  kind : OperationKind
  payload : Bytes
  status : OperationStatus
deriving DecidableEq

structure OperationResult where
  operationID : Int
  eid : Bytes
  sequenceNumber : Int
  status : OperationStatus
  payload : Bytes
deriving DecidableEq

structure EUICCPackageResult where
  eid : Bytes
  operationID : Int
  sequenceNumber : Int
  status : OperationStatus
  payload : Bytes
deriving DecidableEq

structure EIMConfig where
  eimID : Bytes
  data : Bytes
deriving DecidableEq

structure AssociatedEIM where
  eid : Bytes
  eimID : Bytes
  eimIDType : Option Int
  configPayload : Bytes
deriving DecidableEq

structure Notification where
  eid : Bytes
  sequenceNumber : Int
  kind : Bytes
  payload : Bytes
deriving DecidableEq

end OpenIotRsp.Storage
