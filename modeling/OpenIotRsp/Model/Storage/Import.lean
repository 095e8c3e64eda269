import OpenIotRsp.Model.Dataact.Bundle
import OpenIotRsp.Model.Storage.Postgres

/-!
# Import of bundles

`storage/postgres/import.go`.  The rows of a bundle are written for one tenant
in one transaction; time stamps are left out.
-/

namespace OpenIotRsp.Storage.Postgres

open Octets Stateful Dataact

/-! ## Fields of the records -/

/-- An empty field is nil. -/
def decodeOptionalBase64 (value : Bytes) : PgM (Option Bytes) :=
  if value = [] then pure none
  else
    match Base64.decode value with
    | some out => pure (some out)
    | none => fail (.store (.message "dataact: decode base64"))

def decodeCertificateIdentifiers (J : Json) (raw : Bytes) : PgM (List Bytes) :=
  if raw = [] ∨ raw = text "null" then pure []
  else
    match J.strings raw with
    | some identifiers => pure identifiers
    | none => fail (.store (.message "dataact: decode certificate identifiers"))

def notificationSequence (record : NotificationRecord) : PgM Int :=
  match record.sequenceNumber with
  | some sequenceNumber => pure sequenceNumber
  | none => fail (.store (.message "dataact: notification missing sequenceNumber"))

def kindOfName (name : Bytes) : OperationKind :=
  if name = kindName .euiccPackage then .euiccPackage
  else if name = kindName .profileDownloadTrigger then .profileDownloadTrigger
  else if name = kindName .ipaEuiccData then .ipaEuiccData
  else .other name

/-- The status of a name; the column takes no other. -/
def statusOfName (name : Bytes) : Option OperationStatus :=
  if name = text "pending" then some .pending
  else if name = text "in-flight" then some .inFlight
  else if name = text "done" then some .done
  else if name = text "failed" then some .failed
  else none

/-! ## Rows -/

variable (tenantID : TenantID)

def importDevice (device : DeviceRecord) : PgM Unit := do
  let key := newDeviceKey tenantID device.eid
  parameters [key.tenantID, device.eid]
  if h : 0 < device.nextSequenceNumber ∧ 0 < device.nextEUICCPackageCounter then
    statement fun t => { t with
      devices := Table.upsert DeviceRow.key
        (fun old excluded => { old with
          nextSequenceNumber := excluded.nextSequenceNumber
          nextEUICCPackageCounter := excluded.nextEUICCPackageCounter
          sequence_pos := excluded.sequence_pos
          counter_pos := excluded.counter_pos })
        ⟨key, device.nextSequenceNumber, device.nextEUICCPackageCounter, h.1, h.2⟩ t.devices }
  else fail (.sql .checkViolation)

def importProfileState (state : ProfileStateRecord) : PgM Unit := do
  let tenant := normalizeTenantID tenantID
  parameters [tenant, state.eid, state.iccid, state.smdpAddress]
  statement fun t => { t with
    profileState := Table.upsert ProfileStateRow.key
      (fun old excluded => { old with state := { old.state with
        isEnabled := excluded.state.isEnabled
        isFallback := excluded.state.isFallback
        smdpAddress := excluded.state.smdpAddress } })
      ⟨tenant, state.eid, state.iccid, state.isEnabled, state.isFallback, state.smdpAddress⟩
      t.profileState }

def importAssociatedEIM (associated : AssociatedEIMRecord) : PgM Unit := do
  let tenant := normalizeTenantID tenantID
  let payload ← decodeOptionalBase64 associated.configPayload
  parameters [tenant, associated.eid, associated.eimID]
  let payload ← notNull payload
  statement fun t => { t with
    associatedEIM := Table.upsert AssociatedEIMRow.key
      (fun old excluded => { old with associated := { old.associated with
        eimIDType := excluded.associated.eimIDType
        configPayload := excluded.associated.configPayload } })
      ⟨tenant, associated.eid, associated.eimID, associated.eimIDType, payload⟩ t.associatedEIM }

def importEUICCState (J : Json) (state : EUICCStateRecord) : PgM Unit := do
  let tenant := normalizeTenantID tenantID
  let eidValue ← decodeOptionalBase64 state.eidValue
  let info1 ← decodeOptionalBase64 state.euiccInfo1
  let info2 ← decodeOptionalBase64 state.euiccInfo2
  let caps ← decodeOptionalBase64 state.ipaCapabilities
  let deviceInfo ← decodeOptionalBase64 state.deviceInfo
  let eumCert ← decodeOptionalBase64 state.eumCertificate
  let euiccCert ← decodeOptionalBase64 state.euiccCertificate
  let rawPayload ← decodeOptionalBase64 state.rawPayload
  let identifiers ← decodeCertificateIdentifiers J state.certificateIdentifiers
  parameters [tenant, state.eid, state.defaultSMDPAddress, state.rootSMDSAddress]
  let identifiers ← jsonParameter identifiers
  let row : EUICCState :=
    { eid := state.eid
      eidValue := eidValue.getD []
      defaultSMDPAddress := state.defaultSMDPAddress
      rootSMDSAddress := state.rootSMDSAddress
      euiccInfo1 := info1.getD []
      euiccInfo2 := info2.getD []
      ipaCapabilities := caps.getD []
      deviceInfo := deviceInfo.getD []
      eumCertificate := eumCert.getD []
      euiccCertificate := euiccCert.getD []
      certificateIdentifiers := identifiers
      rawPayload := rawPayload.getD [] }
  statement fun t => { t with
    euiccState := Table.upsert EUICCStateRow.key
      (fun old excluded => { old with state := { excluded.state with eid := old.state.eid } })
      ⟨tenant, row⟩ t.euiccState }

/-- An operation whose device and sequence number are taken replaces the one that is there, with its
identifier. -/
def importOperation (operation : OperationRecord) : PgM Unit := do
  let tenant := normalizeTenantID tenantID
  let payload ← decodeOptionalBase64 operation.payload
  parameters [tenant, operation.eid, operation.kind, operation.status]
  let payload ← notNull payload
  match statusOfName operation.status with
  | none => fail (.sql .checkViolation)
  | some status =>
      if h : 0 < operation.sequenceNumber then
        statement fun t => { t with
          operations := Table.upsert OperationRow.key
            (fun old excluded => ⟨⟨old.tenantID, { old.operation with
              id := excluded.operation.id
              kind := excluded.operation.kind
              payload := excluded.operation.payload
              status := excluded.operation.status }⟩, old.sequence_pos⟩)
            ⟨⟨tenant, ⟨operation.id, operation.eid, operation.sequenceNumber,
              kindOfName operation.kind, payload, status⟩⟩, h⟩ t.operations }
      else fail (.sql .checkViolation)

def importNotification (notification : NotificationRecord) : PgM Unit := do
  let tenant := normalizeTenantID tenantID
  let payload ← decodeOptionalBase64 notification.payload
  let sequenceNumber ← notificationSequence notification
  parameters [tenant, notification.eid, notification.kind]
  let payload ← notNull payload
  if h : 0 < sequenceNumber then
    statement fun t => { t with
      notifications := Table.upsert NotificationRow.key
        (fun old excluded => ⟨excluded.id, old.tenantID,
          { old.notification with
            kind := excluded.notification.kind
            payload := excluded.notification.payload },
          old.sequence_pos⟩)
        ⟨notification.id, tenant, ⟨notification.eid, sequenceNumber, notification.kind, payload⟩, h⟩
        t.notifications }
  else fail (.sql .checkViolation)

/-! ## Serial columns -/

/-- The greatest identifier, one if there is none.  A serial column does not go below one. -/
def maxID (ids : List Int) : Int := (ids.max?).getD 1

def setval (value : Int) (set : Database → Database) : PgM Unit :=
  if value < 1 then fail (.sql .numericValueOutOfRange) else modify set

def syncImportSequences : PgM Unit := do
  let operationsID ← get fun d => maxID (d.tables.operations.map OperationRow.id)
  setval operationsID fun d => { d with operationsID := operationsID }
  let notificationsID ← get fun d => maxID (d.tables.notifications.map NotificationRow.id)
  setval notificationsID fun d => { d with notificationsID := notificationsID }

/-! ## Bundles -/

def importBundle (J : Json) (bundle : BundlePayload) : PgM Unit := transaction do
  bundle.devices.forM (importDevice tenantID)
  bundle.euiccStates.forM (importEUICCState tenantID J)
  bundle.profileStates.forM (importProfileState tenantID)
  bundle.associatedEIM.forM (importAssociatedEIM tenantID)
  bundle.operations.forM (importOperation tenantID)
  bundle.notifications.forM (importNotification tenantID)
  syncImportSequences

end OpenIotRsp.Storage.Postgres
