import OpenIotRsp.Library.Table
import OpenIotRsp.Library.Text
import OpenIotRsp.Model.Storage.Call

/-!
# The Postgres store

`storage/postgres/store.go` over the tables of `migrations/`.  A row carries the
column constraints of its table, and a database the unique and foreign keys
between its rows.  A statement that would break one of them fails and changes
nothing, except that the numbers it has drawn from a serial column are gone.
The collation of the text columns is a parameter.
-/

namespace OpenIotRsp.Storage

open Octets Stateful

namespace Postgres

/-! ## Rows -/

structure DeviceRow where
  key : DeviceKey
  nextSequenceNumber : Int
  nextEUICCPackageCounter : Int
  sequence_pos : 0 < nextSequenceNumber
  counter_pos : 0 < nextEUICCPackageCounter
deriving DecidableEq

structure ProfileStateRow where
  tenantID : TenantID
  state : ProfileState
deriving DecidableEq

structure EUICCStateRow where
  tenantID : TenantID
  state : EUICCState
deriving DecidableEq

structure AssociatedEIMRow where
  tenantID : TenantID
  associated : AssociatedEIM
deriving DecidableEq

structure OperationRow extends MemoryOperation where
  sequence_pos : 0 < operation.sequenceNumber
deriving DecidableEq

structure OperationResultRow where
  id : Int
  tenantID : TenantID
  eid : Bytes
  operationID : Option Int
  sequenceNumber : Int
  status : OperationStatus
  payload : Bytes
  sequence_pos : 0 < sequenceNumber
  status_final : status = .done ∨ status = .failed
deriving DecidableEq

structure EIMConfigRow where
  tenantID : TenantID
  config : EIMConfig
deriving DecidableEq

structure NotificationRow where
  id : Int
  tenantID : TenantID
  notification : Notification
  sequence_pos : 0 < notification.sequenceNumber
deriving DecidableEq

def ProfileStateRow.key (row : ProfileStateRow) : ProfileStateKey :=
  ⟨row.tenantID, row.state.eid, row.state.iccid⟩

def ProfileStateRow.device (row : ProfileStateRow) : DeviceKey := ⟨row.tenantID, row.state.eid⟩

def EUICCStateRow.key (row : EUICCStateRow) : DeviceKey := ⟨row.tenantID, row.state.eid⟩

def AssociatedEIMRow.key (row : AssociatedEIMRow) : AssociatedEIMKey :=
  ⟨row.tenantID, row.associated.eid, row.associated.eimID⟩

def AssociatedEIMRow.device (row : AssociatedEIMRow) : DeviceKey :=
  ⟨row.tenantID, row.associated.eid⟩

def OperationRow.id (row : OperationRow) : Int := row.operation.id

def OperationRow.key (row : OperationRow) : ResultKey :=
  ⟨row.tenantID, row.operation.eid, row.operation.sequenceNumber⟩

def OperationRow.device (row : OperationRow) : DeviceKey := ⟨row.tenantID, row.operation.eid⟩

def OperationResultRow.key (row : OperationResultRow) : ResultKey :=
  ⟨row.tenantID, row.eid, row.sequenceNumber⟩

def OperationResultRow.device (row : OperationResultRow) : DeviceKey := ⟨row.tenantID, row.eid⟩

def EIMConfigRow.key (row : EIMConfigRow) : ConfigKey := ⟨row.tenantID, row.config.eimID⟩

def NotificationRow.key (row : NotificationRow) : NotificationKey :=
  ⟨row.tenantID, row.notification.eid, row.notification.sequenceNumber⟩

def NotificationRow.device (row : NotificationRow) : DeviceKey :=
  ⟨row.tenantID, row.notification.eid⟩

/-! ## Tables and their keys -/

structure Tables where
  devices : List DeviceRow
  profileState : List ProfileStateRow
  euiccState : List EUICCStateRow
  associatedEIM : List AssociatedEIMRow
  operations : List OperationRow
  operationResults : List OperationResultRow
  eimConfig : List EIMConfigRow
  notifications : List NotificationRow

/-- The primary keys and unique indexes. -/
inductive UniqueConstraint where
  | devices
  | profileState
  | euiccState
  | associatedEIM
  | operationsID
  | operationsSequence
  | operationResultsID
  | operationResultsSequence
  | eimConfig
  | notificationsID
  | notificationsSequence
deriving DecidableEq

/-- The references to a device, and that of a result to its operation. -/
inductive ForeignKey where
  | profileState
  | euiccState
  | associatedEIM
  | operations
  | operationResults
  | operationResultsOperation
  | notifications
deriving DecidableEq

def UniqueConstraint.all : List UniqueConstraint :=
  [devices, profileState, euiccState, associatedEIM, operationsID, operationsSequence,
    operationResultsID, operationResultsSequence, eimConfig, notificationsID,
    notificationsSequence]

def ForeignKey.all : List ForeignKey :=
  [profileState, euiccState, associatedEIM, operations, operationResults,
    operationResultsOperation, notifications]

def Tables.Unique (t : Tables) : UniqueConstraint → Prop
  | .devices => (t.devices.map DeviceRow.key).Nodup
  | .profileState => (t.profileState.map ProfileStateRow.key).Nodup
  | .euiccState => (t.euiccState.map EUICCStateRow.key).Nodup
  | .associatedEIM => (t.associatedEIM.map AssociatedEIMRow.key).Nodup
  | .operationsID => (t.operations.map OperationRow.id).Nodup
  | .operationsSequence => (t.operations.map OperationRow.key).Nodup
  | .operationResultsID => (t.operationResults.map OperationResultRow.id).Nodup
  | .operationResultsSequence => (t.operationResults.map OperationResultRow.key).Nodup
  | .eimConfig => (t.eimConfig.map EIMConfigRow.key).Nodup
  | .notificationsID => (t.notifications.map NotificationRow.id).Nodup
  | .notificationsSequence => (t.notifications.map NotificationRow.key).Nodup

def Tables.References (t : Tables) : ForeignKey → Prop
  | .profileState => ∀ row ∈ t.profileState, row.device ∈ t.devices.map DeviceRow.key
  | .euiccState => ∀ row ∈ t.euiccState, row.key ∈ t.devices.map DeviceRow.key
  | .associatedEIM => ∀ row ∈ t.associatedEIM, row.device ∈ t.devices.map DeviceRow.key
  | .operations => ∀ row ∈ t.operations, row.device ∈ t.devices.map DeviceRow.key
  | .operationResults => ∀ row ∈ t.operationResults, row.device ∈ t.devices.map DeviceRow.key
  | .operationResultsOperation =>
      ∀ row ∈ t.operationResults, ∀ id ∈ row.operationID, id ∈ t.operations.map OperationRow.id
  | .notifications => ∀ row ∈ t.notifications, row.device ∈ t.devices.map DeviceRow.key

instance (t : Tables) : ∀ c, Decidable (t.Unique c)
  | .devices => inferInstanceAs (Decidable (List.Nodup _))
  | .profileState => inferInstanceAs (Decidable (List.Nodup _))
  | .euiccState => inferInstanceAs (Decidable (List.Nodup _))
  | .associatedEIM => inferInstanceAs (Decidable (List.Nodup _))
  | .operationsID => inferInstanceAs (Decidable (List.Nodup _))
  | .operationsSequence => inferInstanceAs (Decidable (List.Nodup _))
  | .operationResultsID => inferInstanceAs (Decidable (List.Nodup _))
  | .operationResultsSequence => inferInstanceAs (Decidable (List.Nodup _))
  | .eimConfig => inferInstanceAs (Decidable (List.Nodup _))
  | .notificationsID => inferInstanceAs (Decidable (List.Nodup _))
  | .notificationsSequence => inferInstanceAs (Decidable (List.Nodup _))

instance (t : Tables) : ∀ f, Decidable (t.References f)
  | .profileState => inferInstanceAs (Decidable (∀ row ∈ t.profileState, _))
  | .euiccState => inferInstanceAs (Decidable (∀ row ∈ t.euiccState, _))
  | .associatedEIM => inferInstanceAs (Decidable (∀ row ∈ t.associatedEIM, _))
  | .operations => inferInstanceAs (Decidable (∀ row ∈ t.operations, _))
  | .operationResults => inferInstanceAs (Decidable (∀ row ∈ t.operationResults, _))
  | .operationResultsOperation => inferInstanceAs (Decidable (∀ row ∈ t.operationResults, _))
  | .notifications => inferInstanceAs (Decidable (∀ row ∈ t.notifications, _))

structure Tables.Valid (t : Tables) : Prop where
  unique : ∀ c, t.Unique c
  references : ∀ f, t.References f

/-! ## Databases -/

inductive SqlError where
  | characterNotInRepertoire
  | untranslatableCharacter
  | numericValueOutOfRange
  | notNullViolation
  | checkViolation
  | uniqueViolation (constraint : UniqueConstraint)
  | foreignKeyViolation (constraint : ForeignKey)
deriving DecidableEq

/-- Why a method of the store fails. -/
inductive Failure where
  | store (e : Error)
  | sql (e : SqlError)
deriving DecidableEq

/-- Tables that meet their constraints, and the last numbers drawn for the serial columns. -/
structure Database where
  tables : Tables
  valid : tables.Valid
  operationsID : Int
  operationResultsID : Int
  notificationsID : Int

abbrev PgM (α : Type) := Stateful Database Failure α

def Tables.empty : Tables := ⟨[], [], [], [], [], [], [], []⟩

theorem Tables.valid_empty : Tables.empty.Valid where
  unique c := by cases c <;> exact List.nodup_nil
  references f := by cases f <;> exact fun _ h => nomatch h

def Database.empty : Database := ⟨Tables.empty, Tables.valid_empty, 0, 0, 0⟩

/-- The constraint that the rows break.  Unique keys are checked with each row, foreign keys at the
end of the statement. -/
def Tables.violation (t : Tables) : Option SqlError :=
  ((UniqueConstraint.all.find? fun c => ¬ t.Unique c).map .uniqueViolation).or
    ((ForeignKey.all.find? fun f => ¬ t.References f).map .foreignKeyViolation)

theorem UniqueConstraint.mem_all (c : UniqueConstraint) : c ∈ all := by cases c <;> decide

theorem ForeignKey.mem_all (f : ForeignKey) : f ∈ all := by cases f <;> decide

theorem Tables.violation_eq_none {t : Tables} : t.violation = none ↔ t.Valid := by
  simp only [violation, Option.or_eq_none_iff, Option.map_eq_none_iff, List.find?_eq_none,
    decide_eq_true_eq, not_not]
  exact ⟨fun ⟨hu, hr⟩ => ⟨fun c => hu c c.mem_all, fun f => hr f f.mem_all⟩,
    fun h => ⟨fun c _ => h.unique c, fun f _ => h.references f⟩⟩

/-! ## Statements -/

/-- Rows are written if the constraints hold afterwards. -/
def statement (f : Tables → Tables) : PgM Unit := fun d =>
  match h : (f d.tables).violation with
  | none => (.ok (), { d with tables := f d.tables, valid := Tables.violation_eq_none.mp h })
  | some e => (.error (.sql e), d)

/-- The statements of the transaction, or none of them.  Serial numbers are not given back. -/
def transaction {α : Type} (m : PgM α) : PgM α := fun d =>
  match m d with
  | (.ok a, d') => (.ok a, d')
  | (.error e, d') => (.error e, { d' with tables := d.tables, valid := d.valid })

/-- A text value is a string of characters other than NUL. -/
def isText (value : Bytes) : Bool := Text.isUTF8 value ∧ (0x00 : UInt8) ∉ value

/-- The text parameters of a statement. -/
def parameters (texts : List Bytes) : PgM Unit :=
  if texts.all isText then pure () else fail (.sql .characterNotInRepertoire)

/-- A list of strings in a column of JSON.  The encoder replaces what is no character; the column
does not take the escaped NUL. -/
def jsonParameter (strings : List Bytes) : PgM (List Bytes) :=
  if strings.all fun string => (0x00 : UInt8) ∉ string then
    pure (strings.map Text.toValidUTF8)
  else fail (.sql .untranslatableCharacter)

def notNull {α : Type} : Option α → PgM α
  | some value => pure value
  | none => fail (.sql .notNullViolation)

def notFound {α : Type} : PgM α := fail (.store .notFound)

/-- The first row of a query. -/
def queryRow {α : Type} (query : Tables → Option α) : PgM α := do
  match ← get fun d => query d.tables with
  | some row => pure row
  | none => notFound

def isForeignKeyViolation : Failure → Bool
  | .sql (.foreignKeyViolation _) => true
  | _ => false

/-- A row whose device is not there is reported as not found. -/
def referenced {α : Type} (m : PgM α) : PgM α := do
  match ← attempt m with
  | .ok a => pure a
  | .error e => if isForeignKeyViolation e then notFound else fail e

def nextOperationsID : PgM Int := fun d =>
  (.ok (d.operationsID + 1), { d with operationsID := d.operationsID + 1 })

def nextOperationResultsID : PgM Int := fun d =>
  (.ok (d.operationResultsID + 1), { d with operationResultsID := d.operationResultsID + 1 })

def nextNotificationsID : PgM Int := fun d =>
  (.ok (d.notificationsID + 1), { d with notificationsID := d.notificationsID + 1 })

def Tables.device (t : Tables) (key : DeviceKey) : Option DeviceRow :=
  t.devices.find? fun row => row.key = key

/-- The list of a device, which must be there if the list is empty. -/
def listOf {α : Type} (key : DeviceKey) (rows : Tables → List α) : PgM (List α) := do
  let items ← get fun d => rows d.tables
  if items.isEmpty then
    let _ ← queryRow fun t => t.device key
    return items
  else return items

/-! ## Devices and profile states -/

/-- The row that `INSERT INTO devices (tenant_id, eid)` makes. -/
def newDevice (key : DeviceKey) : DeviceRow := ⟨key, 1, 1, by decide, by decide⟩

def registerDevice (tenantID : TenantID) (eid : Bytes) : PgM Unit := do
  let key := newDeviceKey tenantID eid
  parameters [key.tenantID, eid]
  statement fun t => { t with
    devices := Table.upsert DeviceRow.key (fun old _ => old) (newDevice key) t.devices }

def getProfileState (tenantID : TenantID) (eid iccid : Bytes) : PgM ProfileState := do
  let key := newProfileStateKey tenantID eid iccid
  parameters [key.tenantID, eid, iccid]
  return (← queryRow fun t => t.profileState.find? fun row => row.key = key).state

variable (collation : Bytes → Bytes → Bool)

def listProfileStates (tenantID : TenantID) (eid : Bytes) : PgM (List ProfileState) := do
  let key := newDeviceKey tenantID eid
  parameters [key.tenantID, eid]
  listOf key fun t =>
    ((t.profileState.filter fun row => row.device = key).map ProfileStateRow.state).insertionSort
      fun a b => collation a.iccid b.iccid

def setProfileState (tenantID : TenantID) (state : ProfileState) : PgM Unit := do
  let tenant := normalizeTenantID tenantID
  referenced do
    parameters [tenant, state.eid, state.iccid, state.smdpAddress]
    statement fun t => { t with
      profileState := Table.upsert ProfileStateRow.key
        (fun old excluded => { old with state := { old.state with
          isEnabled := excluded.state.isEnabled
          isFallback := excluded.state.isFallback
          smdpAddress := excluded.state.smdpAddress } })
        ⟨tenant, state⟩ t.profileState }

def deleteProfileState (tenantID : TenantID) (eid iccid : Bytes) : PgM Unit := do
  let key := newProfileStateKey tenantID eid iccid
  parameters [key.tenantID, eid, iccid]
  let _ ← queryRow fun t => t.profileState.find? fun row => row.key = key
  statement fun t => { t with profileState := t.profileState.filter fun row => row.key ≠ key }

/-! ## eUICC states -/

def getEUICCState (tenantID : TenantID) (eid : Bytes) : PgM EUICCState := do
  let key := newDeviceKey tenantID eid
  parameters [key.tenantID, eid]
  return (← queryRow fun t => t.euiccState.find? fun row => row.key = key).state

def setEUICCState (tenantID : TenantID) (state : EUICCState) : PgM Unit := do
  let tenant := normalizeTenantID tenantID
  referenced do
    parameters [tenant, state.eid, state.defaultSMDPAddress, state.rootSMDSAddress]
    let identifiers ← jsonParameter state.certificateIdentifiers
    statement fun t => { t with
      euiccState := Table.upsert EUICCStateRow.key
        (fun old excluded => { old with state := { excluded.state with eid := old.state.eid } })
        ⟨tenant, { state with certificateIdentifiers := identifiers }⟩ t.euiccState }

/-! ## Counters and the operation queue -/

def nextEUICCPackageCounter (tenantID : TenantID) (eid : Bytes) : PgM Int := do
  let key := newDeviceKey tenantID eid
  parameters [key.tenantID, eid]
  let device ← queryRow fun t => t.device key
  statement fun t => { t with
    devices := Table.update (fun row => row.key = key)
      (fun row => { row with
        nextEUICCPackageCounter := row.nextEUICCPackageCounter + 1
        counter_pos := Int.lt_add_one_of_le row.counter_pos.le })
      t.devices }
  return device.nextEUICCPackageCounter

/-- The name of a kind, as it is stored. -/
def kindName : OperationKind → Bytes
  | .euiccPackage => text "euicc-package"
  | .profileDownloadTrigger => text "profile-download-trigger"
  | .ipaEuiccData => text "ipa-euicc-data"
  | .other name => name

def enqueueOperation (tenantID : TenantID) (eid : Bytes) (kind : OperationKind)
    (payload : Option Bytes) : PgM Operation := transaction do
  let key := newDeviceKey tenantID eid
  parameters [key.tenantID, eid]
  let device ← queryRow fun t => t.device key
  statement fun t => { t with
    devices := Table.update (fun row => row.key = key)
      (fun row => { row with
        nextSequenceNumber := row.nextSequenceNumber + 1
        sequence_pos := Int.lt_add_one_of_le row.sequence_pos.le })
      t.devices }
  parameters [key.tenantID, eid, kindName kind]
  let id ← nextOperationsID
  let payload ← notNull payload
  let operation : Operation := ⟨id, eid, device.nextSequenceNumber, kind, payload, .pending⟩
  statement fun t => { t with
    operations := t.operations ++ [⟨⟨key.tenantID, operation⟩, device.sequence_pos⟩] }
  return operation

def getOperation (tenantID : TenantID) (operationID : Int) : PgM Operation := do
  let tenant := normalizeTenantID tenantID
  parameters [tenant]
  let row ← queryRow fun t => t.operations.find? fun row =>
    row.tenantID = tenant ∧ row.id = operationID
  return row.operation

def getOperationBySequence (tenantID : TenantID) (eid : Bytes) (sequenceNumber : Int) :
    PgM Operation := do
  let tenant := normalizeTenantID tenantID
  parameters [tenant, eid]
  let row ← queryRow fun t => t.operations.find? fun row => row.key = ⟨tenant, eid, sequenceNumber⟩
  return row.operation

/-- The operations that satisfy a condition, by sequence number, up to a limit. -/
def Tables.selectOperations (t : Tables) (p : OperationRow → Bool) (limit : Int) :
    List Operation :=
  (((t.operations.filter p).map fun row => row.operation).insertionSort
    fun a b => a.sequenceNumber ≤ b.sequenceNumber).take limit.toNat

def fetchPendingOperations (tenantID : TenantID) (eid : Bytes) (limit : Int) :
    PgM (List Operation) := do
  if limit ≤ 0 then return []
  let key := newDeviceKey tenantID eid
  parameters [key.tenantID, eid]
  get fun d => d.tables.selectOperations
    (fun row => row.device = key ∧ row.operation.status = .pending) limit

def listOperations (tenantID : TenantID) (eid : Bytes) (limit : Int) : PgM (List Operation) := do
  if limit ≤ 0 then return []
  let key := newDeviceKey tenantID eid
  parameters [key.tenantID, eid]
  get fun d => d.tables.selectOperations (fun row => row.device = key) limit

def listPendingOperations (tenantID : TenantID) (limit : Int) : PgM (List Operation) := do
  if limit ≤ 0 then return []
  let tenant := normalizeTenantID tenantID
  parameters [tenant]
  get fun d => d.tables.selectOperations
    (fun row => row.tenantID = tenant ∧ row.operation.status = .pending) limit

/-! ## Results -/

/-- The device and sequence number of the operation that the result names. -/
def resolveResult (tenant : TenantID) (eid : Bytes) (operationID sequenceNumber : Int) :
    PgM (Bytes × Int) := do
  if operationID = 0 then return (eid, sequenceNumber)
  parameters [tenant]
  let row ← queryRow fun t => t.operations.find? fun row =>
    row.tenantID = tenant ∧ row.id = operationID
  return (row.operation.eid, row.operation.sequenceNumber)

def OperationRow.withStatus (row : OperationRow) (status : OperationStatus) : OperationRow :=
  ⟨row.toMemoryOperation.withStatus status, row.sequence_pos⟩

def insertResult (tenant : TenantID) (eid : Bytes) (operationID sequenceNumber : Int)
    (status : OperationStatus) (payload : Option Bytes) : PgM Unit := do
  parameters [tenant, eid]
  let id ← nextOperationResultsID
  let payload ← notNull payload
  if h : 0 < sequenceNumber then
    statement fun t => { t with
      operationResults := Table.upsert OperationResultRow.key
        (fun old excluded => { old with
          operationID := excluded.operationID
          status := excluded.status
          payload := excluded.payload
          status_final := excluded.status_final })
        ⟨id, tenant, eid, if operationID = 0 then none else some operationID, sequenceNumber,
          normalizeResultStatus status, payload, h, normalizeResultStatus_final status⟩
        t.operationResults }
  else fail (.sql .checkViolation)

def recordEUICCPackageResult (tenantID : TenantID) (eid : Bytes)
    (operationID sequenceNumber : Int) (status : OperationStatus) (payload : Option Bytes) :
    PgM Unit := transaction do
  let tenant := normalizeTenantID tenantID
  let (eid, sequenceNumber) ← resolveResult tenant eid operationID sequenceNumber
  referenced (insertResult tenant eid operationID sequenceNumber status payload)
  statement fun t => { t with
    operations := Table.update
      (fun row =>
        if operationID = 0 then row.key = ⟨tenant, eid, sequenceNumber⟩
        else row.tenantID = tenant ∧ row.id = operationID)
      (fun row => row.withStatus (normalizeResultStatus status)) t.operations }

/-- The rows of an operation and its result. -/
def Tables.joinResults (t : Tables) (tenant : TenantID) (operationID : Int) :
    List OperationResult :=
  (t.operations.filter fun row => row.tenantID = tenant ∧ row.id = operationID).flatMap fun row =>
    (t.operationResults.filter fun result => result.key = row.key).map fun result =>
      ⟨row.id, result.eid, result.sequenceNumber, result.status, result.payload⟩

def getOperationResult (tenantID : TenantID) (operationID : Int) : PgM OperationResult := do
  let tenant := normalizeTenantID tenantID
  parameters [tenant]
  queryRow fun t => (t.joinResults tenant operationID).head?

/-! ## eIM configurations and associations -/

def storeEIMConfig (tenantID : TenantID) (eimID : Bytes) (data : Option Bytes) : PgM Unit := do
  let tenant := normalizeTenantID tenantID
  parameters [tenant, eimID]
  let data ← notNull data
  statement fun t => { t with
    eimConfig := Table.upsert EIMConfigRow.key
      (fun old excluded => { old with config := { old.config with data := excluded.config.data } })
      ⟨tenant, eimID, data⟩ t.eimConfig }

def readEIMConfig (tenantID : TenantID) (eimID : Bytes) : PgM EIMConfig := do
  let key : ConfigKey := ⟨normalizeTenantID tenantID, eimID⟩
  parameters [key.tenantID, eimID]
  return (← queryRow fun t => t.eimConfig.find? fun row => row.key = key).config

def setAssociatedEIM (tenantID : TenantID) (eid eimID : Bytes) (eimIDType : Option Int)
    (configPayload : Option Bytes) : PgM Unit := do
  let tenant := normalizeTenantID tenantID
  referenced do
    parameters [tenant, eid, eimID]
    let configPayload ← notNull configPayload
    statement fun t => { t with
      associatedEIM := Table.upsert AssociatedEIMRow.key
        (fun old excluded => { old with associated := { old.associated with
          eimIDType := excluded.associated.eimIDType
          configPayload := excluded.associated.configPayload } })
        ⟨tenant, eid, eimID, eimIDType, configPayload⟩ t.associatedEIM }

def deleteAssociatedEIM (tenantID : TenantID) (eid eimID : Bytes) : PgM Unit := do
  let key := newAssociatedEIMKey tenantID eid eimID
  parameters [key.tenantID, eid, eimID]
  let _ ← queryRow fun t => t.associatedEIM.find? fun row => row.key = key
  statement fun t => { t with associatedEIM := t.associatedEIM.filter fun row => row.key ≠ key }

def getAssociatedEIM (tenantID : TenantID) (eid eimID : Bytes) : PgM AssociatedEIM := do
  let key := newAssociatedEIMKey tenantID eid eimID
  parameters [key.tenantID, eid, eimID]
  return (← queryRow fun t => t.associatedEIM.find? fun row => row.key = key).associated

def listAssociatedEIMs (tenantID : TenantID) (eid : Bytes) : PgM (List AssociatedEIM) := do
  let key := newDeviceKey tenantID eid
  parameters [key.tenantID, eid]
  listOf key fun t =>
    ((t.associatedEIM.filter fun row => row.device = key).map
      AssociatedEIMRow.associated).insertionSort fun a b => collation a.eimID b.eimID

/-! ## Notifications -/

def storeNotification (tenantID : TenantID) (eid : Bytes) (sequenceNumber : Int) (kind : Bytes)
    (payload : Option Bytes) : PgM Unit := do
  let tenant := normalizeTenantID tenantID
  referenced do
    parameters [tenant, eid, kind]
    let id ← nextNotificationsID
    let payload ← notNull payload
    if h : 0 < sequenceNumber then
      statement fun t => { t with
        notifications := Table.upsert NotificationRow.key
          (fun old excluded => ⟨old.id, old.tenantID,
            { old.notification with
              kind := excluded.notification.kind
              payload := excluded.notification.payload },
            old.sequence_pos⟩)
          ⟨id, tenant, ⟨eid, sequenceNumber, kind, payload⟩, h⟩ t.notifications }
    else fail (.sql .checkViolation)

def listNotifications (tenantID : TenantID) (eid : Bytes) : PgM (List Notification) := do
  let key := newDeviceKey tenantID eid
  parameters [key.tenantID, eid]
  listOf key fun t =>
    ((t.notifications.filter fun row => row.device = key).map
      NotificationRow.notification).insertionSort fun a b => a.sequenceNumber ≤ b.sequenceNumber

end Postgres

/-! ## Calls -/

open Postgres in
/-- The call on the Postgres store. -/
def StoreCall.postgres (collation : Bytes → Bytes → Bool) : StoreCall → PgM StoreReply
  | registerDevice tenantID eid => do
      Postgres.registerDevice tenantID eid
      return .done
  | getProfileState tenantID eid iccid =>
      return .profileState (← Postgres.getProfileState tenantID eid iccid)
  | listProfileStates tenantID eid =>
      return .profileStates (← Postgres.listProfileStates collation tenantID eid)
  | setProfileState tenantID state => do
      Postgres.setProfileState tenantID state
      return .done
  | deleteProfileState tenantID eid iccid => do
      Postgres.deleteProfileState tenantID eid iccid
      return .done
  | getEUICCState tenantID eid => return .euiccState (← Postgres.getEUICCState tenantID eid)
  | setEUICCState tenantID state => do
      Postgres.setEUICCState tenantID state
      return .done
  | nextEUICCPackageCounter tenantID eid =>
      return .counter (← Postgres.nextEUICCPackageCounter tenantID eid)
  | enqueueOperation tenantID eid kind payload =>
      return .operation (← Postgres.enqueueOperation tenantID eid kind payload)
  | getOperation tenantID operationID =>
      return .operation (← Postgres.getOperation tenantID operationID)
  | getOperationBySequence tenantID eid sequenceNumber =>
      return .operation (← Postgres.getOperationBySequence tenantID eid sequenceNumber)
  | fetchPendingOperations tenantID eid limit =>
      return .operations (← Postgres.fetchPendingOperations tenantID eid limit)
  | listOperations tenantID eid limit =>
      return .operations (← Postgres.listOperations tenantID eid limit)
  | listPendingOperations tenantID limit =>
      return .operations (← Postgres.listPendingOperations tenantID limit)
  | recordEUICCPackageResult tenantID eid operationID sequenceNumber status payload => do
      Postgres.recordEUICCPackageResult tenantID eid operationID sequenceNumber status payload
      return .done
  | getOperationResult tenantID operationID =>
      return .result (← Postgres.getOperationResult tenantID operationID)
  | storeEIMConfig tenantID eimID data => do
      Postgres.storeEIMConfig tenantID eimID data
      return .done
  | readEIMConfig tenantID eimID => return .config (← Postgres.readEIMConfig tenantID eimID)
  | setAssociatedEIM tenantID eid eimID eimIDType configPayload => do
      Postgres.setAssociatedEIM tenantID eid eimID eimIDType configPayload
      return .done
  | deleteAssociatedEIM tenantID eid eimID => do
      Postgres.deleteAssociatedEIM tenantID eid eimID
      return .done
  | getAssociatedEIM tenantID eid eimID =>
      return .associatedEIM (← Postgres.getAssociatedEIM tenantID eid eimID)
  | listAssociatedEIMs tenantID eid =>
      return .associatedEIMs (← Postgres.listAssociatedEIMs collation tenantID eid)
  | storeNotification tenantID eid sequenceNumber kind payload => do
      Postgres.storeNotification tenantID eid sequenceNumber kind payload
      return .done
  | listNotifications tenantID eid =>
      return .notifications (← Postgres.listNotifications tenantID eid)

end OpenIotRsp.Storage
