import OpenIotRsp.Verification.Dataact.Bundle
import OpenIotRsp.Verification.Storage.DatabaseNumbers

/-!
# Imports and the numbers of the devices

An import writes the numbers of the bundle over those of the devices, whatever
they are.  The numbers stay ahead of the operations, and the counters that are
handed out increase, as long as no bundle is behind the database it is imported
into.
-/

namespace OpenIotRsp.Storage.Postgres

open Octets Stateful Dataact

variable {γ : Type} {f : Tables → γ} {tenantID : TenantID} {J : Json} {bundle : BundlePayload}
  {d d' : Database} {key : DeviceKey}

/-! ## Rows -/

theorem keeps_decodeOptionalBase64 (f : Tables → γ) (value : Bytes) :
    KeepsTables f (decodeOptionalBase64 value) := by
  refine Keeps.ite (fun _ => keeps_pure _ _) fun _ => ?_
  cases Base64.decode value with
  | some out => exact keeps_pure _ _
  | none => exact keeps_fail _ _

theorem keeps_decodeCertificateIdentifiers (f : Tables → γ) (J : Json) (raw : Bytes) :
    KeepsTables f (decodeCertificateIdentifiers J raw) := by
  refine Keeps.ite (fun _ => keeps_pure _ _) fun _ => ?_
  cases J.strings raw with
  | some identifiers => exact keeps_pure _ _
  | none => exact keeps_fail _ _

theorem keeps_notificationSequence (f : Tables → γ) (record : NotificationRecord) :
    KeepsTables f (notificationSequence record) := by
  rw [notificationSequence]
  split
  next => exact keeps_pure _ _
  next => exact keeps_fail _ _

theorem keeps_importProfileState
    (hf : ∀ (t : Tables) rows, f { t with profileState := rows } = f t)
    (tenantID : TenantID) (state : ProfileStateRecord) :
    KeepsTables f (importProfileState tenantID state) :=
  (keeps_parameters f _).bind fun _ => keeps_statement fun t => hf t _

theorem keeps_importAssociatedEIM
    (hf : ∀ (t : Tables) rows, f { t with associatedEIM := rows } = f t)
    (tenantID : TenantID) (associated : AssociatedEIMRecord) :
    KeepsTables f (importAssociatedEIM tenantID associated) :=
  (keeps_decodeOptionalBase64 f _).bind fun _ => (keeps_parameters f _).bind fun _ =>
    (keeps_notNull f _).bind fun _ => keeps_statement fun t => hf t _

theorem keeps_importEUICCState
    (hf : ∀ (t : Tables) rows, f { t with euiccState := rows } = f t)
    (tenantID : TenantID) (J : Json) (state : EUICCStateRecord) :
    KeepsTables f (importEUICCState tenantID J state) := by
  have hdecode := keeps_decodeOptionalBase64 f
  exact (hdecode _).bind fun _ => (hdecode _).bind fun _ => (hdecode _).bind fun _ =>
    (hdecode _).bind fun _ => (hdecode _).bind fun _ => (hdecode _).bind fun _ =>
    (hdecode _).bind fun _ => (hdecode _).bind fun _ =>
    (keeps_decodeCertificateIdentifiers f J _).bind fun _ => (keeps_parameters f _).bind fun _ =>
    (keeps_jsonParameter f _).bind fun _ => keeps_statement fun t => hf t _

theorem keeps_importNotification
    (hf : ∀ (t : Tables) rows, f { t with notifications := rows } = f t)
    (tenantID : TenantID) (notification : NotificationRecord) :
    KeepsTables f (importNotification tenantID notification) := by
  refine (keeps_decodeOptionalBase64 f _).bind fun _ =>
    (keeps_notificationSequence f _).bind fun _ => (keeps_parameters f _).bind fun _ =>
    (keeps_notNull f _).bind fun _ => ?_
  split
  next => exact keeps_statement fun t => hf t _
  next => exact keeps_fail _ _

theorem keeps_setval {value : Int} {set : Database → Database}
    (hset : ∀ d, (set d).tables = d.tables) : KeepsTables f (setval value set) :=
  Keeps.ite (fun _ => keeps_fail _ _) fun _ => keeps_modify fun d => congrArg f (hset d)

theorem keeps_syncImportSequences (f : Tables → γ) : KeepsTables f syncImportSequences := by
  refine (keeps_get _ _).bind fun _ => Keeps.bind (keeps_setval ?_) fun _ =>
    (keeps_get _ _).bind fun _ => keeps_setval ?_
  · exact fun _ => rfl
  · exact fun _ => rfl

/-! ## Numbers of a bundle -/

def recordNumbers (record : DeviceRecord) : Int × Int :=
  (record.nextSequenceNumber, record.nextEUICCPackageCounter)

def recordKey (tenantID : TenantID) (operation : OperationRecord) : ResultKey :=
  ⟨normalizeTenantID tenantID, operation.eid, operation.sequenceNumber⟩

/-- The last record of a device in the bundle. -/
def lastRecord (tenantID : TenantID) (bundle : BundlePayload) (key : DeviceKey) :
    Option DeviceRecord :=
  bundle.devices.reverse.find? fun record => newDeviceKey tenantID record.eid = key

/-- The numbers after an import. -/
def Numbers.imported (n : Numbers) (tenantID : TenantID) (bundle : BundlePayload) : Numbers where
  next key :=
    ((lastRecord tenantID bundle key).map fun record => some (recordNumbers record)).getD
      (n.next key)
  used key := n.used key ∨ ∃ operation ∈ bundle.operations, key = recordKey tenantID operation

def Tables.nextNumbers (t : Tables) : DeviceKey → Option (Int × Int) := t.numbers.next

def Tables.usedNumbers (t : Tables) : ResultKey → Prop := t.numbers.used

theorem next_importDevice (tenantID : TenantID) (record : DeviceRecord) :
    WritesTables Tables.nextNumbers (importDevice tenantID record) fun next =>
      Function.update next (newDeviceKey tenantID record.eid) (some (recordNumbers record)) := by
  refine (keeps_parameters _ _).bind_writes fun _ => ?_
  split
  next =>
      refine writes_statement fun t => funext fun key => ?_
      dsimp only [Tables.nextNumbers, Tables.numbers, Tables.device]
      rw [Table.find?_upsert fun old h => h]
      by_cases hkey : key = newDeviceKey tenantID record.eid
      · rw [if_pos hkey, hkey, Function.update_self]
        cases t.devices.find? fun row => row.key = newDeviceKey tenantID record.eid <;> rfl
      · rw [if_neg hkey, Function.update_of_ne hkey]
  next => exact writes_fail _ _

theorem used_importDevice (tenantID : TenantID) (record : DeviceRecord) :
    KeepsTables Tables.usedNumbers (importDevice tenantID record) := by
  refine (keeps_parameters _ _).bind fun _ => ?_
  split
  next => exact keeps_statement fun _ => rfl
  next => exact keeps_fail _ _

theorem next_importOperation (tenantID : TenantID) (record : OperationRecord) :
    KeepsTables Tables.nextNumbers (importOperation tenantID record) := by
  refine (keeps_decodeOptionalBase64 _ _).bind fun _ => (keeps_parameters _ _).bind fun _ =>
    (keeps_notNull _ _).bind fun _ => ?_
  split
  next => exact keeps_fail _ _
  next =>
      split
      next => exact keeps_statement fun _ => rfl
      next => exact keeps_fail _ _

theorem used_importOperation (tenantID : TenantID) (record : OperationRecord) :
    WritesTables Tables.usedNumbers (importOperation tenantID record) fun used key =>
      used key ∨ key = recordKey tenantID record := by
  refine (keeps_decodeOptionalBase64 _ _).bind_writes fun _ =>
    (keeps_parameters _ _).bind_writes fun _ => (keeps_notNull _ _).bind_writes fun _ => ?_
  split
  next => exact writes_fail _ _
  next =>
      split
      next =>
          refine writes_statement fun t => funext fun key => propext ?_
          dsimp only [Tables.usedNumbers, Tables.numbers]
          rw [Table.mem_map_upsert fun old h => h]
          rfl
      next => exact writes_fail _ _

/-- The tables that hold no numbers. -/
structure IgnoresOthers (f : Tables → γ) : Prop where
  euiccState : ∀ (t : Tables) rows, f { t with euiccState := rows } = f t
  profileState : ∀ (t : Tables) rows, f { t with profileState := rows } = f t
  associatedEIM : ∀ (t : Tables) rows, f { t with associatedEIM := rows } = f t
  notifications : ∀ (t : Tables) rows, f { t with notifications := rows } = f t

theorem ignoresOthers_next : IgnoresOthers Tables.nextNumbers :=
  ⟨fun _ _ => rfl, fun _ _ => rfl, fun _ _ => rfl, fun _ _ => rfl⟩

theorem ignoresOthers_used : IgnoresOthers Tables.usedNumbers :=
  ⟨fun _ _ => rfl, fun _ _ => rfl, fun _ _ => rfl, fun _ _ => rfl⟩

/-- An import changes the numbers by the records of its devices and operations. -/
theorem writes_importBundle (hf : IgnoresOthers f) {w w' : γ → γ}
    (hdevices : WritesTables f (bundle.devices.forM (importDevice tenantID)) w)
    (hoperations : WritesTables f (bundle.operations.forM (importOperation tenantID)) w') :
    WritesTables f (importBundle tenantID J bundle) (w' ∘ w) := by
  have heuicc : KeepsTables f (bundle.euiccStates.forM (importEUICCState tenantID J)) :=
    Keeps.forM fun state _ => keeps_importEUICCState hf.euiccState tenantID J state
  have hprofile : KeepsTables f (bundle.profileStates.forM (importProfileState tenantID)) :=
    Keeps.forM fun state _ => keeps_importProfileState hf.profileState tenantID state
  have hassociated : KeepsTables f (bundle.associatedEIM.forM (importAssociatedEIM tenantID)) :=
    Keeps.forM fun record _ => keeps_importAssociatedEIM hf.associatedEIM tenantID record
  have hnotifications : KeepsTables f (bundle.notifications.forM (importNotification tenantID)) :=
    Keeps.forM fun record _ => keeps_importNotification hf.notifications tenantID record
  exact writes_transaction (hdevices.bind fun _ => heuicc.bind_writes fun _ =>
    hprofile.bind_writes fun _ => hassociated.bind_writes fun _ =>
    hoperations.bind_keeps fun _ => hnotifications.bind fun _ => keeps_syncImportSequences f)

/-- What an import does to the numbers. -/
theorem numbers_importBundle {u : Unit} (h : importBundle tenantID J bundle d = (.ok u, d')) :
    d'.tables.numbers = d.tables.numbers.imported tenantID bundle := by
  have hnext := writes_importBundle ignoresOthers_next
    (Writes.forM fun record _ => next_importDevice tenantID record)
    (Keeps.forM fun record _ => next_importOperation tenantID record).writes d u d' h
  have hused := writes_importBundle ignoresOthers_used
    (Keeps.forM fun record _ => used_importDevice tenantID record).writes
    (Writes.forM fun record _ => used_importOperation tenantID record) d u d' h
  refine congrArg₂ Numbers.mk (funext fun key => ?_) (funext fun key => propext ?_)
  · exact (congrFun hnext key).trans (Function.foldl_update ..)
  · exact (iff_of_eq (congrFun hused key)).trans (Function.foldl_or ..)

/-! ## Bundles that are not behind -/

/-- An operation of the device, stored or in the bundle, has the sequence number. -/
def InUse (tenantID : TenantID) (bundle : BundlePayload) (t : Tables) (key : DeviceKey)
    (sequenceNumber : Int) : Prop :=
  (∃ row ∈ t.operations, row.key = ⟨key.tenantID, key.eid, sequenceNumber⟩) ∨
    ∃ operation ∈ bundle.operations,
      ⟨key.tenantID, key.eid, sequenceNumber⟩ = recordKey tenantID operation

/-- The bundle is not behind the tables, nor behind its own operations. -/
structure Forward (tenantID : TenantID) (bundle : BundlePayload) (t : Tables) : Prop where
  notBehind : ∀ key device record, t.device key = some device →
    lastRecord tenantID bundle key = some record →
      device.nextSequenceNumber ≤ record.nextSequenceNumber ∧
        device.nextEUICCPackageCounter ≤ record.nextEUICCPackageCounter
  /-- devices of the bundle -/
  above : ∀ key record, lastRecord tenantID bundle key = some record →
    ∀ sequenceNumber, InUse tenantID bundle t key sequenceNumber →
      sequenceNumber < record.nextSequenceNumber
  /-- devices that the bundle leaves alone -/
  others : ∀ key device, t.device key = some device → lastRecord tenantID bundle key = none →
    ∀ sequenceNumber, InUse tenantID bundle t key sequenceNumber →
      sequenceNumber < device.nextSequenceNumber

theorem imported_used_iff {t : Tables} {sequenceNumber : Int} :
    (t.numbers.imported tenantID bundle).used ⟨key.tenantID, key.eid, sequenceNumber⟩ ↔
      InUse tenantID bundle t key sequenceNumber :=
  or_congr used_iff Iff.rfl

theorem imported_next_of_record {n : Numbers} {record : DeviceRecord}
    (h : lastRecord tenantID bundle key = some record) :
    (n.imported tenantID bundle).next key = some (recordNumbers record) := by
  simp [Numbers.imported, h]

theorem imported_next_of_none {n : Numbers} (h : lastRecord tenantID bundle key = none) :
    (n.imported tenantID bundle).next key = n.next key := by
  simp [Numbers.imported, h]

theorem device_of_next {t : Tables} {next : Int × Int} (h : t.numbers.next key = some next) :
    ∃ device, t.device key = some device ∧ device.numbers = next :=
  Option.map_eq_some_iff.mp h

/-- The import sets no device back, and leaves each ahead of its operations, just when the bundle is
not behind. -/
theorem imported_iff {t : Tables} :
    t.numbers.NotRewound (t.numbers.imported tenantID bundle) ∧
        (t.numbers.imported tenantID bundle).Ahead ↔
      Forward tenantID bundle t := by
  constructor
  · rintro ⟨hnext, hahead⟩
    refine ⟨fun key device record hdevice hrecord => ?_, fun key record hrecord k hk => ?_,
      fun key device hdevice hnone k hk => ?_⟩
    · obtain ⟨next', hnext', hsequence, hcounter⟩ := hnext key _ (next_of_device hdevice)
      obtain rfl := Option.some.inj ((imported_next_of_record hrecord).symm.trans hnext')
      exact ⟨hsequence, hcounter⟩
    · exact hahead key _ (imported_next_of_record hrecord) k (imported_used_iff.mpr hk)
    · exact hahead key _ ((imported_next_of_none hnone).trans (next_of_device hdevice)) k
        (imported_used_iff.mpr hk)
  · intro hforward
    refine ⟨fun key next hnext => ?_, fun key next hnext k hk => ?_⟩
    · obtain ⟨device, hdevice, rfl⟩ := device_of_next hnext
      cases hrecord : lastRecord tenantID bundle key with
      | none => exact ⟨_, (imported_next_of_none hrecord).trans hnext, le_rfl, le_rfl⟩
      | some record =>
          exact ⟨_, imported_next_of_record hrecord,
            hforward.notBehind key device record hdevice hrecord⟩
    · have hk := imported_used_iff.mp hk
      cases hrecord : lastRecord tenantID bundle key with
      | none =>
          rw [imported_next_of_none hrecord] at hnext
          obtain ⟨device, hdevice, rfl⟩ := device_of_next hnext
          exact hforward.others key device hdevice hrecord k hk
      | some record =>
          rw [imported_next_of_record hrecord] at hnext
          obtain rfl := Option.some.inj hnext
          exact hforward.above key record hrecord k hk

/-! ## Runs -/

/-- What happens to a database. -/
inductive DatabaseEvent where
  | call (call : StoreCall)
  | importBundle (tenantID : TenantID) (bundle : BundlePayload)

def DatabaseEvent.run (collation : Bytes → Bytes → Bool) (J : Json) :
    DatabaseEvent → PgM StoreReply
  | call request => request.postgres collation
  | importBundle tenantID bundle => do
      Postgres.importBundle tenantID J bundle
      return .done

def DatabaseEvent.step (collation : Bytes → Bytes → Bool) (J : Json) (d : Database)
    (event : DatabaseEvent) : Database :=
  (event.run collation J d).2

/-- The counter that an event hands out, with its device. -/
def DatabaseEvent.issues : DatabaseEvent → Except Failure StoreReply → Option (DeviceKey × Int)
  | call request, reply => request.issues reply
  | importBundle .., _ => none

/-- Bundles are imported only where they are not behind. -/
def DatabaseEvent.Allowed (d : Database) : DatabaseEvent → Prop
  | call _ => True
  | importBundle tenantID bundle => Forward tenantID bundle d.tables

section

variable (collation : Bytes → Bytes → Bool) (J : Json)

/-- The counters that a run hands out. -/
def issuedCounters : Database → List DatabaseEvent → List (DeviceKey × Int)
  | _, [] => []
  | d, event :: events =>
      (event.issues (event.run collation J d).1).toList ++
        issuedCounters (event.step collation J d) events

/-- Every event that is allowed is a step of the numbers. -/
theorem step_event {event : DatabaseEvent} (hallowed : event.Allowed d) :
    d.tables.numbers.Step (event.issues (event.run collation J d).1)
      (event.step collation J d).tables.numbers := by
  cases event with
  | call request => exact step_call collation request d
  | importBundle tenantID bundle =>
      have hstate : (DatabaseEvent.step collation J d (.importBundle tenantID bundle)) =
          (importBundle tenantID J bundle d).2 :=
        bind_state_of_readOnly (fun _ _ => rfl) d
      rw [hstate]
      rcases hrun : importBundle tenantID J bundle d with ⟨r, d'⟩
      cases r with
      | error e =>
          rw [(transaction_eq_error hrun).2]
          exact .keep
      | ok u =>
          obtain ⟨hnext, hahead⟩ := imported_iff.mpr hallowed
          rw [← numbers_importBundle hrun] at hnext hahead
          exact .forward hnext hahead

end

section

variable {collation : Bytes → Bytes → Bool} {J : Json} {events : List DatabaseEvent}

/-- No counter of a run is below the next one of its device at the start. -/
theorem le_of_issued
    (hevents : Run.Meets (DatabaseEvent.step collation J) DatabaseEvent.Allowed d events)
    {issued : DeviceKey × Int} (hissued : issued ∈ issuedCounters collation J d events)
    {next : Int × Int} (hnext : d.tables.numbers.next issued.1 = some next) :
    next.2 ≤ issued.2 := by
  induction events generalizing d next with
  | nil => cases hissued
  | cons event events ih =>
      obtain ⟨hallowed, hevents⟩ := hevents
      have hstep := step_event collation J hallowed
      rcases List.mem_append.mp hissued with hfirst | hlater
      · rw [Option.mem_toList.mp hfirst] at hstep
        obtain ⟨next', -, hnext', hvalue, -⟩ := hstep.issues
        obtain rfl := Option.some.inj (hnext.symm.trans hnext')
        exact hvalue.le
      · obtain ⟨next', hnext', -, hle⟩ := hstep.notRewound _ next hnext
        exact hle.trans (ih hevents hlater hnext')

/-- The counters of a device increase. -/
theorem pairwise_issuedCounters
    (hevents : Run.Meets (DatabaseEvent.step collation J) DatabaseEvent.Allowed d events) :
    (issuedCounters collation J d events).Pairwise fun a b => a.1 = b.1 → a.2 < b.2 := by
  induction events generalizing d with
  | nil => exact .nil
  | cons event events ih =>
      obtain ⟨hallowed, hevents⟩ := hevents
      have hstep := step_event collation J hallowed
      rw [issuedCounters]
      cases hissued : event.issues (event.run collation J d).1 with
      | none => exact ih hevents
      | some issued =>
          rw [hissued] at hstep
          obtain ⟨-, next', -, -, hnext', hlt⟩ := hstep.issues
          refine List.pairwise_cons.mpr ⟨fun later hlater hsame => ?_, ih hevents⟩
          exact hlt.trans_le (le_of_issued hevents hlater (hsame ▸ hnext'))

/-- The numbers stay ahead. -/
theorem ahead_after
    (hevents : Run.Meets (DatabaseEvent.step collation J) DatabaseEvent.Allowed d events)
    (hd : d.tables.numbers.Ahead) :
    (Run.after (DatabaseEvent.step collation J) d events).tables.numbers.Ahead := by
  refine hevents.invariant (P := fun d => d.tables.numbers.Ahead) ?_ hd
  exact fun d event hd hallowed => (step_event collation J hallowed).ahead hd

end

/-- An import sets no device back and leaves each ahead of its operations just when the bundle is
not behind.  In a run with such imports, the counters of each device increase and no sequence number
is taken twice. -/
theorem import_forward_iff (collation : Bytes → Bytes → Bool) (J : Json) :
    (∀ (d d' : Database) (tenantID : TenantID) (bundle : BundlePayload),
        importBundle tenantID J bundle d = (.ok (), d') →
          (d.tables.numbers.NotRewound d'.tables.numbers ∧ d'.tables.numbers.Ahead ↔
            Forward tenantID bundle d.tables)) ∧
      ∀ (d : Database) (events : List DatabaseEvent), d.tables.numbers.Ahead →
        Run.Meets (DatabaseEvent.step collation J) DatabaseEvent.Allowed d events →
          ((issuedCounters collation J d events).Pairwise fun a b => a.1 = b.1 → a.2 < b.2) ∧
            ∀ before tenantID eid kind payload after,
              events = before ++ .call (.enqueueOperation tenantID eid kind payload) :: after →
                (enqueueOperation tenantID eid kind payload
                    (Run.after (DatabaseEvent.step collation J) d before)).1 ≠
                  .error (.sql (.uniqueViolation .operationsSequence)) := by
  refine ⟨fun d d' tenantID bundle hrun => ?_, fun d events hd hevents =>
    ⟨pairwise_issuedCounters hevents, fun before tenantID eid kind payload after hsplit => ?_⟩⟩
  · rw [numbers_importBundle hrun]
    exact imported_iff
  · subst hsplit
    have hahead := ahead_after (Run.meets_append.mp hevents).1 hd
    exact not_collides hahead tenantID eid kind payload

/-! ## Examples -/

def sampleTenant : TenantID := text "tenant-a"

def sampleEID : Bytes := text "e"

def sampleRegister : DatabaseEvent := .call (.registerDevice sampleTenant sampleEID)

def sampleSign : DatabaseEvent := .call (.nextEUICCPackageCounter sampleTenant sampleEID)

def sampleEnqueue : DatabaseEvent :=
  .call (.enqueueOperation sampleTenant sampleEID .euiccPackage (some []))

def sampleBundle (sequenceNumber counter : Int) : BundlePayload :=
  ⟨sampleManifest true sampleTenant 1, [⟨sampleEID, sequenceNumber, counter⟩], [], [], [], [], [], []⟩

def sampleStep : Database → DatabaseEvent → Database :=
  DatabaseEvent.step (fun a b => decide (a ≤ b)) sampleJson

def sampleUsed : Database := Run.after sampleStep Database.empty [sampleRegister, sampleEnqueue]

theorem sampleUsed_forward : Forward sampleTenant (sampleBundle 5 5) sampleUsed.tables := by
  have hdevices : ∀ device ∈ sampleUsed.tables.devices,
      device.nextSequenceNumber ≤ 5 ∧ device.nextEUICCPackageCounter ≤ 5 ∧
        lastRecord sampleTenant (sampleBundle 5 5) device.key ≠ none := by
    decide +kernel
  have hoperations : ∀ row ∈ sampleUsed.tables.operations, row.operation.sequenceNumber < 5 := by
    decide +kernel
  have hrecord : ∀ {key record}, lastRecord sampleTenant (sampleBundle 5 5) key = some record →
      record = ⟨sampleEID, 5, 5⟩ := fun h => List.mem_singleton.mp (List.mem_of_find?_eq_some h)
  refine ⟨fun key device record hdevice h => ?_, fun key record h k hk => ?_,
    fun key device hdevice h => ?_⟩
  · obtain ⟨hsequence, hcounter, -⟩ := hdevices device (List.mem_of_find?_eq_some hdevice)
    rw [hrecord h]
    exact ⟨hsequence, hcounter⟩
  · rw [hrecord h]
    rcases hk with ⟨row, hrow, hkey⟩ | ⟨operation, hoperation, -⟩
    · have hsequence : row.operation.sequenceNumber = k :=
        congrArg ResultKey.sequenceNumber hkey
      exact hsequence ▸ hoperations row hrow
    · cases hoperation
  · obtain ⟨-, -, hnone⟩ := hdevices device (List.mem_of_find?_eq_some hdevice)
    rw [key_of_device hdevice] at hnone
    exact absurd h hnone

/-- A later bundle moves the device forward, in a run as in one step. -/
theorem import_forward_iff_later :
    (importBundle sampleTenant sampleJson (sampleBundle 5 5) sampleUsed).1 = .ok () ∧
      (importBundle sampleTenant sampleJson (sampleBundle 5 5)
        sampleUsed).2.tables.numbers.Ahead ∧
      (issuedCounters (fun a b => decide (a ≤ b)) sampleJson Database.empty
        [sampleRegister, sampleEnqueue, .importBundle sampleTenant (sampleBundle 5 5),
          sampleSign]).Pairwise fun a b => a.1 = b.1 → a.2 < b.2 := by
  have hrun : (importBundle sampleTenant sampleJson (sampleBundle 5 5) sampleUsed).1 = .ok () := by
    decide +kernel
  obtain ⟨hstep, hruns⟩ := import_forward_iff (fun a b => decide (a ≤ b)) sampleJson
  refine ⟨hrun, ?_, ?_⟩
  · exact ((hstep sampleUsed _ sampleTenant _ (Prod.ext hrun rfl)).mpr sampleUsed_forward).2
  · refine (hruns Database.empty _ ahead_empty ?_).1
    exact ⟨trivial, trivial, sampleUsed_forward, trivial, trivial⟩

/-- The archive holds a bundle with the numbers of a new device.  Importing it into the database of
the device later on hands a counter out again, and makes the next operation collide. -/
theorem older_bundle_rewinds :
    sampleImport 1 = .ok (sampleBundle 1 1) ∧
      issuedCounters (fun a b => decide (a ≤ b)) sampleJson Database.empty
          [sampleRegister, sampleSign, .importBundle sampleTenant (sampleBundle 1 1), sampleSign] =
        [(newDeviceKey sampleTenant sampleEID, 1), (newDeviceKey sampleTenant sampleEID, 1)] ∧
      (importBundle sampleTenant sampleJson (sampleBundle 1 1) sampleUsed).1 = .ok () ∧
      (enqueueOperation sampleTenant sampleEID .euiccPackage (some [])
          (importBundle sampleTenant sampleJson (sampleBundle 1 1) sampleUsed).2).1 =
        .error (.sql (.uniqueViolation .operationsSequence)) := by
  decide +kernel

end OpenIotRsp.Storage.Postgres
