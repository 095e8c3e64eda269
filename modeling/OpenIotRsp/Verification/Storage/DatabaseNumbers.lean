import OpenIotRsp.Verification.Storage.DatabaseFrame

/-!
# The numbers of the devices

Each device has the next sequence number of its queue and the next package
counter.  What the calls of the store do to them, and to the sequence numbers in
use, is one of four steps.
-/

namespace OpenIotRsp.Storage

open Octets Stateful

variable {α : Type}

namespace Postgres

/-! ## Steps -/

structure Numbers where
  /-- the next sequence number and the next package counter -/
  next : DeviceKey → Option (Int × Int)
  used : ResultKey → Prop

namespace Numbers

variable {n n' : Numbers} {key : DeviceKey} {issued : Option (DeviceKey × Int)}

/-- Every sequence number in use is below the next one of its device. -/
def Ahead (n : Numbers) : Prop :=
  ∀ key next, n.next key = some next →
    ∀ sequenceNumber, n.used ⟨key.tenantID, key.eid, sequenceNumber⟩ → sequenceNumber < next.1

/-- No device is set back. -/
def NotRewound (n n' : Numbers) : Prop :=
  ∀ key next, n.next key = some next →
    ∃ next', n'.next key = some next' ∧ next.1 ≤ next'.1 ∧ next.2 ≤ next'.2

/-- What may happen to the numbers, with the counter that is issued. -/
inductive Step (n : Numbers) : Option (DeviceKey × Int) → Numbers → Prop where
  | keep : Step n none n
  | register (key : DeviceKey) (hnew : n.next key = none)
      (hfree : ∀ sequenceNumber, ¬ n.used ⟨key.tenantID, key.eid, sequenceNumber⟩) :
      Step n none { n with next := Function.update n.next key (some (1, 1)) }
  | draw (key : DeviceKey) {next : Int × Int} (hnext : n.next key = some next) :
      Step n (some (key, next.2))
        { n with next := Function.update n.next key (some (next.1, next.2 + 1)) }
  | enqueue (key : DeviceKey) {next : Int × Int} (hnext : n.next key = some next) :
      Step n none
        { next := Function.update n.next key (some (next.1 + 1, next.2))
          used := fun k => n.used k ∨ k = ⟨key.tenantID, key.eid, next.1⟩ }
  | forward {n' : Numbers} (hnext : n.NotRewound n') (hahead : n'.Ahead) : Step n none n'

theorem notRewound_update {next next' : Int × Int} (hnext : n.next key = some next)
    (hsequence : next.1 ≤ next'.1) (hcounter : next.2 ≤ next'.2) {used : ResultKey → Prop} :
    n.NotRewound ⟨Function.update n.next key (some next'), used⟩ := by
  intro key' old hold
  by_cases hkey : key' = key
  · subst hkey
    obtain rfl := Option.some.inj (hnext.symm.trans hold)
    exact ⟨next', Function.update_self .., hsequence, hcounter⟩
  · exact ⟨old, (Function.update_of_ne hkey ..).trans hold, le_rfl, le_rfl⟩

theorem Step.notRewound (h : n.Step issued n') : n.NotRewound n' := by
  cases h with
  | keep => exact fun key next hnext => ⟨next, hnext, le_rfl, le_rfl⟩
  | register key hnew =>
      intro key' old hold
      have hkey : key' ≠ key := by
        rintro rfl
        rw [hnew] at hold
        cases hold
      exact ⟨old, (Function.update_of_ne hkey ..).trans hold, le_rfl, le_rfl⟩
  | draw key hnext =>
      refine notRewound_update hnext ?_ ?_
      · exact le_rfl
      · exact Int.le_add_one le_rfl
  | enqueue key hnext =>
      refine notRewound_update hnext ?_ ?_
      · exact Int.le_add_one le_rfl
      · exact le_rfl
  | forward hnext => exact hnext

theorem ahead_update {next : Int × Int} (hn : n.Ahead) {used : ResultKey → Prop}
    (hother : ∀ key', key' ≠ key → ∀ sequenceNumber,
      used ⟨key'.tenantID, key'.eid, sequenceNumber⟩ →
        n.used ⟨key'.tenantID, key'.eid, sequenceNumber⟩)
    (hbelow : ∀ sequenceNumber, used ⟨key.tenantID, key.eid, sequenceNumber⟩ →
      sequenceNumber < next.1) :
    Ahead ⟨Function.update n.next key (some next), used⟩ := by
  intro key' next' hnext' sequenceNumber hused
  dsimp only at hnext' hused
  by_cases hkey : key' = key
  · subst hkey
    rw [Function.update_self] at hnext'
    obtain rfl := Option.some.inj hnext'
    exact hbelow sequenceNumber hused
  · rw [Function.update_of_ne hkey] at hnext'
    exact hn key' next' hnext' sequenceNumber (hother key' hkey sequenceNumber hused)

theorem Step.ahead (h : n.Step issued n') (hn : n.Ahead) : n'.Ahead := by
  cases h with
  | keep => exact hn
  | register key hnew hfree =>
      exact ahead_update hn (fun _ _ _ hused => hused) fun k hused => absurd hused (hfree k)
  | draw key hnext =>
      exact ahead_update hn (fun _ _ _ hused => hused) fun k hused => hn key _ hnext k hused
  | enqueue key hnext =>
      refine ahead_update hn (fun key' hkey k hused => ?_) fun k hused => ?_
      · refine hused.resolve_right fun hnew => hkey ?_
        obtain ⟨htenant, heid, -⟩ := ResultKey.mk.inj hnew
        cases key
        cases key'
        exact DeviceKey.mk.injEq .. ▸ ⟨htenant, heid⟩
      · rcases hused with hused | hnew
        · exact Int.lt_add_one_of_le (hn key _ hnext k hused).le
        · obtain ⟨-, -, rfl⟩ := ResultKey.mk.inj hnew
          exact Int.lt_succ _
  | forward _ hahead => exact hahead

/-- A counter that is issued is the next one of the device, and is behind it afterwards. -/
theorem Step.issues {value : Int} (h : n.Step (some (key, value)) n') :
    ∃ next next', n.next key = some next ∧ next.2 = value ∧ n'.next key = some next' ∧
      value < next'.2 := by
  cases h with
  | draw key hnext =>
      exact ⟨_, _, hnext, rfl, Function.update_self .., Int.lt_succ _⟩

end Numbers

/-! ## Calls -/

def DeviceRow.numbers (row : DeviceRow) : Int × Int :=
  (row.nextSequenceNumber, row.nextEUICCPackageCounter)

def Tables.numbers (t : Tables) : Numbers where
  next key := (t.device key).map DeviceRow.numbers
  used key := key ∈ t.operations.map OperationRow.key

variable {d : Database} {tenantID : TenantID} {eid : Bytes}

theorem used_iff {t : Tables} {key : ResultKey} :
    t.numbers.used key ↔ ∃ row ∈ t.operations, row.key = key :=
  List.mem_map

theorem ahead_empty : Database.empty.tables.numbers.Ahead := by
  intro key next hnext
  cases hnext

/-- Only devices have operations. -/
theorem next_isSome_of_used (hvalid : d.tables.Valid) {key : ResultKey}
    (hused : d.tables.numbers.used key) :
    (d.tables.numbers.next ⟨key.tenantID, key.eid⟩).isSome := by
  obtain ⟨row, hrow, rfl⟩ := used_iff.mp hused
  obtain ⟨device, hdevice, hkey⟩ := List.mem_map.mp (hvalid.references .operations row hrow)
  rw [Tables.numbers, Option.isSome_map, Tables.device, List.find?_isSome]
  exact ⟨device, hdevice, decide_eq_true hkey⟩

theorem keeps_resolveResult {γ : Type} (f : Tables → γ) (tenant : TenantID) (eid : Bytes)
    (operationID sequenceNumber : Int) :
    KeepsTables f (resolveResult tenant eid operationID sequenceNumber) :=
  Keeps.ite (fun _ => keeps_pure _ _) fun _ => (keeps_parameters f _).bind fun _ =>
    (keeps_queryRow f _).bind fun _ => keeps_pure _ _

theorem keeps_insertResult {γ : Type} {f : Tables → γ}
    (hf : ∀ (t : Tables) results, f { t with operationResults := results } = f t)
    (tenant : TenantID) (eid : Bytes) (operationID sequenceNumber : Int)
    (status : OperationStatus) (payload : Option Bytes) :
    KeepsTables f (insertResult tenant eid operationID sequenceNumber status payload) := by
  refine (keeps_parameters f _).bind fun _ => (keeps_nextOperationResultsID f).bind fun _ =>
    (keeps_notNull f _).bind fun _ => ?_
  split
  next => exact keeps_statement fun t => hf t _
  next => exact keeps_fail _ _

/-- A result changes the status of operations, not their keys. -/
theorem numbers_recordEUICCPackageResult (tenantID : TenantID) (eid : Bytes)
    (operationID sequenceNumber : Int) (status : OperationStatus) (payload : Option Bytes) :
    KeepsTables Tables.numbers
      (recordEUICCPackageResult tenantID eid operationID sequenceNumber status payload) := by
  refine keeps_transaction ((keeps_resolveResult _ _ _ _ _).bind fun resolved => ?_)
  refine (keeps_referenced (keeps_insertResult (fun _ _ => rfl) _ _ _ _ _ _)).bind fun _ => ?_
  refine keeps_statement fun t => ?_
  exact congrArg (fun keys => (⟨t.numbers.next, (· ∈ keys)⟩ : Numbers))
    (Table.map_update OperationRow.key fun _ _ _ => rfl)

end Postgres

open Postgres

/-- The calls that draw or create numbers. -/
def StoreCall.writesNumbers : StoreCall → Bool
  | .registerDevice .. => true
  | .nextEUICCPackageCounter .. => true
  | .enqueueOperation .. => true
  | _ => false

/-- The other calls read, or write to other tables and columns. -/
theorem keeps_numbers (collation : Bytes → Bytes → Bool) {call : StoreCall}
    (hcall : call.writesNumbers = false) :
    KeepsTables Tables.numbers (call.postgres collation) := by
  let f := Tables.numbers
  have hreply : ∀ {α : Type} {m : PgM α} (reply : α → StoreReply), KeepsTables f m →
      KeepsTables f (do return reply (← m)) := fun reply hm => hm.bind fun _ => keeps_pure _ _
  have hdone : ∀ {m : PgM Unit}, KeepsTables f m → KeepsTables f (do
      m
      return StoreReply.done) := fun hm => hm.bind fun _ => keeps_pure _ _
  have hparameters := keeps_parameters f
  cases call with
  | registerDevice => cases hcall
  | nextEUICCPackageCounter => cases hcall
  | enqueueOperation => cases hcall
  | getProfileState =>
      exact hreply _ ((hparameters _).bind fun _ => (keeps_queryRow f _).bind fun _ => keeps_pure _ _)
  | listProfileStates => exact hreply _ ((hparameters _).bind fun _ => keeps_listOf f _ _)
  | setProfileState =>
      exact hdone (keeps_referenced ((hparameters _).bind fun _ => keeps_statement fun _ => rfl))
  | deleteProfileState =>
      exact hdone ((hparameters _).bind fun _ => (keeps_queryRow f _).bind fun _ =>
        keeps_statement fun _ => rfl)
  | getEUICCState =>
      exact hreply _ ((hparameters _).bind fun _ => (keeps_queryRow f _).bind fun _ => keeps_pure _ _)
  | setEUICCState =>
      exact hdone (keeps_referenced ((hparameters _).bind fun _ =>
        (keeps_jsonParameter f _).bind fun _ => keeps_statement fun _ => rfl))
  | getOperation =>
      exact hreply _ ((hparameters _).bind fun _ => (keeps_queryRow f _).bind fun _ => keeps_pure _ _)
  | getOperationBySequence =>
      exact hreply _ ((hparameters _).bind fun _ => (keeps_queryRow f _).bind fun _ => keeps_pure _ _)
  | fetchPendingOperations =>
      exact hreply _ (Keeps.ite (fun _ => keeps_pure _ _) fun _ =>
        (hparameters _).bind fun _ => keeps_get _ _)
  | listOperations =>
      exact hreply _ (Keeps.ite (fun _ => keeps_pure _ _) fun _ =>
        (hparameters _).bind fun _ => keeps_get _ _)
  | listPendingOperations =>
      exact hreply _ (Keeps.ite (fun _ => keeps_pure _ _) fun _ =>
        (hparameters _).bind fun _ => keeps_get _ _)
  | recordEUICCPackageResult => exact hdone (numbers_recordEUICCPackageResult _ _ _ _ _ _)
  | getOperationResult => exact hreply _ ((hparameters _).bind fun _ => keeps_queryRow f _)
  | storeEIMConfig =>
      exact hdone ((hparameters _).bind fun _ => (keeps_notNull f _).bind fun _ =>
        keeps_statement fun _ => rfl)
  | readEIMConfig =>
      exact hreply _ ((hparameters _).bind fun _ => (keeps_queryRow f _).bind fun _ => keeps_pure _ _)
  | setAssociatedEIM =>
      exact hdone (keeps_referenced ((hparameters _).bind fun _ => (keeps_notNull f _).bind fun _ =>
        keeps_statement fun _ => rfl))
  | deleteAssociatedEIM =>
      exact hdone ((hparameters _).bind fun _ => (keeps_queryRow f _).bind fun _ =>
        keeps_statement fun _ => rfl)
  | getAssociatedEIM =>
      exact hreply _ ((hparameters _).bind fun _ => (keeps_queryRow f _).bind fun _ => keeps_pure _ _)
  | listAssociatedEIMs => exact hreply _ ((hparameters _).bind fun _ => keeps_listOf f _ _)
  | storeNotification =>
      refine hdone (keeps_referenced ((hparameters _).bind fun _ =>
        (keeps_nextNotificationsID f).bind fun _ => (keeps_notNull f _).bind fun _ => ?_))
      split
      next => exact keeps_statement fun _ => rfl
      next => exact keeps_fail _ _
  | listNotifications => exact hreply _ ((hparameters _).bind fun _ => keeps_listOf f _ _)

namespace Postgres

theorem readOnly_parameters (texts : List Bytes) : ReadOnly (parameters texts) := by
  intro d
  rw [parameters]
  split <;> rfl

theorem readOnly_queryRow (query : Tables → Option α) : ReadOnly (queryRow query) := by
  intro d
  rw [queryRow, get_bind]
  cases query d.tables <;> rfl

theorem readOnly_notNull (value : Option α) : ReadOnly (notNull value) := by
  intro d
  cases value <;> rfl

theorem queryRow_eq_ok {query : Tables → Option α} {row : α} (h : (queryRow query d).1 = .ok row) :
    query d.tables = some row := by
  rw [queryRow, get_bind] at h
  cases hquery : query d.tables with
  | none =>
      rw [hquery] at h
      cases h
  | some found =>
      rw [hquery] at h
      rw [Except.ok.inj h]

/-! ## Calls that write numbers -/

theorem key_of_device {t : Tables} {key : DeviceKey} {device : DeviceRow}
    (h : t.device key = some device) : device.key = key := by
  have hfound := List.find?_some h
  exact of_decide_eq_true hfound

theorem next_of_device {t : Tables} {key : DeviceKey} {device : DeviceRow}
    (h : t.device key = some device) : t.numbers.next key = some device.numbers :=
  congrArg (Option.map DeviceRow.numbers) h

/-- Changing the row of a device changes its numbers. -/
theorem numbers_update {t : Tables} {key : DeviceKey} {f : DeviceRow → DeviceRow}
    (hf : ∀ row, (f row).key = row.key) {device : DeviceRow} (hdevice : t.device key = some device) :
    ({ t with devices := Table.update (fun row => row.key = key) f t.devices } : Tables).numbers =
      { t.numbers with next := Function.update t.numbers.next key (some (f device).numbers) } := by
  refine congrArg (fun next => (⟨next, t.numbers.used⟩ : Numbers)) (funext fun key' => ?_)
  have hfind : ((Table.update (fun row => row.key = key) f t.devices).find?
        fun row => row.key = key') =
      (t.device key').map fun row => if decide (row.key = key) then f row else row :=
    Table.find?_update (fun row _ h => of_decide_eq_true h) (fun row h => (hf row).trans h) key'
  rw [Tables.device, hfind, Option.map_map]
  by_cases hkey : key' = key
  · subst hkey
    rw [hdevice, Function.update_self]
    simp [key_of_device hdevice]
  · rw [Function.update_of_ne hkey]
    refine Option.map_congr fun row hrow => ?_
    have hother : row.key ≠ key := fun h => hkey ((key_of_device hrow).symm.trans h)
    simp [hother]

theorem numbers_insert (t : Tables) (key : DeviceKey) :
    ({ t with devices := Table.upsert DeviceRow.key (fun old _ => old) (newDevice key) t.devices } :
        Tables).numbers =
      if (t.numbers.next key).isSome then t.numbers
      else { t.numbers with next := Function.update t.numbers.next key (some (1, 1)) } := by
  have hnext : ∀ key', ((Table.upsert DeviceRow.key (fun old _ => old) (newDevice key)
        t.devices).find? fun row => row.key = key') =
      if key' = key then some ((t.device key').getD (newDevice key)) else t.device key' := by
    intro key'
    refine (Table.find?_upsert (fun _ h => h) key').trans ?_
    rw [Option.map_id']
    rfl
  split
  next hknown =>
      refine congrArg (fun next => (⟨next, t.numbers.used⟩ : Numbers)) (funext fun key' => ?_)
      rw [Tables.device, hnext]
      split
      next hkey =>
          subst hkey
          rw [Tables.numbers, Option.isSome_map] at hknown
          obtain ⟨device, hdevice⟩ := Option.isSome_iff_exists.mp hknown
          rw [hdevice]
          rfl
      next => rfl
  next hunknown =>
      refine congrArg (fun next => (⟨next, t.numbers.used⟩ : Numbers)) (funext fun key' => ?_)
      rw [Tables.device, hnext]
      by_cases hkey : key' = key
      · subst hkey
        rw [Tables.numbers, Option.isSome_map, Option.not_isSome_iff_eq_none] at hunknown
        rw [if_pos rfl, hunknown, Function.update_self]
        rfl
      · rw [if_neg hkey, Function.update_of_ne hkey]
        rfl

theorem step_registerDevice (d : Database) (tenantID : TenantID) (eid : Bytes) :
    d.tables.numbers.Step none (registerDevice tenantID eid d).2.tables.numbers := by
  rcases (readOnly_parameters _).bind_cases _ d with ⟨e, hrun⟩ | ⟨_, -, hrun⟩
  · rw [show registerDevice tenantID eid d = _ from hrun]
    exact .keep
  rw [show registerDevice tenantID eid d = _ from hrun]
  rcases statement_cases _ d with ⟨e, -, hstatement⟩ | ⟨hvalid, hstatement⟩
  · rw [hstatement]
    exact .keep
  · rw [hstatement]
    dsimp only
    rw [numbers_insert]
    split
    next => exact .keep
    next hunknown =>
        refine .register _ (Option.not_isSome_iff_eq_none.mp hunknown) fun sequenceNumber hused => ?_
        exact hunknown (next_isSome_of_used d.valid hused)

/-- A counter is drawn from the row of the device, or nothing happens. -/
theorem nextEUICCPackageCounter_cases (d : Database) (tenantID : TenantID) (eid : Bytes) :
    (∃ e, nextEUICCPackageCounter tenantID eid d = (.error e, d)) ∨
      ∃ device d', d.tables.device (newDeviceKey tenantID eid) = some device ∧
        nextEUICCPackageCounter tenantID eid d = (.ok device.nextEUICCPackageCounter, d') ∧
        d'.tables.numbers = { d.tables.numbers with
          next := Function.update d.tables.numbers.next (newDeviceKey tenantID eid)
            (some (device.nextSequenceNumber, device.nextEUICCPackageCounter + 1)) } := by
  rcases (readOnly_parameters _).bind_cases _ d with ⟨e, hrun⟩ | ⟨_, -, hrun⟩
  · exact .inl ⟨e, hrun⟩
  rcases (readOnly_queryRow _).bind_cases _ d with ⟨e, hquery⟩ | ⟨device, hdevice, hquery⟩
  · exact .inl ⟨e, hrun.trans hquery⟩
  have hdevice : d.tables.device (newDeviceKey tenantID eid) = some device :=
    queryRow_eq_ok hdevice
  rcases statement_cases _ d with ⟨e, -, hstatement⟩ | ⟨hvalid, hstatement⟩
  · exact .inl ⟨_, (hrun.trans hquery).trans (bind_of_error hstatement)⟩
  · refine .inr ⟨device, _, hdevice, (hrun.trans hquery).trans (bind_of_ok hstatement), ?_⟩
    refine numbers_update ?_ hdevice
    exact fun _ => rfl

/-- An operation takes the next sequence number of the device, or the tables stay as they are. -/
theorem enqueueOperation_cases (d : Database) (tenantID : TenantID) (eid : Bytes)
    (kind : OperationKind) (payload : Option Bytes) :
    (∃ e d', enqueueOperation tenantID eid kind payload d = (.error e, d') ∧
        d'.tables = d.tables) ∨
      ∃ device operation d', d.tables.device (newDeviceKey tenantID eid) = some device ∧
        enqueueOperation tenantID eid kind payload d = (.ok operation, d') ∧
        d'.tables.numbers =
          { next := Function.update d.tables.numbers.next (newDeviceKey tenantID eid)
              (some (device.nextSequenceNumber + 1, device.nextEUICCPackageCounter))
            used := fun k => d.tables.numbers.used k ∨
              k = ⟨normalizeTenantID tenantID, eid, device.nextSequenceNumber⟩ } := by
  rcases hrun : enqueueOperation tenantID eid kind payload d with ⟨r, d'⟩
  cases r with
  | error e => exact .inl ⟨e, d', rfl, (transaction_eq_error hrun).2⟩
  | ok operation =>
      obtain ⟨_, -, h⟩ := (readOnly_parameters _).bind_eq_ok (transaction_eq_ok hrun)
      obtain ⟨device, hdevice, h⟩ := (readOnly_queryRow _).bind_eq_ok h
      obtain ⟨_, d1, hupdate, h⟩ := Stateful.bind_eq_ok h
      obtain ⟨_, -, h⟩ := (readOnly_parameters _).bind_eq_ok h
      obtain ⟨id, d2, hid, h⟩ := Stateful.bind_eq_ok h
      obtain ⟨octets, -, h⟩ := (readOnly_notNull _).bind_eq_ok h
      obtain ⟨_, d3, hinsert, h⟩ := Stateful.bind_eq_ok h
      obtain ⟨-, rfl⟩ := Prod.mk.inj h
      obtain ⟨-, rfl⟩ := Prod.mk.inj hid
      have hdevice := queryRow_eq_ok hdevice
      refine .inr ⟨device, operation, d3, hdevice, rfl, ?_⟩
      have hnumbers : d1.tables.numbers = { d.tables.numbers with
          next := Function.update d.tables.numbers.next (newDeviceKey tenantID eid)
            (some (device.nextSequenceNumber + 1, device.nextEUICCPackageCounter)) } := by
        rw [tables_of_statement hupdate]
        refine numbers_update ?_ hdevice
        exact fun _ => rfl
      rw [tables_of_statement hinsert]
      refine congrArg₂ Numbers.mk (congrArg Numbers.next hnumbers) (funext fun k => ?_)
      have hused := congrFun (congrArg Numbers.used hnumbers) k
      rw [List.map_append, List.mem_append, List.map_singleton, List.mem_singleton]
      exact congrArg (· ∨ k = _) hused

theorem parameters_error {texts : List Bytes} {e : Failure}
    (h : (parameters texts d).1 = .error e) : e = .sql .characterNotInRepertoire := by
  rw [parameters] at h
  split at h
  next => cases h
  next => exact (Except.error.inj h).symm

theorem queryRow_error {query : Tables → Option α} {e : Failure}
    (h : (queryRow query d).1 = .error e) : e = .store .notFound := by
  rw [queryRow, get_bind] at h
  cases hquery : query d.tables with
  | none =>
      rw [hquery] at h
      exact (Except.error.inj h).symm
  | some found =>
      rw [hquery] at h
      cases h

theorem notNull_error {value : Option α} {e : Failure} (h : (notNull value d).1 = .error e) :
    e = .sql .notNullViolation := by
  cases value with
  | none => exact (Except.error.inj h).symm
  | some value => cases h

/-- The sequence number of a new operation is not taken while the numbers are ahead. -/
theorem not_collides (hahead : d.tables.numbers.Ahead) (tenantID : TenantID) (eid : Bytes)
    (kind : OperationKind) (payload : Option Bytes) :
    (enqueueOperation tenantID eid kind payload d).1 ≠
      .error (.sql (.uniqueViolation .operationsSequence)) := by
  intro herror
  obtain ⟨⟨d', h⟩, -⟩ := transaction_eq_error (Prod.ext herror rfl)
  rcases (readOnly_parameters _).bind_eq_error h with h | ⟨_, -, h⟩
  · cases parameters_error h
  rcases (readOnly_queryRow _).bind_eq_error h with h | ⟨device, hdevice, h⟩
  · cases queryRow_error h
  have hdevice := queryRow_eq_ok hdevice
  rcases Stateful.bind_eq_error h with h | ⟨_, d1, hupdate, h⟩
  · -- The first statement leaves the operations as they are.
    exact not_unique_of_statement h (d.valid.unique .operationsSequence)
  have htables := tables_of_statement hupdate
  rcases (readOnly_parameters _).bind_eq_error h with h | ⟨_, -, h⟩
  · cases parameters_error h
  rcases Stateful.bind_eq_error h with h | ⟨id, d2, hid, h⟩
  · cases h
  obtain ⟨-, rfl⟩ := Prod.mk.inj hid
  rcases (readOnly_notNull _).bind_eq_error h with h | ⟨octets, -, h⟩
  · cases notNull_error h
  rcases Stateful.bind_eq_error h with h | ⟨_, d3, -, h⟩
  · refine not_unique_of_statement h ?_
    dsimp only [Tables.Unique]
    rw [htables, List.map_append, List.map_singleton, ← List.concat_eq_append]
    refine (d.valid.unique .operationsSequence).concat fun hused => ?_
    exact lt_irrefl _ (hahead _ device.numbers (next_of_device hdevice) _ hused)
  · cases h

end Postgres

/-- The counter that a reply hands out, with its device. -/
def StoreCall.issues : StoreCall → Except Failure StoreReply → Option (DeviceKey × Int)
  | .nextEUICCPackageCounter tenantID eid, .ok (.counter value) =>
      some (newDeviceKey tenantID eid, value)
  | _, _ => none

theorem issues_of_keeps {call : StoreCall} (hcall : call.writesNumbers = false)
    (reply : Except Failure StoreReply) : call.issues reply = none := by
  cases call <;> first | rfl | cases hcall

/-- Every call is a step of the numbers. -/
theorem step_call (collation : Bytes → Bytes → Bool) (call : StoreCall) (d : Database) :
    d.tables.numbers.Step (call.issues (call.postgres collation d).1)
      (call.postgres collation d).2.tables.numbers := by
  cases hcall : call.writesNumbers with
  | false =>
      have hkept : (call.postgres collation d).2.tables.numbers = d.tables.numbers :=
        keeps_numbers collation hcall d
      rw [issues_of_keeps hcall, hkept]
      exact .keep
  | true =>
      cases call with
      | registerDevice tenantID eid =>
          have hstate : (StoreCall.postgres collation (.registerDevice tenantID eid) d).2 =
              (Postgres.registerDevice tenantID eid d).2 :=
            bind_state_of_readOnly (fun _ _ => rfl) d
          rw [hstate]
          exact step_registerDevice d tenantID eid
      | nextEUICCPackageCounter tenantID eid =>
          rcases nextEUICCPackageCounter_cases d tenantID eid with
            ⟨e, hrun⟩ | ⟨device, d', hdevice, hrun, hnumbers⟩
          · rw [StoreCall.postgres, bind_of_error hrun]
            exact .keep
          · rw [StoreCall.postgres, bind_of_ok hrun]
            dsimp only [pure_apply]
            rw [hnumbers]
            exact .draw _ (next_of_device hdevice)
      | enqueueOperation tenantID eid kind payload =>
          rcases enqueueOperation_cases d tenantID eid kind payload with
            ⟨e, d', hrun, htables⟩ | ⟨device, operation, d', hdevice, hrun, hnumbers⟩
          · rw [StoreCall.postgres, bind_of_error hrun]
            dsimp only
            rw [htables]
            exact .keep
          · rw [StoreCall.postgres, bind_of_ok hrun]
            dsimp only [pure_apply]
            rw [hnumbers]
            exact .enqueue _ (next_of_device hdevice)
      | _ => cases hcall

end OpenIotRsp.Storage
