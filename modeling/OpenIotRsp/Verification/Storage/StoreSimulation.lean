import OpenIotRsp.Library.Simulation
import OpenIotRsp.Verification.Storage.DatabaseConstraints
import OpenIotRsp.Verification.Storage.Records

/-!
# The two stores

The in-memory store and the Postgres store are related if each table holds the
entries of its map.  The rules are for the parts that their methods have in
common: a row that has to be there, a list of a device, and a row that is
written if its device is there.
-/

namespace OpenIotRsp.Storage

open Octets Stateful Postgres

variable {key : DeviceKey} {g : Tables → Tables} {change : Store → Store}

/-! ## The relation -/

def deviceEntry (row : DeviceRow) : Sigma fun _ : DeviceKey => MemoryDevice :=
  ⟨row.key, row.nextSequenceNumber, row.nextEUICCPackageCounter⟩

def profileEntry (row : ProfileStateRow) : Sigma StoredProfile := ⟨row.key, row.state, rfl, rfl⟩

def euiccEntry (row : EUICCStateRow) : Sigma fun _ : DeviceKey => EUICCState := ⟨row.key, row.state⟩

def associatedEntry (row : AssociatedEIMRow) : Sigma fun _ : AssociatedEIMKey => AssociatedEIM :=
  ⟨row.key, row.associated⟩

def operationEntry (row : OperationRow) : Sigma StoredOperation :=
  ⟨row.id, row.toMemoryOperation, rfl⟩

def resultEntry (row : OperationResultRow) : Sigma fun _ : ResultKey => EUICCPackageResult :=
  ⟨row.key, row.eid, row.operationID.getD 0, row.sequenceNumber, row.status, row.payload⟩

def configEntry (row : EIMConfigRow) : Sigma fun _ : ConfigKey => EIMConfig := ⟨row.key, row.config⟩

def notificationEntry (row : NotificationRow) : Sigma fun _ : NotificationKey => Notification :=
  ⟨row.key, row.notification⟩

/-- Each table holds the entries of its map, and the numbers drawn for the serial columns are behind
those to come. -/
structure Simulates (s : Store) (d : Database) : Prop where
  devices : Table.Holds deviceEntry d.tables.devices s.devices
  profileStates : Table.Holds profileEntry d.tables.profileState s.profileStates
  euiccStates : Table.Holds euiccEntry d.tables.euiccState s.euiccStates
  associatedEIMs : Table.Holds associatedEntry d.tables.associatedEIM s.associatedEIMs
  operations : Table.Holds operationEntry d.tables.operations s.operations
  results : Table.Holds resultEntry d.tables.operationResults s.results
  eimConfigs : Table.Holds configEntry d.tables.eimConfig s.eimConfigs
  notifications : Table.Holds notificationEntry d.tables.notifications s.notifications
  nextOperationID : s.nextOperationID = d.operationsID + 1
  operationsID : ∀ row ∈ d.tables.operations, row.id ≤ d.operationsID
  operationResultsID : ∀ row ∈ d.tables.operationResults, row.id ≤ d.operationResultsID
  notificationsID : ∀ row ∈ d.tables.notifications, row.id ≤ d.notificationsID
  eids : ∀ key ∈ d.tables.devices.map DeviceRow.key, isText key.eid

theorem simulates_empty : Simulates Store.new Database.empty where
  devices := .nil
  profileStates := .nil
  euiccStates := .nil
  associatedEIMs := .nil
  operations := .nil
  results := .nil
  eimConfigs := .nil
  notifications := .nil
  nextOperationID := rfl
  operationsID := fun _ h => absurd h List.not_mem_nil
  operationResultsID := fun _ h => absurd h List.not_mem_nil
  notificationsID := fun _ h => absurd h List.not_mem_nil
  eids := fun _ h => absurd h List.not_mem_nil

/-- Both report that something is not found, or neither does. -/
def SameFailure (e : Error) (e' : Failure) : Prop := e = .notFound ↔ e' = .store .notFound

theorem sameFailure_notFound : SameFailure .notFound (.store .notFound) := iff_of_true rfl rfl

variable {α : Type} {s : Store} {d : Database}

/-- The two methods agree, from these states. -/
abbrev Equivalent (m : StoreM α) (m' : PgM α) (s : Store) (d : Database) : Prop :=
  Matches Simulates SameFailure m m' s d

theorem equivalent_notFound {m : StoreM α} {m' : PgM α} {d' : Database}
    (hm : m s = (.error .notFound, s)) (hm' : m' d = (.error (.store .notFound), d'))
    (h : Simulates s d') : Equivalent m m' s d :=
  matches_of_error hm hm' sameFailure_notFound h

theorem parameters_bind {texts : List Bytes} (htexts : texts.all isText) (k : Unit → PgM α) :
    parameters texts >>= k = k () := by
  rw [parameters_of_text htexts, pure_bind]

/-- Text parameters that are text. -/
theorem equivalent_parameters {m : StoreM α} {texts : List Bytes} {k : Unit → PgM α}
    (htexts : texts.all isText) (h : Equivalent m (k ()) s d) :
    Equivalent m (parameters texts >>= k) s d := by
  rw [parameters_bind htexts]
  exact h

/-! ## Rows that have to be there -/

section

variable {κ ρ : Type} [DecidableEq κ] {β : κ → Type} {entry : ρ → Sigma β}

theorem queryRow_of_none {query : Tables → Option α} {γ : Type} {k : α → PgM γ}
    (h : query d.tables = none) : (queryRow query >>= k) d = (.error (.store .notFound), d) := by
  rw [queryRow, bind_assoc, get_bind, h]
  rfl

theorem queryRow_of_some {query : Tables → Option α} {γ : Type} {k : α → PgM γ} {a : α}
    (h : query d.tables = some a) : (queryRow query >>= k) d = k a d := by
  rw [queryRow, bind_assoc, get_bind, h]
  rfl

/-- A row and the entry of its key are found together. -/
theorem equivalent_find (h : Simulates s d) {rows : Tables → List ρ} {m : Store → AList β}
    (hrows : Table.Holds entry (rows d.tables) (m s)) {key : κ} {k : β key → StoreM α}
    {k' : ρ → PgM α}
    (hk : ∀ row b, row ∈ rows d.tables → (m s).lookup key = some b → entry row = ⟨key, b⟩ →
      Equivalent (k b) (k' row) s d) :
    Equivalent ((require fun s => (m s).lookup key) >>= k)
      ((queryRow fun t => (rows t).find? fun row => (entry row).1 = key) >>= k') s d := by
  rcases hrows.find?_cases key with ⟨hfind, hlookup⟩ | ⟨row, b, hfind, hlookup, hentry⟩
  · exact equivalent_notFound (require_of_none hlookup) (queryRow_of_none hfind) h
  · exact (hk row b (List.mem_of_find?_eq_some hfind) hlookup hentry).congr
      (require_of_some hlookup) (queryRow_of_some hfind)

end

/-! ## Devices -/

theorem Simulates.lookup_eq_none (h : Simulates s d) :
    s.devices.lookup key = none ↔ key ∉ d.tables.devices.map DeviceRow.key := by
  rw [h.devices.lookup_eq_none, List.mem_map]
  constructor
  · rintro hall ⟨row, hrow, hkey⟩
    exact hall row hrow hkey
  · intro hnone row hrow hkey
    exact hnone ⟨row, hrow, hkey⟩

theorem Simulates.lookup_eq_some (h : Simulates s d) {device : MemoryDevice}
    (hdevice : s.devices.lookup key = some device) : key ∈ d.tables.devices.map DeviceRow.key := by
  refine Classical.byContradiction fun hnone => ?_
  rw [h.lookup_eq_none.mpr hnone] at hdevice
  cases hdevice

/-- A list of a device: only a device has rows. -/
theorem equivalent_listOf (h : Simulates s d) {items : Store → List α} {rows : Tables → List α}
    (hitems : rows d.tables = items s)
    (hempty : key ∉ d.tables.devices.map DeviceRow.key → rows d.tables = []) :
    Equivalent (do
      let _ ← require fun s => s.devices.lookup key
      get items) (listOf key rows) s d := by
  rcases h.devices.find?_cases key with ⟨hfind, hlookup⟩ | ⟨row, device, hfind, hlookup, -⟩
  · refine equivalent_notFound (require_of_none hlookup) ?_ h
    rw [listOf, get_bind, hempty (h.lookup_eq_none.mp hlookup)]
    exact queryRow_of_none hfind
  · refine matches_of_ok (require_of_some hlookup) ?_ h
    rw [listOf, get_bind, ← hitems]
    split
    next => exact queryRow_of_some hfind
    next => rfl

/-- A row that refers to a device is written if the device is there. -/
theorem equivalent_referenced (h : Simulates s d) (hunique : ∀ c, (g d.tables).Unique c)
    (hreferences : key ∈ d.tables.devices.map DeviceRow.key → ∀ f, (g d.tables).References f)
    (hmissing : key ∉ d.tables.devices.map DeviceRow.key → ∃ f, ¬ (g d.tables).References f)
    (hchange : ∀ hvalid, Simulates (change s) { d with tables := g d.tables, valid := hvalid }) :
    Equivalent (do
      let _ ← require fun s => s.devices.lookup key
      modify change) (referenced (statement g)) s d := by
  cases hlookup : s.devices.lookup key with
  | none =>
      obtain ⟨f, hf⟩ := hmissing (h.lookup_eq_none.mp hlookup)
      obtain ⟨f', hrun⟩ := statement_of_missing hunique hf
      exact equivalent_notFound (require_of_none hlookup) (referenced_of_missing hrun) h
  | some device =>
      have hvalid : (g d.tables).Valid := ⟨hunique, hreferences (h.lookup_eq_some hlookup)⟩
      exact matches_of_ok (require_of_some hlookup) (referenced_of_ok (statement_of_valid hvalid))
        (hchange hvalid)

/-- An insertion into a table that refers to devices. -/
theorem equivalent_upsert {κ ρ : Type} [DecidableEq κ] {column : ρ → κ} (device : ρ → DeviceKey)
    {set : ρ → ρ → ρ} {new : ρ} {rows : List ρ} (f : ForeignKey) (h : Simulates s d)
    (hrows : ∀ row ∈ rows, device row ∈ d.tables.devices.map DeviceRow.key)
    (hset : ∀ old, column old = column new → column (set old new) = column new)
    (hdevice : ∀ row, column row = column new → device row = device new)
    (hunique : ∀ c, (g d.tables).Unique c) (hreferences : (∀ row ∈ Table.upsert column set new rows,
      device row ∈ d.tables.devices.map DeviceRow.key) → ∀ f, (g d.tables).References f)
    (hmissing : (g d.tables).References f → ∀ row ∈ Table.upsert column set new rows,
      device row ∈ d.tables.devices.map DeviceRow.key)
    (hchange : ∀ hvalid, Simulates (change s) { d with tables := g d.tables, valid := hvalid }) :
    Equivalent (do
      let _ ← require fun s => s.devices.lookup (device new)
      modify change) (referenced (statement g)) s d := by
  refine equivalent_referenced h hunique (fun hthere => hreferences ?_) (fun hnone => ⟨f, ?_⟩) hchange
  · refine Table.forall_mem_upsert hrows (fun old _ hold => ?_) hthere
    rwa [hdevice _ (hset old hold)]
  · intro hthere
    have hnew : column new ∈ (Table.upsert column set new rows).map column :=
      (Table.mem_map_upsert hset).mpr (.inr rfl)
    obtain ⟨row, hrow, hcolumn⟩ := List.mem_map.mp hnew
    exact hnone (hdevice row hcolumn ▸ hmissing hthere row hrow)

/-- A deletion from a table that refers to devices. -/
theorem equivalent_delete {κ ρ : Type} [DecidableEq κ] {β : κ → Type} {entry : ρ → Sigma β}
    (h : Simulates s d) {rows : Tables → List ρ} {m : Store → AList β}
    (hrows : Table.Holds entry (rows d.tables) (m s)) {k : κ}
    (hdevice : ∀ row ∈ rows d.tables, (entry row).1 = k →
      key ∈ d.tables.devices.map DeviceRow.key) (hvalid : (g d.tables).Valid)
    (hchange : Simulates (change s) { d with tables := g d.tables, valid := hvalid }) :
    Equivalent (do
      let _ ← require fun s => s.devices.lookup key
      let _ ← require fun s => (m s).lookup k
      modify change) (do
      let _ ← queryRow fun t => (rows t).find? fun row => (entry row).1 = k
      statement g) s d := by
  rcases hrows.find?_cases k with ⟨hfind, hlookup⟩ | ⟨row, b, hfind, hlookup, hentry⟩
  · refine equivalent_notFound ?_ (queryRow_of_none hfind) h
    cases hregistered : s.devices.lookup key with
    | none => exact require_of_none hregistered
    | some device => exact (require_of_some hregistered).trans (require_of_none hlookup)
  · have hthere := hdevice row (List.mem_of_find?_eq_some hfind) (congrArg Sigma.fst hentry)
    cases hregistered : s.devices.lookup key with
    | none => exact absurd hthere (h.lookup_eq_none.mp hregistered)
    | some device =>
        refine matches_of_ok ((require_of_some hregistered).trans (require_of_some hlookup)) ?_ hchange
        exact (queryRow_of_some hfind).trans (statement_of_valid hvalid)

/-! ## Lists -/

section

variable {κ ρ γ : Type} [LE γ] [DecidableLE γ] [Std.IsLinearOrder γ]
  {β : κ → Type} {entry : ρ → Sigma β}

/-- Rows that are selected and sorted by a column in which they differ. -/
theorem sorted_select {rows : List ρ} {m : AList β} (hrows : Table.Holds entry rows m)
    (hunique : (rows.map fun row => (entry row).1).Nodup) {p : ρ → Bool} {q : Sigma β → Bool}
    (hp : ∀ row ∈ rows, p row = q (entry row)) (g : Sigma β → α) (column : α → γ)
    (hcolumn : ((rows.filter p).map fun row => column (g (entry row))).Nodup)
    {r : α → α → Prop} [DecidableRel r]
    (hr : ∀ a ∈ (m.entries.filter q).map g, ∀ b ∈ (m.entries.filter q).map g,
      (r a b ↔ column a ≤ column b)) :
    ((rows.filter p).map fun row => g (entry row)).insertionSort r =
      ((m.entries.filter q).map g).insertionSort fun a b => column a ≤ column b := by
  have hperm : ((rows.filter p).map fun row => g (entry row)).Perm ((m.entries.filter q).map g) := by
    rw [List.filter_congr hp]
    exact hrows.perm_select hunique q g
  have hsort := Table.insertionSort_congr fun a ha b hb =>
    hr a (hperm.mem_iff.mp ha) b (hperm.mem_iff.mp hb)
  rw [hsort]
  refine Table.insertionSort_eq_of_perm hperm ?_
  rwa [List.map_map]

/-- The sorted list of a device. -/
theorem equivalent_select (h : Simulates s d) {rows : Tables → List ρ} {m : Store → AList β}
    (hrows : Table.Holds entry (rows d.tables) (m s))
    (hunique : ((rows d.tables).map fun row => (entry row).1).Nodup) (device : ρ → DeviceKey)
    (hdevices : ∀ row ∈ rows d.tables, device row ∈ d.tables.devices.map DeviceRow.key)
    {q : Sigma β → Bool} (hq : ∀ row ∈ rows d.tables, decide (device row = key) = q (entry row))
    (g : Sigma β → α) (column : α → γ)
    (hcolumn : (((rows d.tables).filter fun row => device row = key).map fun row =>
      column (g (entry row))).Nodup) {r : α → α → Prop} [DecidableRel r]
    (hr : ∀ a ∈ ((m s).entries.filter q).map g, ∀ b ∈ ((m s).entries.filter q).map g,
      (r a b ↔ column a ≤ column b)) :
    Equivalent (do
      let _ ← require fun s => s.devices.lookup key
      get fun s => (((m s).entries.filter q).map g).insertionSort fun a b => column a ≤ column b)
      (listOf key fun t =>
        (((rows t).filter fun row => device row = key).map fun row => g (entry row)).insertionSort r)
      s d := by
  refine equivalent_listOf h (sorted_select hrows hunique hq g column hcolumn hr) fun hnone => ?_
  have hempty : ((rows d.tables).filter fun row => device row = key) = [] := by
    refine List.filter_eq_nil_iff.mpr fun row hrow hkey => hnone ?_
    rw [← of_decide_eq_true hkey]
    exact hdevices row hrow
  rw [hempty]
  rfl

end

theorem deviceKey_eq_iff {tenant : TenantID} {eid : Bytes} :
    (⟨tenant, eid⟩ : DeviceKey) = key ↔ tenant = key.tenantID ∧ eid = key.eid := by
  obtain ⟨tenant', eid'⟩ := key
  rw [DeviceKey.mk.injEq]

end OpenIotRsp.Storage
