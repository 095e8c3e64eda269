import Mathlib.Logic.Function.Basic
import OpenIotRsp.Model.Server
import OpenIotRsp.Verification.Api.Deliverable
import OpenIotRsp.Verification.Esipa.Frame

/-!
# The ledger of the queue

What the store keeps for good: the two counters of every device, and the queue
entries without their status.  Drawing a counter and queueing an operation are
operations of the ledger; registering a device and messages do not change it.
-/

namespace OpenIotRsp.Server

open Octets Ber Stateful Asn1 Storage Euiccpkg Api Esipa

/-- An operation without its status. -/
structure Entry where
  device : DeviceKey
  sequenceNumber : Int
  kind : Storage.OperationKind
  payload : Bytes

/-- The next numbers of a device that is not registered are those it will start with. -/
@[ext]
structure Ledger where
  nextSequence : DeviceKey → Int
  nextCounter : DeviceKey → Int
  entries : Int → Option Entry
  nextID : Int

def entryOf (stored : MemoryOperation) : Entry :=
  ⟨stored.device, stored.operation.sequenceNumber, stored.operation.kind, stored.operation.payload⟩

def ledger (s : Store) : Ledger where
  nextSequence key := (s.devices.lookup key).elim 1 MemoryDevice.nextSequence
  nextCounter key := (s.devices.lookup key).elim 1 MemoryDevice.nextEUICCPackageCounter
  entries id := (s.operations.lookup id).map fun row => entryOf row.val
  nextID := s.nextOperationID

namespace Ledger

variable (l : Ledger) (key : DeviceKey)

def draw : Ledger :=
  { l with nextCounter := Function.update l.nextCounter key (l.nextCounter key + 1) }

def enqueue (kind : Storage.OperationKind) (payload : Bytes) : Ledger :=
  { l with
    nextSequence := Function.update l.nextSequence key (l.nextSequence key + 1)
    entries := Function.update l.entries l.nextID (some ⟨key, l.nextSequence key, kind, payload⟩)
    nextID := l.nextID + 1 }

end Ledger

/-! ## Store calls -/

/-- A lookup after an insertion, read through a function of the row. -/
theorem elim_lookup_insert {α γ : Type} {β : α → Type} [DecidableEq α] (m : AList β) (a : α)
    (b : β a) (g : (a : α) → Option (β a) → γ) :
    (fun a' => g a' ((m.insert a b).lookup a')) =
      Function.update (fun a' => g a' (m.lookup a')) a (g a (some b)) := by
  funext a'
  by_cases h : a' = a
  · subst h
    simp
  · rw [Function.update_of_ne h, AList.lookup_insert_ne h]

theorem ledger_registerDevice (tenantID : TenantID) (eid : Bytes) (s : Store) :
    ledger (registerDevice tenantID eid s).2 = ledger s := by
  rw [registerDevice_apply]
  cases hdevice : s.devices.lookup (newDeviceKey tenantID eid) with
  | some device => rfl
  | none =>
      ext1
      case nextSequence =>
        refine (elim_lookup_insert s.devices _ _ fun _ row => row.elim 1 _).trans ?_
        simp [ledger, Function.update_eq_self_iff, hdevice]
      case nextCounter =>
        refine (elim_lookup_insert s.devices _ _ fun _ row => row.elim 1 _).trans ?_
        simp [ledger, Function.update_eq_self_iff, hdevice]
      all_goals rfl

theorem ledger_nextEUICCPackageCounter {tenantID : TenantID} {eid : Bytes} {s s' : Store}
    {counter : Int} (h : nextEUICCPackageCounter tenantID eid s = (.ok counter, s')) :
    counter = (ledger s).nextCounter (newDeviceKey tenantID eid) ∧
      ledger s' = (ledger s).draw (newDeviceKey tenantID eid) := by
  rw [nextEUICCPackageCounter_apply] at h
  cases hdevice : s.devices.lookup (newDeviceKey tenantID eid) with
  | none =>
      rw [hdevice] at h
      cases h
  | some device =>
      rw [hdevice] at h
      obtain ⟨hcounter, rfl⟩ := Prod.mk.inj h
      obtain rfl := Except.ok.inj hcounter
      refine ⟨by simp [ledger, hdevice], ?_⟩
      ext1
      case nextSequence =>
        refine (elim_lookup_insert s.devices _ _ fun _ row => row.elim 1 _).trans ?_
        simp [ledger, Ledger.draw, Function.update_eq_self_iff, hdevice]
      case nextCounter =>
        refine (elim_lookup_insert s.devices _ _ fun _ row => row.elim 1 _).trans ?_
        simp [ledger, Ledger.draw, hdevice]
      all_goals rfl

/-- An operation is queued, or its device is not registered. -/
theorem ledger_enqueueOperation (tenantID : TenantID) (request : OperationRequest) (s : Store) :
    ledger (enqueueOperation tenantID request s).2 = ledger s ∨
      ledger (enqueueOperation tenantID request s).2 =
        (ledger s).enqueue (newDeviceKey tenantID request.eid) request.kind request.payload := by
  rw [enqueueOperation_apply]
  cases hdevice : s.devices.lookup (newDeviceKey tenantID request.eid) with
  | none => exact .inl rfl
  | some device =>
      refine .inr ?_
      ext1
      case nextSequence =>
        refine (elim_lookup_insert s.devices _ _ fun _ row => row.elim 1 _).trans ?_
        simp [ledger, Ledger.enqueue, hdevice]
      case nextCounter =>
        refine (elim_lookup_insert s.devices _ _ fun _ row => row.elim 1 _).trans ?_
        simp [ledger, Ledger.enqueue, Function.update_eq_self_iff, hdevice]
      case entries =>
        refine (elim_lookup_insert s.operations _ _ fun _ row =>
          row.map fun row => entryOf row.val).trans ?_
        have hsequence : (ledger s).nextSequence (newDeviceKey tenantID request.eid) =
            device.nextSequence := by simp [ledger, hdevice]
        rw [Ledger.enqueue, hsequence]
        rfl
      all_goals rfl

/-! ## Messages -/

theorem ledger_updateStatus (s : Store) (tenantID : TenantID) (result : EUICCPackageResult) :
    ledger (s.updateStatus tenantID result) = ledger s := by
  rw [Store.updateStatus]
  split
  next => rfl
  next row hfind =>
      have hold : s.operations.lookup row.1 = some row.2 :=
        AList.mem_lookup_iff.mpr (List.mem_of_find?_eq_some hfind)
      ext1
      case entries =>
        funext id
        by_cases hid : id = row.1
        · subst hid
          simp [ledger, hold, entryOf, MemoryOperation.withStatus, MemoryOperation.device]
        · simp only [ledger, AList.lookup_insert_ne hid]
      all_goals rfl

theorem unaffected_ledger : Unaffected ledger where
  state _ _ _ _ := rfl
  notifications _ _ := rfl
  record _ _ :=
    keeps_recordEUICCPackageResult_of_updateStatus (fun _ _ => rfl) ledger_updateStatus

/-! ## Steps of the server -/

def InFlight.device (r : InFlight) : DeviceKey := newDeviceKey r.input.tenantID r.input.eid

/-- What one event does to the ledger and to the requests in flight. -/
inductive Moves (B : Bertlv) (S : Service) :
    Event → Ledger → List InFlight → Ledger → List InFlight → Prop
  | stay {event : Event} {l : Ledger} {fs : List InFlight} : Moves B S event l fs l fs
  | draw {event : Event} {l : Ledger} {fs : List InFlight} {input : SignInput}
      (hplain : input.package.Plain) :
      Moves B S event l fs (l.draw (newDeviceKey input.tenantID input.eid))
        (fs ++ [⟨input, l.nextCounter (newDeviceKey input.tenantID input.eid), none⟩])
  | sign {event : Event} {l : Ledger} {fs : List InFlight} {i : Nat} {r : InFlight}
      {signed : SignedRequest} (hget : fs[i]? = some r)
      (hencodes : SignedRequest.Encodes B S r.input r.counter signed.der) :
      Moves B S event l fs l (fs.set i { r with signed := some signed })
  | drop {event : Event} {l : Ledger} {fs : List InFlight} (i : Nat) :
      Moves B S event l fs l (fs.eraseIdx i)
  | enqueue {l : Ledger} {fs : List InFlight} {i : Nat} {r : InFlight} {signed : SignedRequest}
      (hget : fs[i]? = some r) (hsigned : r.signed = some signed) :
      Moves B S (.enqueue i) l fs (l.enqueue r.device .euiccPackage signed.der) (fs.eraseIdx i)
  | enqueueOther {event : Event} {l : Ledger} {fs : List InFlight} (key : DeviceKey)
      {kind : Storage.OperationKind} (hkind : kind ≠ .euiccPackage) (payload : Bytes) :
      Moves B S event l fs (l.enqueue key kind payload) fs

section

variable {S : Service} {H : Handler} {y : System}

theorem moves_act {α : Type} {event : Event} {m : StoreM α} (hm : Keeps ledger m) :
    Moves H.bertlv S event (ledger y.store) y.inFlight (ledger (y.act m).store)
      (y.act m).inFlight := by
  rw [show ledger (y.act m).store = ledger y.store from hm y.store]
  exact .stay

theorem moves_draw {event : Event} {input : SignInput} (hplain : input.package.Plain) :
    Moves H.bertlv S event (ledger y.store) y.inFlight (ledger (y.draw S input).store)
      (y.draw S input).inFlight := by
  rcases hdraw : drawCounter S input y.store with ⟨outcome, store⟩
  cases outcome with
  | error e =>
      obtain rfl := drawCounter_eq_error hdraw
      simp only [System.draw, hdraw]
      exact .stay
  | ok counter =>
      obtain ⟨rfl, hledger⟩ := ledger_nextEUICCPackageCounter (drawCounter_eq_ok hdraw)
      simp only [System.draw, hdraw, hledger]
      exact .draw hplain

theorem moves_sign (i : Nat) (event : Event) :
    Moves H.bertlv S event (ledger y.store) y.inFlight (ledger (y.sign S H i).store)
      (y.sign S H i).inFlight := by
  cases hget : y.inFlight[i]? with
  | none =>
      simp only [System.sign, hget]
      exact .stay
  | some r =>
      rcases hsign : signDrawn H.bertlv S r.input r.counter y.store with ⟨outcome, store⟩
      cases outcome with
      | error e =>
          have hstore := readOnly_signDrawn (B := H.bertlv) (S := S) r.input r.counter y.store
          rw [hsign] at hstore
          obtain rfl : store = y.store := hstore
          simp only [System.sign, hget, hsign]
          exact .drop i
      | ok signed =>
          obtain ⟨rfl, hencodes⟩ := signDrawn_eq_ok hsign
          simp only [System.sign, hget, hsign]
          exact .sign hget hencodes

theorem moves_enqueue (i : Nat) :
    Moves H.bertlv S (.enqueue i) (ledger y.store) y.inFlight (ledger (y.enqueue i).store)
      (y.enqueue i).inFlight := by
  rw [System.enqueue]
  split
  next input counter signed hget =>
      rcases ledger_enqueueOperation input.tenantID ⟨input.eid, .euiccPackage, signed.der⟩ y.store
        with h | h
      · rw [h]
        exact .drop i
      · rw [h]
        exact .enqueue hget rfl
  next => exact .stay

theorem moves_enqueueOther {event : Event} (tenantID : TenantID) (request : OperationRequest)
    (hkind : request.kind ≠ .euiccPackage) :
    Moves H.bertlv S event (ledger y.store) y.inFlight
      (ledger (y.act (enqueueOperation tenantID request)).store) y.inFlight := by
  rcases ledger_enqueueOperation tenantID request y.store with h | h
  · rw [System.act, h]
    exact .stay
  · rw [System.act, h]
    exact .enqueueOther _ hkind _

theorem moves_step (hB : H.bertlv.Lawful) (event : Event) :
    Moves H.bertlv S event (ledger y.store) y.inFlight (ledger (step S H y event).store)
      (step S H y event).inFlight := by
  cases event with
  | register tenantID eid => exact moves_act fun s => ledger_registerDevice tenantID eid s
  | draw tenantID eid transactionID request =>
      rw [step]
      split
      next input hinput =>
          obtain ⟨⟨normalized, eidValue⟩, -, hinput⟩ := Outcome.bind_eq_ok.mp hinput
          obtain ⟨pkg, hpkg, hinput⟩ := Outcome.bind_eq_ok.mp hinput
          obtain rfl := Except.ok.inj hinput
          exact moves_draw (package_eq_ok hB hpkg).1
      next => exact .stay
  | sign i => exact moves_sign i _
  | enqueue i => exact moves_enqueue i
  | abandon i => exact .drop i
  | enqueueTrigger tenantID eid payload => exact moves_enqueueOther tenantID _ OperationKind.noConfusion
  | enqueueDataRequest tenantID eid payload => exact moves_enqueueOther tenantID _ OperationKind.noConfusion
  | storeEIMConfig tenantID config => exact moves_act (keeps_modify fun _ => rfl)
  | associate tenantID eid config =>
      exact moves_act ((unaffected_ledger.ignoresState tenantID eid).setAssociatedConfig _ config)
  | message payload =>
      exact moves_act (keeps_handleEncodedResponse unaffected_ledger.dispatch payload)

/-- What one event does to the store. -/
inductive Writes (H : Handler) (event : Event) (s : Store) : Store → Prop
  | none : Writes H event s s
  | device (key : DeviceKey) (device : MemoryDevice) :
      Writes H event s { s with devices := s.devices.insert key device }
  | enqueue (tenantID : TenantID) (request : OperationRequest) :
      Writes H event s (enqueueOperation tenantID request s).2
  | config (tenantID : TenantID) (config : EIMConfig) :
      Writes H event s (storeEIMConfig tenantID config s).2
  | associate (tenantID : TenantID) (eid : Bytes) (config : EimConfigurationData) :
      Writes H event s (setAssociatedConfig H.bertlv tenantID eid config s).2
  | message {payload : Bytes} {tlv : Tlv} (hevent : event = .message payload)
      (hdecode : decodeRequest H payload = .ok tlv) : Writes H event s (dispatch H tlv s).2

theorem writes_draw (event : Event) (input : SignInput) :
    Writes H event y.store (y.draw S input).store := by
  rcases hdraw : drawCounter S input y.store with ⟨outcome, store⟩
  cases outcome with
  | error e =>
      simp only [System.draw, hdraw]
      rw [drawCounter_eq_error hdraw]
      exact .none
  | ok counter =>
      have hnext := drawCounter_eq_ok hdraw
      simp only [System.draw, hdraw]
      rw [nextEUICCPackageCounter_apply] at hnext
      split at hnext
      next => cases hnext
      next =>
          rw [← (Prod.mk.inj hnext).2]
          exact .device _ _

theorem writes_sign (event : Event) (i : Nat) : Writes H event y.store (y.sign S H i).store := by
  have hstore : (y.sign S H i).store = y.store := by
    rw [System.sign]
    split
    next => rfl
    next r _ =>
        have hread := readOnly_signDrawn (B := H.bertlv) (S := S) r.input r.counter y.store
        split
        all_goals
          next hrun => rwa [hrun] at hread
  rw [hstore]
  exact .none

theorem writes_step (S : Service) (H : Handler) (y : System) (event : Event) :
    Writes H event y.store (step S H y event).store := by
  cases event with
  | register tenantID eid =>
      rw [step, System.act, registerDevice_apply]
      split
      next => exact .none
      next => exact .device _ _
  | draw tenantID eid transactionID request =>
      rw [step]
      split
      next input _ => exact writes_draw _ input
      next => exact .none
  | sign i => exact writes_sign _ i
  | enqueue i =>
      rw [step, System.enqueue]
      split
      next => exact .enqueue _ _
      next => exact .none
  | abandon i => exact .none
  | enqueueTrigger tenantID eid payload => exact .enqueue tenantID _
  | enqueueDataRequest tenantID eid payload => exact .enqueue tenantID _
  | storeEIMConfig tenantID config => exact .config tenantID config
  | associate tenantID eid config => exact .associate tenantID eid config
  | message payload =>
      rcases handleEncodedResponse_cases H y.store payload with hstate | ⟨tlv, hdecode, hstate⟩
      all_goals rw [step, System.act, hstate]
      · exact .none
      · exact .message rfl hdecode

end

end OpenIotRsp.Server
