import OpenIotRsp.Model.Storage.Memory

/-!
# The records of a device

What the store holds for one device, as the lookups that read it, and the frame
of each store method: it changes the records of one device at most.
-/

namespace OpenIotRsp.Storage

open Octets Stateful

variable {tenantID : TenantID}

/-- The records of one device; an operation belongs to the device its row names. -/
@[ext]
structure DeviceRecords where
  profiles : Bytes → Option ProfileState
  euicc : Option EUICCState
  eims : Bytes → Option AssociatedEIM
  operations : Int → Option Operation
  results : Int → Option EUICCPackageResult
  notifications : Int → Option Notification

def MemoryOperation.device (stored : MemoryOperation) : DeviceKey :=
  ⟨stored.tenantID, stored.operation.eid⟩

namespace Store

def profile (s : Store) (key : DeviceKey) (iccid : Bytes) : Option ProfileState :=
  (s.profileStates.lookup ⟨key.tenantID, key.eid, iccid⟩).map Subtype.val

def operation (s : Store) (key : DeviceKey) (id : Int) : Option Operation :=
  (((s.operations.lookup id).map Subtype.val).filter fun stored => stored.device = key).map
    MemoryOperation.operation

def records (key : DeviceKey) (s : Store) : DeviceRecords where
  profiles := s.profile key
  euicc := s.euiccStates.lookup key
  eims eimID := s.associatedEIMs.lookup ⟨key.tenantID, key.eid, eimID⟩
  operations := s.operation key
  results sequenceNumber := s.results.lookup ⟨key.tenantID, key.eid, sequenceNumber⟩
  notifications sequenceNumber := s.notifications.lookup ⟨key.tenantID, key.eid, sequenceNumber⟩

end Store

/-! ## Reading -/

theorem require_apply {α : Type} (find : Store → Option α) (s : Store) :
    require find s = ((match find s with
      | none => .error .notFound
      | some row => .ok row), s) := by
  cases h : find s <;> simp [require, h]

section

variable {α β : Type} {find : Store → Option α} {k : α → StoreM β} {s : Store}

theorem require_of_none (h : find s = none) : (require find >>= k) s = (.error .notFound, s) :=
  bind_of_error (by rw [require_apply, h])

theorem require_of_some {a : α} (h : find s = some a) : (require find >>= k) s = k a s :=
  bind_of_ok (by rw [require_apply, h])

end

section

variable {γ : Type} (f : Store → γ)

theorem keeps_require {α : Type} (find : Store → Option α) : Keeps f (require find) := by
  refine (keeps_get f find).bind fun row => ?_
  cases row with
  | none => exact keeps_fail f _
  | some row => exact keeps_pure f row

theorem keeps_getProfileState (tenantID : TenantID) (eid iccid : Bytes) :
    Keeps f (getProfileState tenantID eid iccid) :=
  (keeps_require f _).bind fun _ => keeps_pure f _

theorem keeps_listProfileStates (tenantID : TenantID) (eid : Bytes) :
    Keeps f (listProfileStates tenantID eid) :=
  (keeps_require f _).bind fun _ => keeps_get f _

theorem keeps_getEUICCState (tenantID : TenantID) (eid : Bytes) :
    Keeps f (getEUICCState tenantID eid) :=
  keeps_require f _

theorem keeps_getAssociatedEIM (tenantID : TenantID) (eid eimID : Bytes) :
    Keeps f (getAssociatedEIM tenantID eid eimID) :=
  keeps_require f _

theorem keeps_getOperation (tenantID : TenantID) (operationID : Int) :
    Keeps f (getOperation tenantID operationID) :=
  (keeps_require f _).bind fun _ => Keeps.ite (fun _ => keeps_pure f _) fun _ => keeps_fail f _

theorem keeps_getOperationResult (tenantID : TenantID) (operationID : Int) :
    Keeps f (getOperationResult tenantID operationID) :=
  (keeps_getOperation f tenantID operationID).bind fun _ =>
    (keeps_require f _).bind fun _ => keeps_pure f _

theorem keeps_listAssociatedEIMs (tenantID : TenantID) (eid : Bytes) :
    Keeps f (listAssociatedEIMs tenantID eid) :=
  (keeps_require f _).bind fun _ => keeps_get f _

theorem keeps_listNotifications (tenantID : TenantID) (eid : Bytes) :
    Keeps f (listNotifications tenantID eid) :=
  (keeps_require f _).bind fun _ => keeps_get f _

theorem keeps_fetchPendingOperations (tenantID : TenantID) (eid : Bytes) (limit : Nat) :
    Keeps f (fetchPendingOperations tenantID eid limit) :=
  keeps_get f _

theorem keeps_listOperations (tenantID : TenantID) (eid : Bytes) (limit : Nat) :
    Keeps f (listOperations tenantID eid limit) :=
  keeps_get f _

theorem keeps_listPendingOperations (tenantID : TenantID) (limit : Nat) :
    Keeps f (listPendingOperations tenantID limit) :=
  keeps_get f _

end

/-! ## Writing

An observation is kept by a write that it does not read. -/

section

variable {γ : Type} {f : Store → γ}

theorem keeps_setProfileState {state : ProfileState} (hf : ∀ s : Store, f { s with
      profileStates := s.profileStates.insert (newProfileStateKey tenantID state.eid state.iccid)
        ⟨state, rfl, rfl⟩ } = f s) :
    Keeps f (setProfileState tenantID state) :=
  (keeps_require f _).bind fun _ => keeps_modify hf

theorem keeps_deleteProfileState {eid iccid : Bytes} (hf : ∀ s : Store, f { s with
      profileStates := s.profileStates.erase (newProfileStateKey tenantID eid iccid) } = f s) :
    Keeps f (deleteProfileState tenantID eid iccid) :=
  (keeps_require f _).bind fun _ => (keeps_require f _).bind fun _ => keeps_modify hf

theorem keeps_setEUICCState {state : EUICCState} (hf : ∀ s : Store, f { s with
      euiccStates := s.euiccStates.insert (newDeviceKey tenantID state.eid) state } = f s) :
    Keeps f (setEUICCState tenantID state) :=
  (keeps_require f _).bind fun _ => keeps_modify hf

theorem keeps_setAssociatedEIM {associated : AssociatedEIM} (hf : ∀ s : Store, f { s with
      associatedEIMs := s.associatedEIMs.insert
        (newAssociatedEIMKey tenantID associated.eid associated.eimID) associated } = f s) :
    Keeps f (setAssociatedEIM tenantID associated) :=
  (keeps_require f _).bind fun _ => keeps_modify hf

theorem keeps_deleteAssociatedEIM {eid eimID : Bytes} (hf : ∀ s : Store, f { s with
      associatedEIMs := s.associatedEIMs.erase (newAssociatedEIMKey tenantID eid eimID) } = f s) :
    Keeps f (deleteAssociatedEIM tenantID eid eimID) :=
  (keeps_require f _).bind fun _ => (keeps_require f _).bind fun _ => keeps_modify hf

theorem keeps_storeNotification {notification : Notification} (hf : ∀ s : Store, f { s with
      notifications := s.notifications.insert
        ⟨normalizeTenantID tenantID, notification.eid, notification.sequenceNumber⟩
        notification } = f s) :
    Keeps f (storeNotification tenantID notification) :=
  (keeps_require f _).bind fun _ => Keeps.ite (fun _ => keeps_fail f _) fun _ => keeps_modify hf

end

/-! ## Frames of the writes -/

section

variable {key : DeviceKey} {tenantID : TenantID}

theorem records_setProfileState {state : ProfileState}
    (hkey : key ≠ newDeviceKey tenantID state.eid) :
    Keeps (Store.records key) (setProfileState tenantID state) := by
  apply keeps_setProfileState
  intro s
  ext1
  case profiles =>
    funext iccid
    simp only [Store.records, Store.profile]
    rw [AList.lookup_insert_ne]
    intro h
    exact hkey (by cases key; simp_all [newProfileStateKey, newDeviceKey])
  all_goals rfl

theorem records_deleteProfileState {eid iccid : Bytes} (hkey : key ≠ newDeviceKey tenantID eid) :
    Keeps (Store.records key) (deleteProfileState tenantID eid iccid) := by
  apply keeps_deleteProfileState
  intro s
  ext1
  case profiles =>
    funext iccid'
    simp only [Store.records, Store.profile]
    rw [AList.lookup_erase_ne]
    intro h
    exact hkey (by cases key; simp_all [newProfileStateKey, newDeviceKey])
  all_goals rfl

theorem records_setEUICCState {state : EUICCState} (hkey : key ≠ newDeviceKey tenantID state.eid) :
    Keeps (Store.records key) (setEUICCState tenantID state) := by
  apply keeps_setEUICCState
  intro s
  ext1
  case euicc => exact AList.lookup_insert_ne hkey
  all_goals rfl

/-- The eUICC state is stored for a registered device only. -/
theorem setEUICCState_apply (tenantID : TenantID) (state : EUICCState) (s : Store) :
    setEUICCState tenantID state s =
      if (s.devices.lookup (newDeviceKey tenantID state.eid)).isSome then
        (.ok (), { s with
          euiccStates := s.euiccStates.insert (newDeviceKey tenantID state.eid) state })
      else (.error .notFound, s) := by
  cases hdevice : s.devices.lookup (newDeviceKey tenantID state.eid) with
  | none => exact require_of_none hdevice
  | some device => exact require_of_some hdevice

/-- Storing the eUICC state that is there already changes nothing. -/
theorem records_setEUICCState_of_same {state : EUICCState} {s : Store}
    (hsame : (s.devices.lookup (newDeviceKey tenantID state.eid)).isSome →
      s.euiccStates.lookup (newDeviceKey tenantID state.eid) = some state) :
    KeepsAt (Store.records key) (setEUICCState tenantID state) s := by
  by_cases hkey : key = newDeviceKey tenantID state.eid
  · rw [KeepsAt, setEUICCState_apply]
    split
    next hregistered =>
        ext1
        case euicc =>
          rw [hkey]
          exact (AList.lookup_insert _).trans (hsame hregistered).symm
        all_goals rfl
    next => rfl
  · exact records_setEUICCState hkey s

theorem records_setAssociatedEIM {associated : AssociatedEIM}
    (hkey : key ≠ newDeviceKey tenantID associated.eid) :
    Keeps (Store.records key) (setAssociatedEIM tenantID associated) := by
  apply keeps_setAssociatedEIM
  intro s
  ext1
  case eims =>
    funext eimID
    refine AList.lookup_insert_ne ?_
    intro h
    exact hkey (by cases key; simp_all [newAssociatedEIMKey, newDeviceKey])
  all_goals rfl

theorem records_deleteAssociatedEIM {eid eimID : Bytes} (hkey : key ≠ newDeviceKey tenantID eid) :
    Keeps (Store.records key) (deleteAssociatedEIM tenantID eid eimID) := by
  apply keeps_deleteAssociatedEIM
  intro s
  ext1
  case eims =>
    funext eimID'
    refine AList.lookup_erase_ne ?_
    intro h
    exact hkey (by cases key; simp_all [newAssociatedEIMKey, newDeviceKey])
  all_goals rfl

theorem records_storeNotification {notification : Notification}
    (hkey : key ≠ newDeviceKey tenantID notification.eid) :
    Keeps (Store.records key) (storeNotification tenantID notification) := by
  apply keeps_storeNotification
  intro s
  ext1
  case notifications =>
    funext sequenceNumber
    refine AList.lookup_insert_ne ?_
    intro h
    exact hkey (by cases key; simp_all [newDeviceKey])
  all_goals rfl

/-- A notification is stored for a registered device, under a positive number. -/
theorem storeNotification_apply (tenantID : TenantID) (notification : Notification) (s : Store) :
    storeNotification tenantID notification s =
      if (s.devices.lookup (newDeviceKey tenantID notification.eid)).isSome ∧
          0 < notification.sequenceNumber then
        (.ok (), { s with
          notifications := s.notifications.insert
            ⟨normalizeTenantID tenantID, notification.eid, notification.sequenceNumber⟩
            notification })
      else (.error .notFound, s) := by
  cases hdevice : s.devices.lookup (newDeviceKey tenantID notification.eid) with
  | none =>
      rw [if_neg (by simp)]
      exact require_of_none hdevice
  | some device =>
      refine (require_of_some hdevice).trans ?_
      by_cases hpositive : 0 < notification.sequenceNumber
      · have hnot : ¬ notification.sequenceNumber ≤ 0 := by omega
        rw [if_neg hnot, if_pos ⟨rfl, hpositive⟩]
        rfl
      · have hle : notification.sequenceNumber ≤ 0 := by omega
        rw [if_pos hle, if_neg fun h => hpositive h.2]
        rfl

end

end OpenIotRsp.Storage
