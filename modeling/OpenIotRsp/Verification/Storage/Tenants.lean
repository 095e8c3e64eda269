import OpenIotRsp.Verification.Storage.Results

/-!
# Isolation of tenants

What the store holds for one tenant, as the parts of its maps that belong to
it.  The calls of another tenant leave these parts as they are, and they are all
that the readers of the tenant look at.  In which order a map is ranged over is
drawn anew at each call, so a listing with ties has several answers; the calls of
another tenant leave the answers that are possible.
-/

namespace OpenIotRsp.Storage

open Octets Stateful Server

/-! ## Calls -/

namespace StoreCall

def tenantID : StoreCall → TenantID
  | registerDevice tenantID _ => tenantID
  | getProfileState tenantID _ _ => tenantID
  | listProfileStates tenantID _ => tenantID
  | setProfileState tenantID _ => tenantID
  | deleteProfileState tenantID _ _ => tenantID
  | getEUICCState tenantID _ => tenantID
  | setEUICCState tenantID _ => tenantID
  | nextEUICCPackageCounter tenantID _ => tenantID
  | enqueueOperation tenantID _ _ _ => tenantID
  | getOperation tenantID _ => tenantID
  | getOperationBySequence tenantID _ _ => tenantID
  | fetchPendingOperations tenantID _ _ => tenantID
  | listOperations tenantID _ _ => tenantID
  | listPendingOperations tenantID _ => tenantID
  | recordEUICCPackageResult tenantID _ _ _ _ _ => tenantID
  | getOperationResult tenantID _ => tenantID
  | storeEIMConfig tenantID _ _ => tenantID
  | readEIMConfig tenantID _ => tenantID
  | setAssociatedEIM tenantID _ _ _ _ => tenantID
  | deleteAssociatedEIM tenantID _ _ => tenantID
  | getAssociatedEIM tenantID _ _ => tenantID
  | listAssociatedEIMs tenantID _ => tenantID
  | storeNotification tenantID _ _ _ _ => tenantID
  | listNotifications tenantID _ => tenantID

end StoreCall

/-! ## The view of a tenant -/

/-- The entries of a tenant in each of the maps. -/
@[ext]
structure TenantView where
  devices : List (Sigma fun _ : DeviceKey => MemoryDevice)
  profileStates : List (Sigma StoredProfile)
  euiccStates : List (Sigma fun _ : DeviceKey => EUICCState)
  associatedEIMs : List (Sigma fun _ : AssociatedEIMKey => AssociatedEIM)
  operations : List (Sigma StoredOperation)
  results : List (Sigma fun _ : ResultKey => EUICCPackageResult)
  eimConfigs : List (Sigma fun _ : ConfigKey => EIMConfig)
  notifications : List (Sigma fun _ : NotificationKey => Notification)

def Store.view (tenant : TenantID) (s : Store) : TenantView where
  devices := Table.restrict (fun e => e.1.tenantID = tenant) s.devices
  profileStates := Table.restrict (fun e => e.1.tenantID = tenant) s.profileStates
  euiccStates := Table.restrict (fun e => e.1.tenantID = tenant) s.euiccStates
  associatedEIMs := Table.restrict (fun e => e.1.tenantID = tenant) s.associatedEIMs
  operations := Table.restrict (fun e => e.2.val.tenantID = tenant) s.operations
  results := Table.restrict (fun e => e.1.tenantID = tenant) s.results
  eimConfigs := Table.restrict (fun e => e.1.tenantID = tenant) s.eimConfigs
  notifications := Table.restrict (fun e => e.1.tenantID = tenant) s.notifications

/-! ## Writes of another tenant -/

section

variable {κ : Type} [DecidableEq κ] {β : κ → Type} {tenant : TenantID} {m : AList β} {k : κ}

end

section

variable {tenant tenantID : TenantID} (hne : normalizeTenantID tenantID ≠ tenant)
include hne

end

section

variable {s s' : Store} {tenantID : TenantID}
  (h : Store.view (normalizeTenantID tenantID) s = Store.view (normalizeTenantID tenantID) s')
include h

end

section

variable {s s' : Store} {tenantID : TenantID}
  (h : Store.view (normalizeTenantID tenantID) s = Store.view (normalizeTenantID tenantID) s')
include h

end

/-- The same store, with other iteration orders. -/
structure Store.Reordered (s s' : Store) : Prop where
  devices : s.devices.entries.Perm s'.devices.entries
  profileStates : s.profileStates.entries.Perm s'.profileStates.entries
  euiccStates : s.euiccStates.entries.Perm s'.euiccStates.entries
  associatedEIMs : s.associatedEIMs.entries.Perm s'.associatedEIMs.entries
  operations : s.operations.entries.Perm s'.operations.entries
  results : s.results.entries.Perm s'.results.entries
  eimConfigs : s.eimConfigs.entries.Perm s'.eimConfigs.entries
  notifications : s.notifications.entries.Perm s'.notifications.entries
  nextOperationID : s.nextOperationID = s'.nextOperationID

/-- The stores that calls lead to, each call with orders of its own. -/
inductive Reachable : Store → Prop
  | new : Reachable Store.new
  | step {s s' : Store} (h : Reachable s) (horder : s.Reordered s') (call : StoreCall) :
      Reachable (StoreCall.step s' call)

namespace Store.Reordered

variable {s s' s'' : Store}

theorem refl (s : Store) : s.Reordered s := by
  constructor <;> rfl

theorem symm (h : s.Reordered s') : s'.Reordered s :=
  ⟨h.devices.symm, h.profileStates.symm, h.euiccStates.symm, h.associatedEIMs.symm,
    h.operations.symm, h.results.symm, h.eimConfigs.symm, h.notifications.symm,
    h.nextOperationID.symm⟩

theorem trans (h : s.Reordered s') (h' : s'.Reordered s'') : s.Reordered s'' :=
  ⟨h.devices.trans h'.devices, h.profileStates.trans h'.profileStates,
    h.euiccStates.trans h'.euiccStates, h.associatedEIMs.trans h'.associatedEIMs,
    h.operations.trans h'.operations, h.results.trans h'.results,
    h.eimConfigs.trans h'.eimConfigs, h.notifications.trans h'.notifications,
    h.nextOperationID.trans h'.nextOperationID⟩

theorem ledger_eq (h : s.Reordered s') : ledger s = ledger s' := by
  have hdevices key := AList.perm_lookup h.devices (a := key)
  have hoperations id := AList.perm_lookup h.operations (a := id)
  simp only [ledger, hdevices, hoperations, h.nextOperationID]

end Store.Reordered

theorem Reachable.logged {s : Store} (h : Reachable s) : ∃ log, Logged (ledger s) log := by
  induction h with
  | new => exact ⟨[], logged_new⟩
  | step h horder call ih =>
      obtain ⟨log, hlog⟩ := ih
      exact ⟨_, logged_step (horder.ledger_eq ▸ hlog) call⟩

theorem reachable_after (calls : List StoreCall) : Reachable (StoreCall.after calls) := by
  induction calls using List.reverseRecOn with
  | nil => exact .new
  | append_singleton calls call ih =>
      rw [StoreCall.after, Run.after_append]
      exact .step ih (.refl _) call

end OpenIotRsp.Storage
