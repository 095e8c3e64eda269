import OpenIotRsp.Verification.Esipa.DeviceFrame

/-!
# What a message does not touch

An observation that reads neither the state of devices, nor notifications, and
that recording a result keeps, is kept by every message.
-/

namespace OpenIotRsp.Esipa

open Octets Ber Stateful Asn1 Storage Euiccpkg

variable {γ : Type} {f : Store → γ}

/-- Polling for the next package leaves the store as it is. -/
theorem readOnly_handleGetEimPackage (H : Handler) (tlv : Tlv) :
    ReadOnly (handleGetEimPackage H tlv) := by
  refine (keeps_ofExcept id _).bind fun request => ?_
  split
  next => exact keeps_pure id _
  next eid _ =>
      have hknown : Keeps id (ensureDeviceKnown H eid) :=
        (keeps_listProfileStates id H.tenant eid).bind fun _ => keeps_pure id _
      have hselect : Keeps id (selectOperationForGetEimPackage H eid) := by
        refine (keeps_fetchPendingOperations id H.tenant eid 100).bind fun pending => ?_
        split
        next => exact keeps_pure id _
        next => exact keeps_pure id _
      refine (keeps_findRow hknown).bind fun known => ?_
      cases known with
      | none => exact keeps_pure id _
      | some _ =>
          refine (keeps_findRow hselect).bind fun operation => ?_
          cases operation with
          | none => exact keeps_pure id _
          | some operation => exact keeps_ofExcept id _

theorem keeps_handleNotification
    (hf : ∀ (s : Store) notifications, f { s with notifications := notifications } = f s)
    {H : Handler} {tlv : Tlv} (hnone : provideResultTLV tlv = none) :
    Keeps f (handleNotification H tlv) := by
  rw [handleNotification, hnone]
  refine (keeps_ofExcept f _).bind fun notifications => ?_
  refine Keeps.bind (Keeps.forM fun notification _ => ?_) fun _ => keeps_pure f _
  exact keeps_storeNotification fun s => hf s _

/-- A message that carries no result stores notifications at most. -/
theorem keeps_dispatch_of_not_isResultMessage
    (hf : ∀ (s : Store) notifications, f { s with notifications := notifications } = f s)
    {H : Handler} {tlv : Tlv} (hmessage : ¬ IsResultMessage tlv) : Keeps f (dispatch H tlv) := by
  obtain ⟨hprovide, htransfer⟩ := not_or.mp hmessage
  have hnone : provideResultTLV tlv = none := Option.not_isSome_iff_eq_none.mp hprovide
  refine Keeps.ite (fun _ => (readOnly_handleGetEimPackage H tlv).keeps f) fun _ => ?_
  refine Keeps.ite (fun _ => ?_) fun _ => ?_
  · rw [handleProvideEimPackageResult, hnone]
    exact keeps_fail f _
  · refine Keeps.ite (fun htag => absurd htag htransfer) fun _ => ?_
    exact Keeps.ite (fun _ => keeps_handleNotification hf hnone) fun _ => keeps_fail f _

/-- No part of a message's effect is read by the observation. -/
structure Unaffected (f : Store → γ) : Prop where
  state : ∀ (s : Store) profileStates euiccStates associatedEIMs,
    f { s with
      profileStates := profileStates
      euiccStates := euiccStates
      associatedEIMs := associatedEIMs } = f s
  notifications : ∀ (s : Store) notifications, f { s with notifications := notifications } = f s
  record : ∀ tenantID result, Keeps f (recordEUICCPackageResult tenantID result)

namespace Unaffected

variable (hf : Unaffected f) {H : Handler}
include hf

theorem ignoresState (tenantID : TenantID) (eid : Bytes) : IgnoresState f tenantID eid :=
  ignoresState_of_forall hf.state

theorem storeNotification (tenantID : TenantID) (notification : Notification) :
    Keeps f (Storage.storeNotification tenantID notification) :=
  keeps_storeNotification fun s => hf.notifications s _

theorem recordNotificationsFromList (eid : Bytes) (list : Option Tlv) :
    Keeps f (Esipa.recordNotificationsFromList H eid list) :=
  keeps_recordNotificationsFromList (fun _ _ _ => hf.storeNotification _ _) list

theorem recordResult (eid : Bytes) (operation : Operation) (status : OperationStatus)
    (payload : Bytes) : Keeps f (Esipa.recordResult H eid operation status payload) :=
  hf.record _ _

theorem recordEuiccPackageResult (eid : Bytes) (tlv : Tlv) (payload : Bytes) :
    Keeps f (Esipa.recordEuiccPackageResult H eid tlv payload) := by
  intro s
  refine keepsAt_recordEuiccPackageResult (hf.recordNotificationsFromList eid) fun r => ?_
  exact r.keepsAt_record (fun status => hf.recordResult eid _ status payload s)
    (hf.ignoresState _ _)

theorem recordProfileDownloadTriggerResult (eid : Bytes) (tlv : Tlv) (payload : Bytes) :
    Keeps f (Esipa.recordProfileDownloadTriggerResult H eid tlv payload) := by
  refine (keeps_ofExcept f _).bind fun result => ?_
  refine ((readOnly_pendingProfileDownloadTrigger eid _).keeps f).bind fun found => ?_
  refine ((readOnly_requireOperation found).keeps f).bind fun operation => ?_
  exact (hf.recordResult eid operation _ payload).bind fun _ => keeps_pure f _

theorem recordEimPackageResultResponseError (eid : Bytes) (error : EimPackageResultResponseError)
    (payload : Bytes) : Keeps f (Esipa.recordEimPackageResultResponseError H eid error payload) := by
  rw [Esipa.recordEimPackageResultResponseError]
  split
  next =>
      refine ((readOnly_matchPendingEuiccPackageByCorrelation _ _ _ _).keeps f).bind fun operation => ?_
      exact (hf.recordResult eid operation _ payload).bind fun _ => keeps_pure f _
  next =>
      refine ((readOnly_firstPendingEuiccPackageOperation eid).keeps f).bind fun operation => ?_
      exact (hf.recordResult eid operation _ payload).bind fun _ => keeps_pure f _

theorem recordEimPackageResultError (eid : Bytes) (tlv : Tlv) (payload : Bytes) :
    Keeps f (Esipa.recordEimPackageResultError H eid tlv payload) := by
  refine (keeps_ofExcept f _).bind fun result => ?_
  split
  next => exact hf.recordEimPackageResultResponseError eid _ payload
  next => exact keeps_fail f _

theorem recordIpaEuiccDataResponse (eid : Bytes) (tlv : Tlv) (payload : Bytes) :
    Keeps f (Esipa.recordIpaEuiccDataResponse H eid tlv payload) := by
  refine (keeps_ofExcept f _).bind fun response => ?_
  refine ((readOnly_pendingIpaEuiccDataOperation eid _).keeps f).bind fun found => ?_
  refine ((readOnly_requireOperation found).keeps f).bind fun operation => ?_
  cases response with
  | error e => exact (hf.recordResult eid operation _ payload).bind fun _ => keeps_pure f _
  | data data =>
      refine (hf.recordResult eid operation _ payload).bind fun _ => ?_
      refine Keeps.bind (Keeps.bind ?_ fun _ => ?_) fun _ => ?_
      · exact (ignoresState_of_forall hf.state).setEUICC _ rfl
      · exact (hf.ignoresState _ _).syncDataInventory data
      · refine (hf.recordNotificationsFromList eid _).bind fun _ => ?_
        exact Keeps.ite (fun _ => keeps_pure f _) fun _ => keeps_pure f _

theorem recordEimPackageResult (eid : Bytes) (tlv : Tlv) :
    Keeps f (Esipa.recordEimPackageResult H eid tlv) := by
  refine (keeps_ofExcept f _).bind fun payload => ?_
  refine Keeps.ite (fun _ => hf.recordProfileDownloadTriggerResult eid tlv payload) fun _ => ?_
  refine Keeps.ite (fun _ => hf.recordIpaEuiccDataResponse eid tlv payload) fun _ => ?_
  exact Keeps.ite (fun _ => hf.recordEimPackageResultError eid tlv payload) fun _ =>
    hf.recordEuiccPackageResult eid tlv payload

theorem dispatch (tlv : Tlv) : Keeps f (Esipa.dispatch H tlv) := by
  intro s
  by_cases hmessage : IsResultMessage tlv
  · exact keepsAt_dispatch hmessage fun eid raw _ => hf.recordEimPackageResult eid raw s
  · exact keeps_dispatch_of_not_isResultMessage hf.notifications hmessage s

end Unaffected

end OpenIotRsp.Esipa
