import OpenIotRsp.Library.Success
import OpenIotRsp.Verification.Esipa.Acknowledgement
import OpenIotRsp.Verification.Esipa.Wire
import OpenIotRsp.Verification.Storage.ShownResults

/-!
# Refused results

A result is recorded before its effect on the state and before its
notifications, so a message that is refused at a later step has left its mark.
The steps that can fail then are said, with the condition under which they do.
-/

namespace OpenIotRsp.Esipa

open Octets Ber Stateful Asn1 Storage Euiccpkg Ipadata

/-! ## When the store accepts a row -/

section

variable {d : AList fun _ : DeviceKey => MemoryDevice} {tenantID : TenantID} {eid : Bytes}

/-- The device table is the given one. -/
def Devices (d : AList fun _ : DeviceKey => MemoryDevice) (s : Store) : Prop := s.devices = d

theorem succeedsIff_of_keeps {α : Type} {m : StoreM α} {c : Prop} (hm : Keeps Store.devices m)
    (h : ∀ s, s.devices = d → ((m s).1.isOk ↔ c)) : SucceedsIff (Devices d) m c :=
  ⟨h, fun s hs => (hm s).trans hs⟩

theorem succeedsIff_requireDevice (key : DeviceKey) :
    SucceedsIff (Devices d) (require fun s => s.devices.lookup key) (d.lookup key).isSome := by
  refine succeedsIff_of_keeps (keeps_require _ _) fun s hs => ?_
  rw [require_apply, hs]
  cases d.lookup key <;> simp

theorem succeedsIff_setEUICCState (state : EUICCState) :
    SucceedsIff (Devices d) (setEUICCState tenantID state)
      (d.lookup (newDeviceKey tenantID state.eid)).isSome := by
  refine ((succeedsIff_requireDevice _).bind fun _ _ _ _ => ?_).congr (and_iff_left trivial)
  exact succeedsIff_modify fun _ hs => hs

theorem succeedsIff_storeNotification (notification : Notification) :
    SucceedsIff (Devices d) (storeNotification tenantID notification)
      ((d.lookup (newDeviceKey tenantID notification.eid)).isSome ∧
        0 < notification.sequenceNumber) := by
  refine succeedsIff_of_keeps (keeps_storeNotification fun _ => rfl) fun s hs => ?_
  rw [storeNotification_apply, hs]
  split <;> simp_all

/-! ## When a result can be applied -/

variable (hregistered : (d.lookup (newDeviceKey tenantID eid)).isSome)

include hregistered

/-- What succeeds for a registered device adds no condition. -/
theorem succeedsIff_of_changes {m : StoreM Unit} {w : DeviceRecords → DeviceRecords}
    (hm : ChangesDevice tenantID eid m w)
    (hframe : ∀ {γ : Type} {f : Store → γ}, IgnoresState f tenantID eid → Keeps f m) :
    SucceedsIff (Devices d) m True := by
  refine succeedsIff_of_keeps (hframe (ignoresState_of_forall fun _ _ _ _ => rfl)) fun s hs => ?_
  have hknown : s.Knows (newDeviceKey tenantID eid) := by
    rw [Store.Knows, hs]
    exact hregistered
  simp [(hm s hknown).1]

end

/-- The configuration that the result associates, if it does, can be determined and encoded. -/
def Applicable (B : Bertlv) (s : Store) (tenantID : TenantID) (eid : Bytes) (pkg : EuiccPackage)
    (result : Option Result) : Prop :=
  match (packageECO pkg).2 with
  | some (.addEIM (some config)) =>
      (associatedEIMFromConfig B eid (addedConfig config result)).isOk
  | some (.updateEIM (some config)) =>
      ∃ updated, (updatedConfig B tenantID eid config s).1 = .ok updated ∧
        (associatedEIMFromConfig B eid updated).isOk
  | _ => True

/-- Applying a result to a registered device fails only over the configuration that it associates. -/
theorem isOk_applyPackageResultState_iff {B : Bertlv} {s s' : Store} {tenantID : TenantID}
    {eid : Bytes} {pkg : EuiccPackage} {result : Option Result}
    (hregistered : (s'.devices.lookup (newDeviceKey tenantID eid)).isSome)
    (heims : s'.associatedEIMs = s.associatedEIMs) :
    (applyPackageResultState B tenantID eid pkg result s').1.isOk ↔
      Applicable B s tenantID eid pkg result := by
  have hrow (config : EimConfigurationData) : (updatedConfig B tenantID eid config s).1 =
      updatedFrom B config ((s'.records (newDeviceKey tenantID eid)).eims config.eimID) := by
    rw [updatedConfig_apply, Store.records, Store.records, heims]
  rw [(applyPackageResultState_of_known hregistered pkg result).1, DeviceRecords.outcomeECO,
    Applicable]
  cases pkg with
  | psmo psmos => exact iff_of_true rfl trivial
  | eco ecos =>
      cases (packageECO (.eco ecos)).2 with
      | none => exact iff_of_true rfl trivial
      | some eco =>
          cases eco with
          | listEIM => exact iff_of_true rfl trivial
          | deleteEIM eimID => exact iff_of_true rfl trivial
          | addEIM config =>
              cases config with
              | none => exact iff_of_true rfl trivial
              | some config => simp
          | updateEIM config =>
              cases config with
              | none => exact iff_of_true rfl trivial
              | some config =>
                  dsimp only
                  rw [updatedRow_eq, hrow]
                  simp only [Outcome.isOk_iff, Outcome.map_eq_ok, Outcome.bind_eq_ok, and_true,
                    exists_const]
                  exact exists_comm.trans (by simp [DeviceRecords.withPSMO, packagePSMO])

/-- Every notification of the list can be read, belongs to a registered device and has a positive
number. -/
def Storable (H : Handler) (s : Store) (eid : Bytes) (list : Option Tlv) : Prop :=
  ∀ tlv, list = some tlv → ∃ pendings,
    PendingNotificationList.unmarshalBERTLV H.bertlv tlv = .ok pendings ∧
      ∀ pending ∈ pendings, ∃ notification, notificationFromPending H eid pending = .ok notification ∧
        (s.devices.lookup (H.device notification.eid)).isSome ∧ 0 < notification.sequenceNumber

theorem succeedsIff_recordNotificationsFromList (H : Handler) {s : Store} (eid : Bytes)
    (list : Option Tlv) :
    SucceedsIff (Devices s.devices) (recordNotificationsFromList H eid list)
      (Storable H s eid list) := by
  cases list with
  | none => exact (succeedsIff_pure []).congr (by simp [Storable])
  | some tlv =>
      refine (succeedsIff_ofExcept_bind fun pendings _ => SucceedsIff.mapM fun pending _ =>
        succeedsIff_ofExcept_bind fun notification _ =>
          (succeedsIff_storeNotification notification).bind fun _ _ _ _ =>
            succeedsIff_pure _).congr ?_
      simp [Storable, Handler.device]

/-! ## Failures that leave no mark -/

/-- If the computation fails, the records of every device are as they were. -/
def AtomicAt {α : Type} (m : StoreM α) (s : Store) : Prop :=
  ∀ e, (m s).1 = .error e → ∀ key, (m s).2.records key = s.records key

section

variable {H : Handler} {s : Store} {eid payload : Bytes} {raw : Tlv} {operation : Operation}
  {status : OperationStatus} {α β : Type}

theorem atomicAt_of_unchanged {m : StoreM α} (h : (m s).2 = s) : AtomicAt m s := by
  intro e _ key
  rw [h]

theorem atomicAt_bind_iff {m : StoreM α} (hm : ReadOnly m) {k : α → StoreM β} :
    AtomicAt (m >>= k) s ↔ ∀ a, (m s).1 = .ok a → AtomicAt (k a) s := by
  rcases hrun : m s with ⟨r, t⟩
  obtain rfl : t = s := by simpa [hrun] using hm s
  cases r with
  | error e =>
      refine iff_of_true (atomicAt_of_unchanged ?_) fun a ha => nomatch ha
      rw [bind_of_error hrun]
  | ok a =>
      rw [AtomicAt, bind_of_ok hrun]
      exact ⟨fun h a' ha => Except.ok.inj ha ▸ h, fun h => h a rfl⟩

theorem atomicAt_recordResult {k : Unit → StoreM α} (hqueued : Queued s (H.device eid) operation)
    (h : (s.devices.lookup (H.device eid)).isSome →
      (k () (s.recorded (H.device eid) operation status payload)).1.isOk) :
    AtomicAt (recordResult H eid operation status payload >>= k) s := by
  have hrecord := recordResult_of_queued hqueued status payload
  split at hrecord
  next hregistered =>
      obtain ⟨a, ha⟩ := Outcome.isOk_iff.mp (h hregistered)
      intro e he
      rw [bind_of_ok hrecord, ha] at he
      cases he
  next =>
      apply atomicAt_of_unchanged
      rw [bind_of_error hrecord]

theorem normalizeResultStatus_ne_pending (status : OperationStatus) :
    normalizeResultStatus status ≠ .pending := by
  cases status <;> simp [normalizeResultStatus]

/-- A pending operation that has got a result shows it. -/
theorem isOk_of_atomicAt_recordResult {k : Unit → StoreM α} (hk : ∀ u, Keeps book (k u))
    (hqueued : Queued s (H.device eid) operation) (hid : operation.id ≠ 0)
    (hpending : operation.status = .pending)
    (h : AtomicAt (recordResult H eid operation status payload >>= k) s)
    (hregistered : (s.devices.lookup (H.device eid)).isSome) :
    (k () (s.recorded (H.device eid) operation status payload)).1.isOk := by
  have hrecord := recordResult_of_queued hqueued status payload
  rw [if_pos hregistered] at hrecord
  cases hrest : (k () (s.recorded (H.device eid) operation status payload)).1 with
  | ok a => simp
  | error e =>
      have hsame := h e (by rw [bind_of_ok hrecord, hrest]) (H.device eid)
      have hoperation := congrFun (congrArg DeviceRecords.operations hsame) operation.id
      rw [bind_of_ok hrecord] at hoperation
      have hrow : (k () (s.recorded (H.device eid) operation status payload)).2.operations = _ :=
        congrArg Prod.fst ((hk () _).trans (book_recorded hid hqueued status payload))
      have hqueued' : Queued (k () (s.recorded (H.device eid) operation status payload)).2
          (H.device eid) { operation with status := normalizeResultStatus status } :=
        ⟨_, by rw [hrow, AList.lookup_insert], rfl, hqueued.choose_spec.2.2⟩
      have heq := Option.some.inj
        (hqueued'.operation_eq.symm.trans (hoperation.trans hqueued.operation_eq))
      exact absurd ((congrArg Operation.status heq).trans hpending)
        (normalizeResultStatus_ne_pending status)

end

/-! ## Results -/

/-- Nothing fails after the result has been recorded. -/
structure Completes (H : Handler) (s : Store) (eid : Bytes) (raw : Tlv) : Prop where
  verified : ∀ (r : PackageReading H s eid raw) publicKey domain status,
    r.publicKey = some publicKey →
    (verifiedOperationResult H r.operation eid r.resultDER publicKey s).1 = .ok (domain, status) →
    (status = .done → ∃ request, signedRequestFromOperation H eid r.operation = .ok request ∧
      Applicable H.bertlv s H.tenant eid request.package domain) ∧
    Storable H s eid r.notificationList
  unverified : ∀ (r : PackageReading H s eid raw) status, r.publicKey = none →
    resultStatusForOperation H r.operation r.result = .ok status →
    (status = .done → ∃ request, decodePackage H r.operation = .ok request ∧
      ∃ domain, domainResult H request.euiccPackageSigned.euiccPackage r.result = .ok domain ∧
        Applicable H.bertlv s H.tenant eid request.euiccPackageSigned.euiccPackage domain) ∧
    Storable H s eid r.notificationList
  /-- the data name a registered device, if they name one -/
  data : ∀ data operation, raw.tag = tagIpaEuiccData →
    IpaEuiccDataResponse.unmarshalBERTLV H.bertlv raw = .ok (.data data) →
    (pendingIpaEuiccDataOperation H eid (dataTransaction (.data data)) s).1 =
      .ok (some operation) →
    (s.devices.lookup (H.device (stateEID eid data))).isSome ∧
    Storable H s eid data.notificationsRaw

/-- The result is not one that was recorded before. -/
structure FirstDelivery (H : Handler) (s : Store) (eid : Bytes) (raw : Tlv) : Prop where
  identified : ∀ operation, Queued s (H.device eid) operation → operation.id ≠ 0
  pending : ∀ r : PackageReading H s eid raw, r.operation.status = .pending

/-- The failures of the computation leave no mark if the condition holds, and for a result that is
delivered for the first time only then. -/
structure AtomicWhen {α : Type} (H : Handler) (s : Store) (eid : Bytes) (raw : Tlv) (m : StoreM α)
    (c : Prop) : Prop where
  of_condition : c → AtomicAt m s
  condition : FirstDelivery H s eid raw → AtomicAt m s → c

section

variable {H : Handler} {s : Store} {eid payload : Bytes} {raw : Tlv} {operation : Operation}
  {status : OperationStatus} {α β : Type}

theorem atomicWhen_recordResult {k : Unit → StoreM α} {c : Prop}
    (hqueued : Queued s (H.device eid) operation) (hk : ∀ u, Keeps book (k u))
    (hfirst : FirstDelivery H s eid raw → operation.status = .pending)
    (hrest : (s.devices.lookup (H.device eid)).isSome →
      ((k () (s.recorded (H.device eid) operation status payload)).1.isOk ↔ c)) :
    AtomicWhen H s eid raw (recordResult H eid operation status payload >>= k)
      ((s.devices.lookup (H.device eid)).isSome → c) where
  of_condition hc := atomicAt_recordResult hqueued fun h => (hrest h).mpr (hc h)
  condition hdelivery hatomic hregistered :=
    (hrest hregistered).mp (isOk_of_atomicAt_recordResult hk hqueued
      (hdelivery.identified operation hqueued) (hfirst hdelivery) hatomic hregistered)

theorem devices_recorded (key : DeviceKey) (operation : Operation) (status : OperationStatus)
    (payload : Bytes) (s : Store) :
    (s.recorded key operation status payload).devices = s.devices :=
  recorded_keeps (f := Store.devices) (fun _ _ _ => rfl) s key operation status payload

theorem AtomicWhen.bind {m : StoreM α} (hm : ReadOnly m) {k : α → StoreM β} {c : α → Prop}
    (hk : ∀ a, (m s).1 = .ok a → AtomicWhen H s eid raw (k a) (c a)) :
    AtomicWhen H s eid raw (m >>= k) (∀ a, (m s).1 = .ok a → c a) where
  of_condition hc := (atomicAt_bind_iff hm).mpr fun a ha => (hk a ha).of_condition (hc a ha)
  condition hdelivery hatomic a ha :=
    (hk a ha).condition hdelivery ((atomicAt_bind_iff hm).mp hatomic a ha)

/-- What follows the recording of a package result: the effect, then the notifications. -/
theorem isOk_follow_up_iff {m : StoreM Unit} {list : Option Tlv} {ack : List Int → Recorded}
    {c : Prop} {s' : Store} (hs' : s'.devices = s.devices) (hkeeps : Keeps Store.devices m)
    (hm : (m s').1.isOk ↔ c) :
    ((m >>= fun _ => recordNotificationsFromList H eid list >>= fun numbers =>
      pure (ack numbers)) s').1.isOk ↔ c ∧ Storable H s eid list := by
  rcases hrun : m s' with ⟨r, t⟩
  rw [hrun] at hm
  have hdevices : t.devices = s.devices := by
    have hkept := hkeeps s'
    rw [hrun] at hkept
    exact hkept.trans hs'
  cases r with
  | error e =>
      rw [bind_of_error hrun]
      exact iff_of_false (by simp) fun h => absurd (hm.mpr h.1) (by simp)
  | ok u =>
      have hnotifications := ((succeedsIff_recordNotificationsFromList H eid list).bind
        fun _ numbers _ _ => succeedsIff_pure (ack numbers)).isOk_iff t hdevices
      rw [bind_of_ok hrun, hnotifications, and_iff_left trivial]
      exact (and_iff_right (hm.mp (by simp))).symm

theorem keeps_devices_applyPackageResultState (pkg : EuiccPackage) (result : Option Result) :
    Keeps Store.devices (applyPackageResultState H.bertlv H.tenant eid pkg result) :=
  (ignoresState_of_forall (f := Store.devices) fun _ _ _ _ => rfl).applyPackageResultState _ _ _

theorem isOk_ite_done_iff {m : StoreM Unit} {c : Prop} (h : (m s).1.isOk ↔ c) :
    ((if status = .done then m else pure ()) s).1.isOk ↔ (status = .done → c) := by
  split
  next hdone => simp only [hdone, forall_const, h]
  next hdone => simp [hdone]

theorem isOk_ofExcept_bind_iff {r : Except Error α} {k : α → StoreM β} {c : α → Prop}
    (hk : ∀ a, r = .ok a → ((k a s).1.isOk ↔ c a)) :
    ((Stateful.ofExcept r >>= k) s).1.isOk ↔ ∃ a, r = .ok a ∧ c a := by
  cases r with
  | error e => simp [ofExcept_bind_of_error k s rfl]
  | ok a => simpa [ofExcept_bind_of_ok k s rfl] using hk a rfl

theorem isOk_apply_iff (hregistered : (s.devices.lookup (H.device eid)).isSome)
    (pkg : EuiccPackage) (result : Option Result) :
    (applyPackageResultState H.bertlv H.tenant eid pkg result
      (s.recorded (H.device eid) operation status payload)).1.isOk ↔
      Applicable H.bertlv s H.tenant eid pkg result := by
  apply isOk_applyPackageResultState_iff
  · rw [devices_recorded]
    exact hregistered
  · exact recorded_keeps (f := Store.associatedEIMs) (fun _ _ _ => rfl) s _ operation status payload

namespace PackageReading

variable (r : PackageReading H s eid raw)

/-- What the result does after it was recorded, if it was verified. -/
theorem atomicWhen_recordVerified (publicKey : PublicKey) (ack : List Int → Recorded) :
    AtomicWhen H s eid raw
      (recordVerified H eid r.operation r.resultDER payload publicKey >>= fun _ =>
        recordNotificationsFromList H eid r.notificationList >>= fun numbers => pure (ack numbers))
      (∀ outcome, (verifiedOperationResult H r.operation eid r.resultDER publicKey s).1 =
          .ok outcome → (s.devices.lookup (H.device eid)).isSome →
        (outcome.2 = .done → ∃ request, signedRequestFromOperation H eid r.operation = .ok request ∧
          Applicable H.bertlv s H.tenant eid request.package outcome.1) ∧
        Storable H s eid r.notificationList) := by
  simp only [recordVerified, bind_assoc]
  refine AtomicWhen.bind (readOnly_verifiedOperationResult _ _ _ _) fun outcome houtcome => ?_
  refine atomicWhen_recordResult r.queued (fun _ => ?_) (fun h => h.pending r) fun hregistered => ?_
  · refine (keeps_book_verifiedState _ _ _).bind fun _ => ?_
    exact (keeps_book_notifications _).bind fun _ => keeps_pure book _
  · refine isOk_follow_up_iff (devices_recorded _ _ _ _ s) ?_ ?_
    · refine Keeps.ite (fun _ => ?_) fun _ => keeps_pure _ _
      exact (keeps_ofExcept _ _).bind fun request => keeps_devices_applyPackageResultState _ _
    · exact isOk_ite_done_iff (isOk_ofExcept_bind_iff fun request _ =>
        isOk_apply_iff hregistered _ _)

/-- What the result does after it was recorded, if it was not verified. -/
theorem atomicWhen_recordUnverified (ack : List Int → Recorded) :
    AtomicWhen H s eid raw
      (recordUnverified H eid r.operation r.result payload >>= fun _ =>
        recordNotificationsFromList H eid r.notificationList >>= fun numbers => pure (ack numbers))
      (∀ status, resultStatusForOperation H r.operation r.result = .ok status →
          (s.devices.lookup (H.device eid)).isSome →
        (status = .done → ∃ request, decodePackage H r.operation = .ok request ∧
          ∃ domain, domainResult H request.euiccPackageSigned.euiccPackage r.result = .ok domain ∧
            Applicable H.bertlv s H.tenant eid request.euiccPackageSigned.euiccPackage domain) ∧
        Storable H s eid r.notificationList) := by
  have hkind : r.operation.kind = .euiccPackage := r.matching.queued.2
  have heid : r.operation.eid = eid := r.queued.choose_spec.2.2
  simp only [recordUnverified, bind_assoc]
  refine AtomicWhen.bind (readOnly_ofExcept _) fun status hstatus => ?_
  refine atomicWhen_recordResult r.queued (fun _ => ?_) (fun h => h.pending r) fun hregistered => ?_
  · refine Keeps.bind (Keeps.ite (fun _ => ?_) fun _ => keeps_pure book _) fun _ => ?_
    · exact keeps_applyEUICCPackageOperationState (ignoresState_book _ _) r.result
    · exact (keeps_book_notifications _).bind fun _ => keeps_pure book _
  · rw [applyEUICCPackageOperationState, if_neg (not_not.mpr hkind), heid]
    refine isOk_follow_up_iff (devices_recorded _ _ _ _ s) ?_ ?_
    · refine Keeps.ite (fun _ => ?_) fun _ => keeps_pure _ _
      exact (keeps_ofExcept _ _).bind fun request => (keeps_ofExcept _ _).bind fun domain =>
        keeps_devices_applyPackageResultState _ _
    · exact isOk_ite_done_iff (isOk_ofExcept_bind_iff fun request _ =>
        isOk_ofExcept_bind_iff fun domain _ => isOk_apply_iff hregistered _ _)

end PackageReading

theorem keeps_book_data (state : EUICCState) (data : IpaEuiccData) :
    Keeps book (setEUICCState H.tenant state >>= fun _ => dataFollowUp H eid data) := by
  refine Keeps.bind (keeps_setEUICCState fun _ => rfl) fun _ => Keeps.bind ?_ fun _ => ?_
  · exact (ignoresState_book H.tenant eid).syncDataInventory data
  · refine (keeps_book_notifications _).bind fun _ => ?_
    exact Keeps.ite (fun _ => keeps_pure book _) fun _ => keeps_pure book _

theorem succeedsIff_data (hregistered : (s.devices.lookup (H.device eid)).isSome)
    (state : EUICCState) (data : IpaEuiccData) :
    SucceedsIff (Devices s.devices)
      (setEUICCState H.tenant state >>= fun _ => dataFollowUp H eid data)
      ((s.devices.lookup (H.device state.eid)).isSome ∧ Storable H s eid data.notificationsRaw) := by
  refine (succeedsIff_setEUICCState state).bind fun _ _ _ _ => SucceedsIff.then ?_ fun _ _ _ _ => ?_
  · rw [syncProfileInventory_eq]
    exact SucceedsIff.ite (fun _ => succeedsIff_pure ()) fun _ =>
      succeedsIff_of_changes hregistered (changes_syncProfileInventory _)
        fun hf => hf.syncProfileInventory _
  · refine ((succeedsIff_recordNotificationsFromList H eid _).bind fun _ _ _ _ => ?_).congr
      (and_iff_left trivial)
    exact SucceedsIff.ite (fun _ => succeedsIff_pure _) fun _ => succeedsIff_pure _

theorem atomicWhen_recordData {data : IpaEuiccData}
    (hfound : (pendingIpaEuiccDataOperation H eid (dataTransaction (.data data)) s).1 =
      .ok (some operation)) :
    AtomicWhen H s eid raw (recordData H eid operation payload (.data data))
      ((s.devices.lookup (H.device eid)).isSome →
        (s.devices.lookup (H.device (stateEID eid data))).isSome ∧
          Storable H s eid data.notificationsRaw) := by
  obtain ⟨hqueued, hpending⟩ := queued_of_mem_pending (mem_of_pendingIpaEuiccData hfound)
  refine atomicWhen_recordResult hqueued (fun _ => keeps_book_data _ _) (fun _ => hpending)
    fun hregistered => ?_
  exact (succeedsIff_data hregistered _ data).isOk_iff _ (devices_recorded _ _ _ _ s)

theorem atomicAt_recordOnly {recorded : Recorded} (hqueued : Queued s (H.device eid) operation) :
    AtomicAt (recordResult H eid operation status payload >>= fun _ => pure recorded) s :=
  atomicAt_recordResult hqueued fun _ => by simp

theorem atomicAt_recordProfileDownloadTriggerResult :
    AtomicAt (recordProfileDownloadTriggerResult H eid raw payload) s := by
  refine (atomicAt_bind_iff (readOnly_ofExcept _)).mpr fun result _ => ?_
  refine (atomicAt_bind_iff (readOnly_pendingProfileDownloadTrigger eid _)).mpr
    fun found hfound => ?_
  refine (atomicAt_bind_iff (readOnly_requireOperation found)).mpr fun operation hoperation => ?_
  obtain rfl := requireOperation_eq_ok hoperation
  have hpending : operation ∈ s.pending (H.device eid) 100 := firstPendingTransaction_some hfound
  exact atomicAt_recordOnly (queued_of_mem_pending hpending).1

theorem atomicAt_recordEimPackageResultError :
    AtomicAt (recordEimPackageResultError H eid raw payload) s := by
  refine (atomicAt_bind_iff (readOnly_ofExcept _)).mpr fun result _ => ?_
  cases result.choice with
  | error error =>
      dsimp only
      rw [recordEimPackageResultResponseError]
      split
      next =>
          refine (atomicAt_bind_iff (readOnly_matchPendingEuiccPackageByCorrelation _ _ _ _)).mpr
            fun operation hmatch => ?_
          exact atomicAt_recordOnly (correlated_of_match hmatch).queued
      next =>
          refine (atomicAt_bind_iff (readOnly_firstPendingEuiccPackageOperation eid)).mpr
            fun operation hmatch => ?_
          exact atomicAt_recordOnly (queued_of_firstPending (firstPending_of_match hmatch)).1
  | _ => exact atomicAt_of_unchanged rfl

/-- A result that is neither a package result nor a data response has nothing to complete. -/
theorem completes_of_tag (hpackage : raw.tag ≠ tagEuiccPkg) (hsequence : raw.tag ≠ tagSequence)
    (hdata : raw.tag ≠ tagIpaEuiccData) : Completes H s eid raw where
  verified r := absurd r.tag_raw (by simp [hpackage, hsequence])
  unverified r := absurd r.tag_raw (by simp [hpackage, hsequence])
  data data operation htag := absurd htag hdata

theorem atomicWhen_recordIpaEuiccDataResponse (htag : raw.tag = tagIpaEuiccData) :
    AtomicWhen H s eid raw (recordIpaEuiccDataResponse H eid raw payload)
      ((s.devices.lookup (H.device eid)).isSome → Completes H s eid raw) where
  of_condition hc := by
    rcases recordIpaEuiccDataResponse_cases H s eid raw payload with
      ⟨e, hrun⟩ | ⟨response, operation, hdecode, hfound⟩
    · exact atomicAt_of_unchanged (by rw [hrun])
    · rw [AtomicAt, recordIpaEuiccDataResponse_of_found hdecode hfound]
      cases response with
      | error e => exact atomicAt_recordOnly (queued_of_pendingIpaEuiccData hfound)
      | data data =>
          exact (atomicWhen_recordData hfound : AtomicWhen H s eid raw _ _).of_condition
            fun hregistered => (hc hregistered).data data operation htag hdecode hfound
  condition hdelivery hatomic hregistered :=
    { verified := fun r => absurd r.tag_raw (by rw [htag]; decide)
      unverified := fun r => absurd r.tag_raw (by rw [htag]; decide)
      data := fun data operation _ hdecode hfound => by
        rw [AtomicAt, recordIpaEuiccDataResponse_of_found hdecode hfound] at hatomic
        exact (atomicWhen_recordData hfound).condition hdelivery hatomic hregistered }

theorem atomicWhen_recordEuiccPackageResult (hdata : raw.tag ≠ tagIpaEuiccData) :
    AtomicWhen H s eid raw (recordEuiccPackageResult H eid raw payload)
      ((s.devices.lookup (H.device eid)).isSome → Completes H s eid raw) where
  of_condition hc := by
    rcases recordEuiccPackageResult_cases H s eid raw payload with ⟨e, hrun⟩ | ⟨⟨r⟩⟩
    · exact atomicAt_of_unchanged (by rw [hrun])
    · rw [AtomicAt, r.recordEuiccPackageResult_eq, PackageReading.record]
      cases hkey : r.publicKey with
      | none =>
          exact (r.atomicWhen_recordUnverified _).of_condition
            fun status hstatus hregistered => (hc hregistered).unverified r status hkey hstatus
      | some publicKey =>
          exact (r.atomicWhen_recordVerified publicKey _).of_condition
            fun outcome houtcome hregistered =>
              (hc hregistered).verified r publicKey outcome.1 outcome.2 hkey houtcome
  condition hdelivery hatomic hregistered :=
    { verified := fun r publicKey domain status hkey hverified => by
        rw [AtomicAt, r.recordEuiccPackageResult_eq, PackageReading.record, hkey] at hatomic
        exact (r.atomicWhen_recordVerified publicKey _).condition hdelivery hatomic
          (domain, status) hverified hregistered
      unverified := fun r status hkey hstatus => by
        rw [AtomicAt, r.recordEuiccPackageResult_eq, PackageReading.record, hkey] at hatomic
        exact (r.atomicWhen_recordUnverified _).condition hdelivery hatomic status hstatus
          hregistered
      data := fun data operation htag => absurd htag hdata }

/-- The result can be encoded and its device is registered, and something fails after it has been
recorded. -/
def Interrupted (H : Handler) (s : Store) (eid : Bytes) (raw : Tlv) : Prop :=
  (marshalBinary H.bertlv raw).isOk ∧ (s.devices.lookup (H.device eid)).isSome ∧
    ¬ Completes H s eid raw

theorem atomicWhen_recordEimPackageResult :
    AtomicWhen H s eid raw (recordEimPackageResult H eid raw) (¬ Interrupted H s eid raw) := by
  have hatomic : AtomicWhen H s eid raw (recordEimPackageResult H eid raw)
      (∀ payload, marshalBinary H.bertlv raw = .ok payload →
        (s.devices.lookup (H.device eid)).isSome → Completes H s eid raw) := by
    refine AtomicWhen.bind (readOnly_ofExcept _) fun payload _ => ?_
    by_cases htrigger : raw.tag = tagDownloadTrig
    · rw [if_pos htrigger]
      exact ⟨fun _ => atomicAt_recordProfileDownloadTriggerResult, fun _ _ _ =>
        completes_of_tag (by rw [htrigger]; decide) (by rw [htrigger]; decide)
          (by rw [htrigger]; decide)⟩
    rw [if_neg htrigger]
    by_cases hdata : raw.tag = tagIpaEuiccData
    · rw [if_pos hdata]
      exact atomicWhen_recordIpaEuiccDataResponse hdata
    rw [if_neg hdata]
    by_cases herror : raw.tag = tagInteger ∨ raw.tag = contextConstructed 0
    · rw [if_pos herror]
      refine ⟨fun _ => atomicAt_recordEimPackageResultError, fun _ _ _ => ?_⟩
      rcases herror with htag | htag
      · exact completes_of_tag (by rw [htag]; decide) (by rw [htag]; decide) hdata
      · exact completes_of_tag (by rw [htag]; decide) (by rw [htag]; decide) hdata
    rw [if_neg herror]
    exact atomicWhen_recordEuiccPackageResult hdata
  have hiff : (∀ payload, marshalBinary H.bertlv raw = .ok payload →
      (s.devices.lookup (H.device eid)).isSome → Completes H s eid raw) ↔
        ¬ Interrupted H s eid raw := by
    simp only [Interrupted, Outcome.isOk_iff, not_and, not_not, forall_exists_index]
  exact ⟨fun hc => hatomic.of_condition (hiff.mpr hc),
    fun hdelivery h => hiff.mp (hatomic.condition hdelivery h)⟩

/-! ## Messages -/

/-- The message is answered with an error, or handling it fails. -/
def Refused (H : Handler) (s : Store) (tlv : Tlv) : Prop :=
  (∃ e, (handleProvideEimPackageResult H tlv s).1 = .error e) ∨
    ∃ code, (handleProvideEimPackageResult H tlv s).1 = .ok (.provideResult (.error code))

/-- A message that is refused leaves the records of every device as they were. -/
def RefusedUnchanged (H : Handler) (s : Store) (tlv : Tlv) : Prop :=
  Refused H s tlv → ∀ key, (handleProvideEimPackageResult H tlv s).2.records key = s.records key

theorem provideReply_ne_error (recorded : Recorded) (code : Int) :
    provideReply (some recorded) ≠ .provideResult (.error code) := by
  cases recorded <;> simp [provideReply]

theorem handleProvideEimPackageResult_of_delivers {tlv : Tlv}
    (hprovide : (provideResultTLV tlv).isSome) (h : Delivers H s tlv eid raw) :
    handleProvideEimPackageResult H tlv s =
      (findRow (recordEimPackageResult H eid raw) >>= fun recorded =>
        pure (provideReply recorded)) s := by
  cases h with
  | provide hprovide hdecode hraw heid =>
      subst hraw
      exact handleProvideEimPackageResult_of_resolved hprovide hdecode heid
  | transfer htag =>
      obtain ⟨provideTLV, hprovide⟩ := Option.isSome_iff_exists.mp hprovide
      rcases tag_of_provideResultTLV hprovide with htag' | htag' <;>
        exact absurd (htag.symm.trans htag') (by decide)

/-- The answer to a result is an error exactly if recording the result fails. -/
theorem refused_iff_of_delivers {tlv : Tlv} (hprovide : (provideResultTLV tlv).isSome)
    (h : Delivers H s tlv eid raw) :
    Refused H s tlv ↔ ∃ e, (recordEimPackageResult H eid raw s).1 = .error e := by
  rw [Refused, handleProvideEimPackageResult_of_delivers hprovide h, findRow, bind_assoc,
    attempt_bind]
  cases (recordEimPackageResult H eid raw s).1 with
  | ok recorded => simp [provideReply_ne_error]
  | error e => cases e <;> simp [provideReply]

theorem refusedUnchanged_iff_of_delivers {tlv : Tlv} (hprovide : (provideResultTLV tlv).isSome)
    (h : Delivers H s tlv eid raw) :
    RefusedUnchanged H s tlv ↔ AtomicAt (recordEimPackageResult H eid raw) s := by
  have hstate : (handleProvideEimPackageResult H tlv s).2 =
      (recordEimPackageResult H eid raw s).2 := by
    rw [handleProvideEimPackageResult_of_delivers hprovide h,
      bind_state_of_readOnly (fun _ => keeps_pure id _), findRow_state]
  rw [RefusedUnchanged, refused_iff_of_delivers hprovide h, hstate, forall_exists_index, AtomicAt]

theorem refusedUnchanged_of_not_delivers {tlv : Tlv}
    (h : ∀ eid raw, ¬ Delivers H s tlv eid raw) : RefusedUnchanged H s tlv := by
  intro _ key
  rw [(handleProvideEimPackageResult_of_unresolved h).1]

/-- A refused message changes no record unless processing the result is interrupted after the
result has been recorded; for a result that is delivered for the first time, it does then. -/
theorem refused_unchanged_iff {tlv : Tlv} (hprovide : (provideResultTLV tlv).isSome) :
    ((∀ eid raw, Delivers H s tlv eid raw → ¬ Interrupted H s eid raw) →
      RefusedUnchanged H s tlv) ∧
    ((∀ eid raw, Delivers H s tlv eid raw → FirstDelivery H s eid raw) →
      (RefusedUnchanged H s tlv ↔
        ∀ eid raw, Delivers H s tlv eid raw → ¬ Interrupted H s eid raw)) := by
  have hsufficient : (∀ eid raw, Delivers H s tlv eid raw → ¬ Interrupted H s eid raw) →
      RefusedUnchanged H s tlv := by
    intro hc
    by_cases hdelivers : ∃ eid raw, Delivers H s tlv eid raw
    · obtain ⟨eid, raw, hdelivers⟩ := hdelivers
      rw [refusedUnchanged_iff_of_delivers hprovide hdelivers]
      exact atomicWhen_recordEimPackageResult.of_condition (hc eid raw hdelivers)
    · exact refusedUnchanged_of_not_delivers fun eid raw h => hdelivers ⟨eid, raw, h⟩
  refine ⟨hsufficient, fun hfirst => ⟨fun h eid raw hdelivers => ?_, hsufficient⟩⟩
  rw [refusedUnchanged_iff_of_delivers hprovide hdelivers] at h
  exact atomicWhen_recordEimPackageResult.condition (hfirst eid raw hdelivers) h

end

/-! The signed result for a package, with a notification that has no sequence number. -/

def sampleListedResult : Tlv :=
  .constructed tagSequence
    [sampleSignedResult 1 3 0, .constructed tagNotificationList [.constructed tagSequence []]]

theorem firstDelivery_of_pending {H : Handler} {s : Store}
    (h : ∀ entry ∈ s.operations.entries, entry.2.val.operation.status = .pending ∧
      entry.2.val.operation.id ≠ 0) (eid : Bytes) (raw : Tlv) : FirstDelivery H s eid raw := by
  have hqueued : ∀ operation, Queued s (H.device eid) operation →
      operation.status = .pending ∧ operation.id ≠ 0 := by
    rintro operation ⟨stored, hlookup, hstored, -⟩
    have hentry := h _ (AList.mem_lookup_iff.mp hlookup)
    rwa [hstored] at hentry
  exact ⟨fun operation hop => (hqueued operation hop).2, fun r => (hqueued _ r.queued).1⟩

theorem refused_unchanged_iff_listed :
    RefusedUnchanged sampleHandler sampleEnableStore (sampleMessage sampleListedResult) ↔
      ∀ eid raw, Delivers sampleHandler sampleEnableStore (sampleMessage sampleListedResult) eid
          raw → ¬ Interrupted sampleHandler sampleEnableStore eid raw :=
  (refused_unchanged_iff rfl).2 fun eid raw _ => firstDelivery_of_pending (by decide +kernel) eid raw

/-- The message fails at its notification, with its package done and the profile enabled. -/
theorem refused_result_recorded :
    Refused sampleHandler sampleEnableStore (sampleMessage sampleListedResult) ∧
      ((sampleEnableStore.records (sampleHandler.device (Hex.encode sampleEID))).operations 1).map
        Operation.status = some .pending ∧
      (((handleProvideEimPackageResult sampleHandler (sampleMessage sampleListedResult)
        sampleEnableStore).2.records (sampleHandler.device (Hex.encode sampleEID))).operations 1).map
          Operation.status = some .done ∧
      (((handleProvideEimPackageResult sampleHandler (sampleMessage sampleListedResult)
        sampleEnableStore).2.records (sampleHandler.device (Hex.encode sampleEID))).profiles
          (Hex.encode [0x89])).map ProfileState.isEnabled = some true := by
  have hrun : (handleProvideEimPackageResult sampleHandler (sampleMessage sampleListedResult)
      sampleEnableStore).1 =
        .error (.message "asn1: pending notification missing sequence number") := by
    decide +kernel
  exact ⟨.inl ⟨_, hrun⟩, by decide +kernel, by decide +kernel, by decide +kernel⟩

end OpenIotRsp.Esipa
