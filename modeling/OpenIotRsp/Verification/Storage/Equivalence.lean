import OpenIotRsp.Verification.Storage.EquivalentQueue

/-!
# Equivalence of the two stores

From empty stores, the in-memory store and the Postgres store give the same
answers to every run of calls whose arguments both of them take.  They part on
arguments that the tables refuse: text that is none, a nil payload, a sequence
number that is not positive, and an order of text that is not that of its octets.
-/

namespace OpenIotRsp.Storage

open Octets Stateful Postgres

/-- The arguments of the call are such that the tables take what the maps take, and lists have one
order. -/
def Comparable (collation : Bytes → Bytes → Bool) (s : Store) : StoreCall → Prop
  | .registerDevice tenantID eid => [normalizeTenantID tenantID, eid].all isText
  | .getProfileState tenantID eid iccid => [normalizeTenantID tenantID, eid, iccid].all isText
  | .listProfileStates tenantID eid =>
      [normalizeTenantID tenantID, eid].all isText ∧
        ∀ a ∈ s.profilesOf (newDeviceKey tenantID eid),
          ∀ b ∈ s.profilesOf (newDeviceKey tenantID eid),
            (collation a.iccid b.iccid ↔ a.iccid ≤ b.iccid)
  | .setProfileState tenantID state =>
      [normalizeTenantID tenantID, state.eid, state.iccid, state.smdpAddress].all isText
  | .deleteProfileState tenantID eid iccid => [normalizeTenantID tenantID, eid, iccid].all isText
  | .getEUICCState tenantID eid => [normalizeTenantID tenantID, eid].all isText
  | .setEUICCState tenantID state =>
      [normalizeTenantID tenantID, state.eid, state.defaultSMDPAddress,
        state.rootSMDSAddress].all isText ∧ state.certificateIdentifiers.all isText
  | .nextEUICCPackageCounter tenantID eid => [normalizeTenantID tenantID, eid].all isText
  | .enqueueOperation tenantID eid kind payload =>
      [normalizeTenantID tenantID, eid].all isText ∧
        (s.devices.lookup (newDeviceKey tenantID eid) ≠ none →
          isText (kindName kind) ∧ payload ≠ none)
  | .getOperation tenantID _ => [normalizeTenantID tenantID].all isText
  | .getOperationBySequence tenantID eid _ => [normalizeTenantID tenantID, eid].all isText
  | .fetchPendingOperations tenantID eid limit =>
      0 < limit → [normalizeTenantID tenantID, eid].all isText
  | .listOperations tenantID eid limit => 0 < limit → [normalizeTenantID tenantID, eid].all isText
  | .listPendingOperations tenantID limit =>
      0 < limit → [normalizeTenantID tenantID].all isText ∧
        ((s.pendingOperations (normalizeTenantID tenantID)).map fun stored =>
          stored.operation.sequenceNumber).Nodup
  | .recordEUICCPackageResult tenantID eid operationID sequenceNumber _ payload =>
      [normalizeTenantID tenantID].all isText ∧
        (operationID = 0 → isText eid ∧ 0 < sequenceNumber ∧ payload ≠ none) ∧
        ∀ stored, s.operations.lookup operationID = some stored →
          stored.val.tenantID = normalizeTenantID tenantID → payload ≠ none
  | .getOperationResult tenantID _ => [normalizeTenantID tenantID].all isText
  | .storeEIMConfig tenantID eimID data =>
      [normalizeTenantID tenantID, eimID].all isText ∧ data ≠ none
  | .readEIMConfig tenantID eimID => [normalizeTenantID tenantID, eimID].all isText
  | .setAssociatedEIM tenantID eid eimID _ payload =>
      [normalizeTenantID tenantID, eid, eimID].all isText ∧ payload ≠ none
  | .deleteAssociatedEIM tenantID eid eimID => [normalizeTenantID tenantID, eid, eimID].all isText
  | .getAssociatedEIM tenantID eid eimID => [normalizeTenantID tenantID, eid, eimID].all isText
  | .listAssociatedEIMs tenantID eid =>
      [normalizeTenantID tenantID, eid].all isText ∧
        ∀ a ∈ s.associatedEIMsOf (newDeviceKey tenantID eid),
          ∀ b ∈ s.associatedEIMsOf (newDeviceKey tenantID eid),
            (collation a.eimID b.eimID ↔ a.eimID ≤ b.eimID)
  | .storeNotification tenantID eid sequenceNumber kind payload =>
      [normalizeTenantID tenantID, eid, kind].all isText ∧ 0 < sequenceNumber ∧ payload ≠ none
  | .listNotifications tenantID eid => [normalizeTenantID tenantID, eid].all isText

variable {collation : Bytes → Bytes → Bool} {s : Store} {d : Database}

/-- The stores agree on every such call. -/
theorem equivalent_call (h : Simulates s d) (hahead : d.tables.numbers.Ahead) {call : StoreCall}
    (hcall : Comparable collation s call) :
    Equivalent call.memory (call.postgres collation) s d := by
  cases call with
  | registerDevice => exact (equivalent_registerDevice h hcall).map fun _ => StoreReply.done
  | getProfileState => exact (equivalent_getProfileState h hcall).map StoreReply.profileState
  | listProfileStates =>
      exact (equivalent_listProfileStates h hcall.1 hcall.2).map StoreReply.profileStates
  | setProfileState => exact (equivalent_setProfileState h hcall).map fun _ => StoreReply.done
  | deleteProfileState => exact (equivalent_deleteProfileState h hcall).map fun _ => StoreReply.done
  | getEUICCState => exact (equivalent_getEUICCState h hcall).map StoreReply.euiccState
  | setEUICCState => exact (equivalent_setEUICCState h hcall.1 hcall.2).map fun _ => StoreReply.done
  | nextEUICCPackageCounter =>
      exact (equivalent_nextEUICCPackageCounter h hcall).map StoreReply.counter
  | enqueueOperation =>
      exact (equivalent_enqueueOperation h hahead hcall.1 hcall.2).map StoreReply.operation
  | getOperation => exact (equivalent_getOperation h hcall).map StoreReply.operation
  | getOperationBySequence =>
      exact (equivalent_getOperationBySequence h hcall).map StoreReply.operation
  | fetchPendingOperations =>
      exact (equivalent_fetchPendingOperations h hcall).map StoreReply.operations
  | listOperations => exact (equivalent_listOperations h hcall).map StoreReply.operations
  | listPendingOperations =>
      exact (equivalent_listPendingOperations h (fun hlimit => (hcall hlimit).1)
        fun hlimit => (hcall hlimit).2).map StoreReply.operations
  | recordEUICCPackageResult =>
      obtain ⟨htexts, hbySequence, hbyID⟩ := hcall
      exact (equivalent_recordEUICCPackageResult h htexts hbySequence hbyID).map
        fun _ => StoreReply.done
  | getOperationResult => exact (equivalent_getOperationResult h hcall).map StoreReply.result
  | storeEIMConfig tenantID eimID data =>
      obtain ⟨htexts, hdata⟩ := hcall
      obtain ⟨data, rfl⟩ := Option.ne_none_iff_exists'.mp hdata
      exact (equivalent_storeEIMConfig h htexts).map fun _ => StoreReply.done
  | readEIMConfig => exact (equivalent_readEIMConfig h hcall).map StoreReply.config
  | setAssociatedEIM tenantID eid eimID eimIDType payload =>
      obtain ⟨htexts, hpayload⟩ := hcall
      obtain ⟨payload, rfl⟩ := Option.ne_none_iff_exists'.mp hpayload
      exact (equivalent_setAssociatedEIM h htexts).map fun _ => StoreReply.done
  | deleteAssociatedEIM =>
      exact (equivalent_deleteAssociatedEIM h hcall).map fun _ => StoreReply.done
  | getAssociatedEIM => exact (equivalent_getAssociatedEIM h hcall).map StoreReply.associatedEIM
  | listAssociatedEIMs =>
      exact (equivalent_listAssociatedEIMs h hcall.1 hcall.2).map StoreReply.associatedEIMs
  | storeNotification tenantID eid sequenceNumber kind payload =>
      obtain ⟨htexts, hsequence, hpayload⟩ := hcall
      obtain ⟨payload, rfl⟩ := Option.ne_none_iff_exists'.mp hpayload
      exact (equivalent_storeNotification h htexts hsequence).map fun _ => StoreReply.done
  | listNotifications => exact (equivalent_listNotifications h hcall).map StoreReply.notifications

/-- Along every run of calls that both stores take, the answers are the same values, or failures of
the same kind. -/
theorem stores_agree (collation : Bytes → Bytes → Bool) {calls : List StoreCall}
    (hcalls : Run.Meets StoreCall.step (Comparable collation) Store.new calls) :
    List.Forall₂ (Agree SameFailure) (answers StoreCall.memory Store.new calls)
      (answers (StoreCall.postgres collation) Database.empty calls) := by
  refine answers_agree (R := fun s d => Simulates s d ∧ d.tables.numbers.Ahead) ?_ hcalls
    ⟨simulates_empty, ahead_empty⟩
  rintro s d call ⟨h, hahead⟩ hcall
  have hmatch := equivalent_call h hahead hcall
  exact ⟨hmatch.agree, hmatch.related, (step_call collation call d).ahead hahead⟩

theorem stores_agree_queue :
    let calls : List StoreCall :=
      [.registerDevice [] [0x65], .enqueueOperation [] [0x65] .euiccPackage (some [1]),
        .storeNotification [] [0x65] 1 [0x6b] (some [2]),
        .recordEUICCPackageResult [] [0x65] 0 1 .done (some [3]), .getOperationResult [] 1]
    List.Forall₂ (Agree SameFailure) (answers StoreCall.memory Store.new calls)
      (answers (StoreCall.postgres (fun a b => a ≤ b)) Database.empty calls) := by
  have htenant : [normalizeTenantID []].all isText := by decide +kernel
  have hdevice : [normalizeTenantID [], [0x65]].all isText := by decide +kernel
  have hkind : [normalizeTenantID [], [0x65], [0x6b]].all isText := by decide +kernel
  exact stores_agree (fun a b => a ≤ b)
    ⟨hdevice, ⟨hdevice, fun _ => ⟨by decide +kernel, Option.some_ne_none _⟩⟩,
      ⟨hkind, Int.one_pos, Option.some_ne_none _⟩,
      ⟨htenant, fun _ => ⟨by decide +kernel, Int.one_pos, Option.some_ne_none _⟩,
        fun _ _ _ => Option.some_ne_none _⟩, htenant, trivial⟩

/-- On a registered device, a notification numbered zero is not found by one store and refused by a
check of the other, and a result numbered zero is kept by one and refused by a check of the other. -/
theorem zero_number_parts_stores :
    let calls : List StoreCall :=
      [.registerDevice [] [0x65], .storeNotification [] [0x65] 0 [0x6b] (some [2]),
        .recordEUICCPackageResult [] [0x65] 0 0 .done (some [3])]
    answers StoreCall.memory Store.new calls = [.ok .done, .error .notFound, .ok .done] ∧
      answers (StoreCall.postgres (fun a b => a ≤ b)) Database.empty calls =
        [.ok .done, .error (.sql .checkViolation), .error (.sql .checkViolation)] := by
  decide +kernel

end OpenIotRsp.Storage
