import OpenIotRsp.Model.Api
import OpenIotRsp.Verification.Storage.Queue

/-!
# Batches of profile downloads

A batch request registers and queues device by device, and checks each
identifier and the download source only when it comes to them.  A request that
is refused as invalid has changed nothing just when it fails at its first
device, and that one was registered before or is no device at all.
-/

namespace OpenIotRsp.Api

open Octets Stateful Storage

variable {B : Bertlv} {tenantID : TenantID} {request : ProfileDownloadRequest}
  {transactionIDs : Nat → Bytes} {s s' : Store} {target transactionID eid octets : Bytes}

/-! ## One device -/

def IsEID (target : Bytes) : Prop := ∃ eid, parseEID target = .ok eid

/-- The device is there afterwards. -/
def registered (tenantID : TenantID) (eid : Bytes) (s : Store) : Store :=
  (registerDevice tenantID eid s).2

/-- The trigger with the transaction identifier can be built and encoded. -/
def Queues (B : Bertlv) (request : ProfileDownloadRequest) (transactionID : Bytes) : Prop :=
  ∃ trigger payload, request.trigger transactionID = .ok trigger ∧
    Asn1.encode B (.ok trigger.marshalBERTLV) = .ok payload

theorem answering_of_ok {α : Type} {status : Error → Status} {m : StoreM α} {a : α}
    (h : m s = (.ok a, s')) : answering status m s = (.ok a, s') := by
  simp [answering, h]

theorem answering_of_error {α : Type} {status : Error → Status} {m : StoreM α} {e : Error}
    (h : m s = (.error e, s')) : answering status m s = (.error ⟨status e, e⟩, s') := by
  simp [answering, h]

theorem registerDevice_eq (tenantID : TenantID) (eid : Bytes) (s : Store) :
    registerDevice tenantID eid s = (.ok (), registered tenantID eid s) := by
  rw [registered, registerDevice_apply]

theorem lookup_registered (tenantID : TenantID) (eid : Bytes) (s : Store) :
    ∃ device, (registered tenantID eid s).devices.lookup (newDeviceKey tenantID eid) =
      some device := by
  rw [registered, registerDevice_apply]
  cases hdevice : s.devices.lookup (newDeviceKey tenantID eid) with
  | none => exact ⟨⟨1, 1⟩, by simp⟩
  | some device => exact ⟨device, hdevice⟩

theorem nextOperationID_registered (tenantID : TenantID) (eid : Bytes) (s : Store) :
    (registered tenantID eid s).nextOperationID = s.nextOperationID := by
  rw [registered, registerDevice_apply]
  cases s.devices.lookup (newDeviceKey tenantID eid) <;> rfl

theorem triggerTarget_malformed (B : Bertlv) (tenantID : TenantID)
    (request : ProfileDownloadRequest) (transactionID : Bytes) {target : Bytes} (h : ¬ IsEID target) (s : Store) :
    ∃ e, triggerTarget B tenantID request transactionID target s = (.error ⟨.badRequest, e⟩, s) := by
  cases hparse : parseEID target with
  | ok eid => exact absurd ⟨eid, hparse⟩ h
  | error e => exact ⟨e, bind_of_error (answering_of_error (by rw [ofExcept_apply, hparse]))⟩

/-- A well-formed identifier is registered before anything else is checked. -/
theorem triggerTarget_of_eid (tenantID : TenantID) (h : parseEID target = .ok (eid, octets))
    (s : Store) :
    triggerTarget B tenantID request transactionID target s =
      (do
        let trigger ← answering (fun _ => .badRequest) (ofExcept (request.trigger transactionID))
        answering storeErrorStatus (Profiledownload.enqueueTrigger B tenantID eid trigger) :
          Stateful Store Refusal Operation) (registered tenantID eid s) := by
  rw [triggerTarget, bind_of_ok (answering_of_ok (by rw [ofExcept_apply, h]))]
  exact bind_of_ok (answering_of_ok (registerDevice_eq tenantID eid s))

theorem triggerTarget_no_source (B : Bertlv) (tenantID : TenantID) {e : Error}
    (h : parseEID target = .ok (eid, octets)) (htrigger : request.trigger transactionID = .error e)
    (s : Store) :
    triggerTarget B tenantID request transactionID target s =
      (.error ⟨.badRequest, e⟩, registered tenantID eid s) := by
  rw [triggerTarget_of_eid tenantID h]
  exact bind_of_error (answering_of_error (by rw [ofExcept_apply, htrigger]))

theorem triggerTarget_not_encoded (tenantID : TenantID)
    {trigger : Asn1.ProfileDownloadTriggerRequest} (h : parseEID target = .ok (eid, octets))
    (htrigger : request.trigger transactionID = .ok trigger)
    (hqueues : ¬ Queues B request transactionID) (s : Store) :
    ∃ e, triggerTarget B tenantID request transactionID target s =
      (.error ⟨storeErrorStatus e, e⟩, registered tenantID eid s) := by
  cases hencode : Asn1.encode B (.ok trigger.marshalBERTLV) with
  | ok payload => exact absurd ⟨trigger, payload, htrigger, hencode⟩ hqueues
  | error e =>
      refine ⟨e, ?_⟩
      rw [triggerTarget_of_eid tenantID h, bind_of_ok (answering_of_ok (by rw [ofExcept_apply, htrigger]))]
      exact answering_of_error (ofExcept_bind_of_error _ _ hencode)

/-- A trigger that can be queued takes the next number of an operation. -/
theorem triggerTarget_queued (tenantID : TenantID) (h : parseEID target = .ok (eid, octets))
    (hqueues : Queues B request transactionID) (s : Store) :
    ∃ operation s', triggerTarget B tenantID request transactionID target s = (.ok operation, s') ∧
      s'.nextOperationID = s.nextOperationID + 1 := by
  obtain ⟨trigger, payload, htrigger, hencode⟩ := hqueues
  obtain ⟨operation, s', henqueue, hnext⟩ :
      ∃ operation s', enqueueOperation tenantID ⟨eid, .profileDownloadTrigger, payload⟩
        (registered tenantID eid s) = (.ok operation, s') ∧
          s'.nextOperationID = (registered tenantID eid s).nextOperationID + 1 := by
    obtain ⟨device, hdevice⟩ := lookup_registered tenantID eid s
    rw [enqueueOperation_apply, hdevice]
    exact ⟨_, _, rfl, rfl⟩
  refine ⟨operation, s', ?_, by rw [hnext, nextOperationID_registered]⟩
  rw [triggerTarget_of_eid tenantID h, bind_of_ok (answering_of_ok (by rw [ofExcept_apply, htrigger]))]
  exact answering_of_ok ((ofExcept_bind_of_ok _ _ hencode).trans henqueue)

/-! ## The download source -/

theorem newActivationCodeTrigger_transactionID (code : Bytes) (a b : Option Bytes) :
    Profiledownload.newActivationCodeTrigger code b =
      (Profiledownload.newActivationCodeTrigger code a).map
        fun trigger => { trigger with eimTransactionID := b } := by
  unfold Profiledownload.newActivationCodeTrigger
  cases Profiledownload.parseActivationCode code with
  | error e => rfl
  | ok parsed =>
      simp only [Outcome.ok_bind, Outcome.throw_eq, Outcome.pure_eq]
      split <;> rfl

/-- Whether the source is valid does not depend on the transaction identifier. -/
theorem trigger_transactionID (request : ProfileDownloadRequest) (a b : Bytes) :
    request.trigger b = (request.trigger a).map
      fun trigger => { trigger with eimTransactionID := some b } := by
  unfold ProfileDownloadRequest.trigger Profiledownload.newSMDPAddressTrigger
  split
  next => rfl
  next =>
      split
      next => exact newActivationCodeTrigger_transactionID _ _ _
      next =>
          split
          next =>
              split
              next => rfl
              next =>
                  split
                  next => rfl
                  next => exact newActivationCodeTrigger_transactionID _ _ _
          next => split <;> rfl

/-- The request has a valid download source. -/
def HasSource (request : ProfileDownloadRequest) : Prop :=
  ∃ trigger, request.trigger [] = .ok trigger

theorem hasSource_iff {transactionID : Bytes} :
    HasSource request ↔ ∃ trigger, request.trigger transactionID = .ok trigger := by
  rw [HasSource, trigger_transactionID request [] transactionID]
  cases request.trigger [] with
  | error e => simp [Except.map]
  | ok trigger => simp [Except.map]

theorem Queues.hasSource {transactionID : Bytes} (h : Queues B request transactionID) :
    HasSource request := by
  obtain ⟨trigger, -, htrigger, -⟩ := h
  exact hasSource_iff.mpr ⟨trigger, htrigger⟩

/-! ## The batch -/

theorem triggerTargets_of_ok {i : Nat} {target : Bytes} {targets : List Bytes}
    {operation : Operation}
    (h : triggerTarget B tenantID request (transactionIDs i) target s = (.ok operation, s')) :
    triggerTargets B tenantID request transactionIDs i (target :: targets) s =
      (do return operation ::
        (← triggerTargets B tenantID request transactionIDs (i + 1) targets) :
          Stateful Store Refusal (List Operation)) s' :=
  bind_of_ok h

theorem triggerTargets_of_error {i : Nat} {target : Bytes} {targets : List Bytes}
    {refusal : Refusal}
    (h : triggerTarget B tenantID request (transactionIDs i) target s = (.error refusal, s')) :
    triggerTargets B tenantID request transactionIDs i (target :: targets) s =
      (.error refusal, s') :=
  bind_of_error h

/-- With a valid source, the batch is refused as invalid just when it comes to a malformed
identifier, and all before it have been queued. -/
theorem badRequest_iff (hsource : HasSource request) (i : Nat) (targets : List Bytes) (s : Store) :
    (∃ e s', triggerTargets B tenantID request transactionIDs i targets s =
        (.error ⟨.badRequest, e⟩, s')) ↔
      ∃ before malformed after, targets = before ++ malformed :: after ∧
        (∀ target ∈ before, IsEID target) ∧ ¬ IsEID malformed ∧
        ∀ j < before.length, Queues B request (transactionIDs (i + j)) := by
  induction targets generalizing i s with
  | nil =>
      refine iff_of_false ?_ ?_
      · rintro ⟨e, s', h⟩
        cases h
      · rintro ⟨before, malformed, after, h, -⟩
        simp at h
  | cons target targets ih =>
      by_cases htarget : IsEID target
      · obtain ⟨⟨eid, octets⟩, hparse⟩ := htarget
        by_cases hqueues : Queues B request (transactionIDs i)
        · obtain ⟨operation, s', hrun, -⟩ := triggerTarget_queued tenantID hparse hqueues s
          simp only [triggerTargets_of_ok hrun, map_eq_error_iff, ih (i + 1) s']
          constructor
          · rintro ⟨before, malformed, after, rfl, hbefore, hmalformed, hqueued⟩
            refine ⟨target :: before, malformed, after, rfl, ?_, hmalformed, fun j hj => ?_⟩
            · exact List.forall_mem_cons.mpr ⟨⟨_, hparse⟩, hbefore⟩
            · cases j with
              | zero => exact hqueues
              | succ j =>
                  rw [← Nat.add_assoc, Nat.add_right_comm]
                  exact hqueued j (Nat.lt_of_succ_lt_succ hj)
          · rintro ⟨before, malformed, after, h, hbefore, hmalformed, hqueued⟩
            cases before with
            | nil =>
                obtain ⟨rfl, -⟩ := List.cons.inj h
                exact absurd ⟨_, hparse⟩ hmalformed
            | cons first before =>
                obtain ⟨rfl, rfl⟩ := List.cons.inj h
                refine ⟨before, malformed, after, rfl, (List.forall_mem_cons.mp hbefore).2,
                  hmalformed, fun j hj => ?_⟩
                rw [Nat.add_right_comm, Nat.add_assoc]
                exact hqueued (j + 1) (Nat.succ_lt_succ hj)
        · obtain ⟨trigger, htrigger⟩ := hasSource_iff.mp hsource
          obtain ⟨e, hrun⟩ := triggerTarget_not_encoded tenantID hparse htrigger hqueues s
          rw [triggerTargets_of_error hrun]
          refine iff_of_false ?_ ?_
          · rintro ⟨e', s', h⟩
            obtain ⟨herror, -⟩ := Prod.mk.inj h
            cases e <;> cases herror
          · rintro ⟨before, malformed, after, h, hbefore, hmalformed, hqueued⟩
            cases before with
            | nil =>
                obtain ⟨rfl, -⟩ := List.cons.inj h
                exact hmalformed ⟨_, hparse⟩
            | cons first before => exact hqueues (hqueued 0 (Nat.zero_lt_succ _))
      · obtain ⟨e, hrun⟩ := triggerTarget_malformed B tenantID request (transactionIDs i) htarget s
        refine iff_of_true ⟨e, s, triggerTargets_of_error hrun⟩ ?_
        exact ⟨[], target, targets, rfl, by simp, htarget, by simp⟩

/-- The numbers of operations only grow. -/
theorem nextOperationID_le_target (transactionID target : Bytes) (s : Store) :
    s.nextOperationID ≤
      (triggerTarget B tenantID request transactionID target s).2.nextOperationID := by
  by_cases htarget : IsEID target
  · obtain ⟨⟨eid, octets⟩, hparse⟩ := htarget
    have hregistered := (nextOperationID_registered tenantID eid s).ge
    by_cases hqueues : Queues B request transactionID
    · obtain ⟨operation, s', hrun, hnext⟩ := triggerTarget_queued tenantID hparse hqueues s
      rw [hrun, hnext]
      exact Int.le_add_one le_rfl
    · cases htrigger : request.trigger transactionID with
      | ok trigger =>
          obtain ⟨e, hrun⟩ := triggerTarget_not_encoded tenantID hparse htrigger hqueues s
          rwa [hrun]
      | error e => rwa [triggerTarget_no_source B tenantID hparse htrigger s]
  · obtain ⟨e, hrun⟩ := triggerTarget_malformed B tenantID request transactionID htarget s
    rw [hrun]

theorem nextOperationID_le (i : Nat) (targets : List Bytes) (s : Store) :
    s.nextOperationID ≤
      (triggerTargets B tenantID request transactionIDs i targets s).2.nextOperationID := by
  induction targets generalizing i s with
  | nil => exact le_rfl
  | cons target targets ih =>
      have hfirst : s.nextOperationID ≤
          (triggerTarget B tenantID request (transactionIDs i) target s).2.nextOperationID :=
        nextOperationID_le_target (transactionIDs i) target s
      rcases hrun : triggerTarget B tenantID request (transactionIDs i) target s with ⟨r, s'⟩
      rw [hrun] at hfirst
      cases r with
      | error e => rwa [triggerTargets_of_error hrun]
      | ok operation =>
          rw [triggerTargets_of_ok hrun]
          refine hfirst.trans ((ih (i + 1) s').trans (le_of_eq ?_))
          rcases hrest : triggerTargets B tenantID request transactionIDs (i + 1) targets s' with
            ⟨r | r, s''⟩
          · rw [bind_of_error hrest]
          · rw [bind_of_ok hrest]
            rfl

/-- No device has been registered and no operation has been queued. -/
structure NothingDone (s s' : Store) : Prop where
  devices : ∀ key, (s'.devices.lookup key).isSome = (s.devices.lookup key).isSome
  operations : s'.operations = s.operations
  nextOperationID : s'.nextOperationID = s.nextOperationID

/-- A request that is invalid shows so at its first device, before anything is done for it. -/
structure FailsFirst (B : Bertlv) (tenantID : TenantID) (request : ProfileDownloadRequest)
    (transactionIDs : Nat → Bytes) (s : Store) (targets : List Bytes) : Prop where
  /-- without a source, the first device is malformed or registered already -/
  source : ¬ HasSource request → ∀ first rest eid octets, targets = first :: rest →
    parseEID first = .ok (eid, octets) →
    (s.devices.lookup (newDeviceKey tenantID eid)).isSome
  /-- no malformed identifier comes after well-formed ones whose triggers can be encoded -/
  targets : ∀ before malformed after, targets = before ++ malformed :: after → before ≠ [] →
    (∀ target ∈ before, IsEID target) → ¬ IsEID malformed →
    ∃ j < before.length, ¬ Queues B request (transactionIDs j)

theorem nothingDone_refl (s : Store) : NothingDone s s := ⟨fun _ => rfl, rfl, rfl⟩

theorem nothingDone_registered_iff {eid : Bytes} {s : Store} :
    NothingDone s (registered tenantID eid s) ↔
      (s.devices.lookup (newDeviceKey tenantID eid)).isSome := by
  constructor
  · intro h
    obtain ⟨device, hdevice⟩ := lookup_registered tenantID eid s
    rw [← h.devices, hdevice]
    rfl
  · intro h
    obtain ⟨device, hdevice⟩ := Option.isSome_iff_exists.mp h
    have hsame : registered tenantID eid s = s := by
      rw [registered, registerDevice_apply, hdevice]
    rw [hsame]
    exact nothingDone_refl s

/-- With a valid source, a batch that is refused as invalid has queued an operation, unless its
first identifier is malformed. -/
theorem not_nothingDone (hsource : HasSource request) {first : Bytes} (hfirst : IsEID first)
    {rest : List Bytes} {e : Error}
    (hrun : triggerTargets B tenantID request transactionIDs 0 (first :: rest) s =
      (.error ⟨.badRequest, e⟩, s')) : ¬ NothingDone s s' := by
  intro hdone
  obtain ⟨before, malformed, after, hsplit, -, hmalformed, hqueued⟩ :=
    (badRequest_iff hsource 0 (first :: rest) s).mp ⟨e, s', hrun⟩
  cases before with
  | nil =>
      obtain ⟨rfl, -⟩ := List.cons.inj hsplit
      exact hmalformed hfirst
  | cons head before =>
      obtain ⟨⟨eid, octets⟩, hparse⟩ := hfirst
      obtain ⟨operation, s₁, hqueue, hnext⟩ :=
        triggerTarget_queued tenantID hparse (hqueued 0 (Nat.zero_lt_succ _)) s
      have hrest := map_eq_error_iff.mp ((triggerTargets_of_ok hqueue).symm.trans hrun)
      have hle : s₁.nextOperationID ≤
          (triggerTargets B tenantID request transactionIDs 1 rest s₁).2.nextOperationID :=
        nextOperationID_le 1 rest s₁
      rw [hrest, hdone.nextOperationID] at hle
      omega

/-- Whenever the batch is refused as invalid, nothing has been done. -/
def RefusesClean (B : Bertlv) (tenantID : TenantID) (request : ProfileDownloadRequest)
    (transactionIDs : Nat → Bytes) (s : Store) (targets : List Bytes) : Prop :=
  ∀ e s', triggerTargets B tenantID request transactionIDs 0 targets s =
    (.error ⟨.badRequest, e⟩, s') → NothingDone s s'

theorem refusesClean_iff_of_malformed {first : Bytes} (hfirst : ¬ IsEID first) (rest : List Bytes)
    (s : Store) :
    RefusesClean B tenantID request transactionIDs s (first :: rest) ↔
      FailsFirst B tenantID request transactionIDs s (first :: rest) := by
  obtain ⟨e, hrun⟩ := triggerTarget_malformed B tenantID request (transactionIDs 0) hfirst s
  refine iff_of_true ?_ ⟨?_, ?_⟩
  · intro e' s' h
    rw [triggerTargets_of_error hrun] at h
    obtain ⟨-, rfl⟩ := Prod.mk.inj h
    exact nothingDone_refl s
  · rintro - first' rest' eid octets h hparse
    obtain ⟨rfl, -⟩ := List.cons.inj h
    exact absurd ⟨_, hparse⟩ hfirst
  · intro before malformed after h hne hbefore
    cases before with
    | nil => exact absurd rfl hne
    | cons head before =>
        obtain ⟨rfl, -⟩ := List.cons.inj h
        exact absurd (hbefore _ List.mem_cons_self) hfirst

/-- Without a source, only the first device is registered. -/
theorem refusesClean_iff_of_no_source (hsource : ¬ HasSource request) {first : Bytes}
    (hfirst : IsEID first) (rest : List Bytes) (s : Store) :
    RefusesClean B tenantID request transactionIDs s (first :: rest) ↔
      FailsFirst B tenantID request transactionIDs s (first :: rest) := by
  obtain ⟨⟨eid, octets⟩, hparse⟩ := hfirst
  cases htrigger : request.trigger (transactionIDs 0) with
  | ok trigger => exact absurd (hasSource_iff.mpr ⟨trigger, htrigger⟩) hsource
  | error e =>
      have hrun : triggerTargets B tenantID request transactionIDs 0 (first :: rest) s =
          (.error ⟨.badRequest, e⟩, registered tenantID eid s) :=
        triggerTargets_of_error (triggerTarget_no_source B tenantID hparse htrigger s)
      constructor
      · intro h
        have hthere := nothingDone_registered_iff.mp (h e _ hrun)
        refine ⟨?_, ?_⟩
        · rintro - first' rest' eid' octets' hsplit hparse'
          obtain ⟨rfl, -⟩ := List.cons.inj hsplit
          obtain ⟨rfl, -⟩ := Prod.mk.inj (Except.ok.inj (hparse.symm.trans hparse'))
          exact hthere
        · intro before malformed after _ hne _ _
          exact ⟨0, List.length_pos_iff.mpr hne, fun hqueues => hsource hqueues.hasSource⟩
      · intro h e' s' hsame
        obtain ⟨-, rfl⟩ := Prod.mk.inj (hrun.symm.trans hsame)
        exact nothingDone_registered_iff.mpr (h.source hsource _ _ _ _ rfl hparse)

/-- With a source, every refusal as invalid comes too late. -/
theorem refusesClean_iff_of_source (hsource : HasSource request) {first : Bytes}
    (hfirst : IsEID first) (rest : List Bytes) (s : Store) :
    RefusesClean B tenantID request transactionIDs s (first :: rest) ↔
      FailsFirst B tenantID request transactionIDs s (first :: rest) := by
  have hnever : RefusesClean B tenantID request transactionIDs s (first :: rest) ↔
      ¬ ∃ e s', triggerTargets B tenantID request transactionIDs 0 (first :: rest) s =
        (.error ⟨.badRequest, e⟩, s') := by
    refine ⟨?_, fun h e s' hrun => absurd ⟨e, s', hrun⟩ h⟩
    rintro h ⟨e, s', hrun⟩
    exact not_nothingDone hsource hfirst hrun (h e s' hrun)
  rw [hnever, badRequest_iff hsource]
  constructor
  · intro h
    refine ⟨fun hnone => absurd hsource hnone, ?_⟩
    intro before malformed after hsplit _ hbefore hmalformed
    by_contra hall
    push Not at hall
    refine h ⟨before, malformed, after, hsplit, hbefore, hmalformed, fun j hj => ?_⟩
    rw [Nat.zero_add]
    exact hall j hj
  · rintro h ⟨before, malformed, after, hsplit, hbefore, hmalformed, hqueued⟩
    have hne : before ≠ [] := by
      rintro rfl
      obtain ⟨rfl, -⟩ := List.cons.inj hsplit
      exact hmalformed hfirst
    obtain ⟨j, hj, hnot⟩ := h.targets before malformed after hsplit hne hbefore hmalformed
    have hqueues := hqueued j hj
    rw [Nat.zero_add] at hqueues
    exact hnot hqueues

theorem refusesClean_iff (targets : List Bytes) (s : Store) :
    RefusesClean B tenantID request transactionIDs s targets ↔
      FailsFirst B tenantID request transactionIDs s targets := by
  cases targets with
  | nil =>
      refine iff_of_true ?_ ⟨?_, ?_⟩
      · intro e s' h
        cases h
      · intro _ first rest eid octets h
        cases h
      · intro before malformed after h
        simp at h
  | cons first rest =>
      by_cases hfirst : IsEID first
      · by_cases hsource : HasSource request
        · exact refusesClean_iff_of_source hsource hfirst rest s
        · exact refusesClean_iff_of_no_source hsource hfirst rest s
      · exact refusesClean_iff_of_malformed hfirst rest s

/-! ## Requests -/

/-- A request that is refused as invalid has registered no device and queued no operation just when
it fails at its first device. -/
theorem refused_download_iff (B : Bertlv) (tenantID : TenantID) (request : ProfileDownloadRequest)
    (transactionIDs : Nat → Bytes) (s : Store) :
    (∀ e s', triggerProfileDownload B tenantID request transactionIDs s =
        (.error ⟨.badRequest, e⟩, s') → NothingDone s s') ↔
      ∀ targets, request.targetEIDs = .ok targets →
        FailsFirst B tenantID request transactionIDs s targets := by
  cases htargets : request.targetEIDs with
  | error e =>
      refine iff_of_true ?_ (fun targets h => by cases h)
      intro e' s' h
      have hrun : triggerProfileDownload B tenantID request transactionIDs s =
          (.error ⟨.badRequest, e⟩, s) :=
        bind_of_error (answering_of_error (by rw [ofExcept_apply, htargets]))
      obtain ⟨-, rfl⟩ := Prod.mk.inj (hrun.symm.trans h)
      exact nothingDone_refl s
  | ok targets =>
      have hrun : triggerProfileDownload B tenantID request transactionIDs s =
          triggerTargets B tenantID request transactionIDs 0 targets s :=
        bind_of_ok (answering_of_ok (by rw [ofExcept_apply, htargets]))
      rw [hrun]
      refine (refusesClean_iff targets s).trans ⟨?_, fun h => h targets rfl⟩
      rintro h _ ⟨⟩
      exact h

/-- Identifiers of thirty-two digits, and one of two. -/
def sampleBatch : ProfileDownloadRequest :=
  { eids := [List.replicate 32 0x38, [0x38, 0x39]], defaultSMDP := true }

/-- A malformed identifier after a good one, and a good one without a source: the request is
refused, and there is an operation or a device. -/
theorem refused_download_leaves_work :
    (let run := triggerProfileDownload .reference [] sampleBatch (fun _ => [7]) Store.new
    run.1 = .error ⟨.badRequest, .message "api: EID must be 32 hex characters"⟩ ∧
      run.2.allOperations.length = 1) ∧
      (let run := triggerProfileDownload .reference [] { eid := List.replicate 32 0x38 }
        (fun _ => [7]) Store.new
      run.1 = .error ⟨.badRequest, .message "api: provide exactly one download source"⟩ ∧
        (run.2.devices.lookup (newDeviceKey [] (List.replicate 32 0x38))).isSome) := by
  decide +kernel

end OpenIotRsp.Api
