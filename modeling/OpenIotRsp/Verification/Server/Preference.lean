import OpenIotRsp.Verification.Server.Polling

/-!
# The preference for packages

A poll should deliver the earliest pending package, or the earliest operation
where no package is pending.  It looks at the first hundred pending operations
only, so that a package with a hundred others before it is passed over; and one
whose payload does not decode is selected and answered with an error.
-/

namespace OpenIotRsp.Server

open Octets Ber Stateful Asn1 Storage Euiccpkg Api Esipa

/-- The operation that should be delivered: a package where there is one, and no other of its kind is
earlier. -/
structure Preferred (queue : List Operation) (operation : Operation) : Prop where
  mem : operation ∈ queue
  package_first : ∀ other ∈ queue, other.kind = .euiccPackage → operation.kind = .euiccPackage
  earliest : ∀ other ∈ queue, (operation.kind = .euiccPackage → other.kind = .euiccPackage) →
    operation.sequenceNumber ≤ other.sequenceNumber

/-- The operations of the queue with a smaller sequence number. -/
def earlier (queue : List Operation) (operation : Operation) : List Operation :=
  queue.filter fun other => other.sequenceNumber < operation.sequenceNumber

section

variable {queue : List Operation} {operation other : Operation}

theorem Preferred.eq (hqueue : Increasing Operation.sequenceNumber queue)
    (h : Preferred queue operation) (h' : Preferred queue other) : operation = other := by
  have hkind : operation.kind = .euiccPackage ↔ other.kind = .euiccPackage :=
    ⟨h'.package_first operation h.mem, h.package_first other h'.mem⟩
  refine hqueue.eq_of_key h.mem h'.mem (le_antisymm ?_ ?_)
  · exact h.earliest other h'.mem hkind.mp
  · exact h'.earliest operation h.mem hkind.mpr

/-- The preferred operation is selected from every window that reaches it. -/
theorem Preferred.selectFrom_take (hqueue : Increasing Operation.sequenceNumber queue)
    (h : Preferred queue operation) {n : Nat} (hwindow : (earlier queue operation).length < n) :
    selectFrom (queue.take n) = some operation := by
  have hmem : operation ∈ queue.take n := (hqueue.mem_take_iff h.mem n).mpr hwindow
  by_cases hkind : operation.kind = .euiccPackage
  · have hfind : (queue.take n).find? (fun other => other.kind = .euiccPackage) = some operation := by
      refine hqueue.find?_take hmem (by simpa using hkind) fun other hother hpackage => ?_
      exact h.earliest other hother fun _ => of_decide_eq_true hpackage
    rw [selectFrom, hfind, Option.some_or]
  · -- no package is pending, so the window is searched in vain
    have hnone : (queue.take n).find? (fun other => other.kind = .euiccPackage) = none := by
      refine List.find?_eq_none.mpr fun other hother hpackage => hkind ?_
      exact h.package_first other (List.mem_of_mem_take hother) (of_decide_eq_true hpackage)
    have hhead : (queue.take n).find? (fun _ => true) = some operation :=
      hqueue.find?_take hmem rfl fun other hother _ =>
        h.earliest other hother fun hpackage => absurd hpackage hkind
    rw [selectFrom, hnone, Option.none_or, ← hhead]
    cases queue.take n <;> rfl

theorem exists_preferred (hqueue : Increasing Operation.sequenceNumber queue) (hne : queue ≠ []) :
    ∃ operation, Preferred queue operation := by
  cases hfind : queue.find? fun operation => operation.kind = .euiccPackage with
  | some first =>
      have hkind := List.find?_some hfind
      refine ⟨first, List.mem_of_find?_eq_some hfind, fun _ _ _ => of_decide_eq_true hkind,
        fun other hother hpackage => ?_⟩
      rcases rel_of_find? hqueue hfind hother
        (by simpa using hpackage (of_decide_eq_true hkind)) with rfl | hlt
      · exact le_refl _
      · exact hlt.le
  | none =>
      have hnone : ∀ other ∈ queue, other.kind ≠ .euiccPackage := by
        simpa using List.find?_eq_none.mp hfind
      cases queue with
      | nil => exact absurd rfl hne
      | cons head rest =>
          refine ⟨head, List.mem_cons_self, fun other hother hpackage =>
            absurd hpackage (hnone other hother), fun other hother _ => ?_⟩
          rcases List.mem_cons.mp hother with rfl | hrest
          · exact le_refl _
          · exact (List.rel_of_pairwise_cons hqueue hrest).le

end

section

variable {H : Handler} {s : Store} {tlv : Tlv} {eid : Bytes}

/-- The poll succeeds, and its answer is made from the operation. -/
def DeliversOperation (H : Handler) (s : Store) (tlv : Tlv) (eid : Bytes) (operation : Operation) :
    Prop :=
  (selectOperationForGetEimPackage H eid s).1 = .ok (some operation) ∧
    ∃ response, getEimPackageOperationResponse H operation = .ok response ∧
      (handleGetEimPackage H tlv s).1 = .ok (.getEimPackage response)

/-- The payload decodes as a request of the operation's kind. -/
def HoldsRequest (H : Handler) (operation : Operation) : Prop :=
  match operation.kind with
  | .euiccPackage => ∃ request, decodePackage H operation = .ok request
  | .profileDownloadTrigger => ∃ request,
      Asn1.decode H.bertlv ProfileDownloadTriggerRequest.unmarshalBERTLV operation.payload =
        .ok request
  | .ipaEuiccData => ∃ tlv, parseOneTLV H.bertlv operation.payload = .ok tlv ∧
      tlv.tag = tagIpaEuiccData
  | .other _ => False

theorem holdsRequest_iff {operation : Operation} : HoldsRequest H operation ↔
    ∃ response, getEimPackageOperationResponse H operation = .ok response := by
  rw [HoldsRequest, getEimPackageOperationResponse]
  cases operation.kind with
  | euiccPackage => simp [Outcome.bind_eq_ok, decodePackage]
  | profileDownloadTrigger => simp [Outcome.bind_eq_ok]
  | ipaEuiccData =>
      cases parseOneTLV H.bertlv operation.payload with
      | error e => simp
      | ok tlv => by_cases htag : tlv.tag = tagIpaEuiccData <;> simp [htag]
  | other _ => simp

theorem selected_eq (H : Handler) (eid : Bytes) (s : Store) :
    (selectOperationForGetEimPackage H eid s).1 =
      .ok (selectFrom ((s.allPending (H.device eid)).take 100)) := by
  rw [selectOperationForGetEimPackage_apply, pending_eq_take]

theorem delivers_of_selected {request : GetEimPackageRequest} {operation : Operation}
    (hnumbered : Numbered (ledger s))
    (hrequest : GetEimPackageRequest.unmarshalBERTLV H.bertlv tlv = .ok request)
    (heid : eidKey request.eid = .ok eid) (hknown : (s.devices.lookup (H.device eid)).isSome)
    (hpending : operation ∈ s.allPending (H.device eid))
    (hselected : selectFrom ((s.allPending (H.device eid)).take 100) = some operation)
    (hholds : HoldsRequest H operation) : DeliversOperation H s tlv eid operation := by
  have hid := hnumbered.id_ne_zero (mem_allPending.mp hpending).1
  obtain ⟨response, hresponse⟩ := holdsRequest_iff.mp hholds
  refine ⟨by rw [selected_eq, hselected], response, hresponse, ?_⟩
  rw [handleGetEimPackage_of_known hrequest heid hknown, pending_eq_take, hselected,
    nextPackageReply, Option.filter_some_pos (by simpa using hid)]
  dsimp only
  rw [hresponse]
  rfl

/-- **Packages first.**  A poll of a device with a queue delivers the earliest pending package, or
the earliest operation where no package is pending, just when fewer than a hundred pending operations
are before that one and its payload decodes. -/
theorem package_preferred_iff {request : GetEimPackageRequest} (hnumbered : Numbered (ledger s))
    (hrequest : GetEimPackageRequest.unmarshalBERTLV H.bertlv tlv = .ok request)
    (heid : eidKey request.eid = .ok eid) (hknown : (s.devices.lookup (H.device eid)).isSome)
    (hqueue : s.allPending (H.device eid) ≠ []) :
    (∃ operation, Preferred (s.allPending (H.device eid)) operation ∧
        DeliversOperation H s tlv eid operation) ↔
      ∀ operation, Preferred (s.allPending (H.device eid)) operation →
        (earlier (s.allPending (H.device eid)) operation).length < 100 ∧
          HoldsRequest H operation := by
  have hincreasing := hnumbered.increasing_allPending (H.device eid)
  constructor
  · rintro ⟨operation, hpreferred, hselected, response, hresponse, -⟩ other hother
    obtain rfl := hpreferred.eq hincreasing hother
    rw [selected_eq] at hselected
    refine ⟨(hincreasing.mem_take_iff hother.mem 100).mp ?_, holdsRequest_iff.mpr ⟨_, hresponse⟩⟩
    exact List.mem_of_find?_eq_some (first_of_selectFrom (Except.ok.inj hselected))
  · intro hcondition
    obtain ⟨operation, hpreferred⟩ := exists_preferred hincreasing hqueue
    obtain ⟨hwindow, hholds⟩ := hcondition operation hpreferred
    exact ⟨operation, hpreferred, delivers_of_selected hnumbered hrequest heid hknown
      hpreferred.mem (hpreferred.selectFrom_take hincreasing hwindow) hholds⟩

end

/-! The sample device has a package behind a number of data requests. -/

def sampleDataRequest : Bytes := [0xbf, 0x52, 0x03, 0x5c, 0x01, 0x5a]

def sampleCrowded (n : Nat) : List Event :=
  [.register [] sampleDevice] ++
    List.replicate n (.enqueueDataRequest [] sampleDevice sampleDataRequest) ++
    [.draw [] sampleDevice [0x07] (.enableProfile (text "89000000000000000000") false), .sign 0,
      .enqueue 0]

theorem package_preferred_iff_crowded :
    ((∃ operation, Preferred ((sampleSystem (sampleCrowded 3)).store.allPending
          (sampleHandler.device sampleDevice)) operation ∧
        DeliversOperation sampleHandler (sampleSystem (sampleCrowded 3)).store samplePoll sampleDevice
          operation) ↔
      ∀ operation, Preferred ((sampleSystem (sampleCrowded 3)).store.allPending
          (sampleHandler.device sampleDevice)) operation →
        (earlier ((sampleSystem (sampleCrowded 3)).store.allPending
          (sampleHandler.device sampleDevice)) operation).length < 100 ∧
          HoldsRequest sampleHandler operation) := by
  have hrequest : GetEimPackageRequest.unmarshalBERTLV sampleHandler.bertlv samplePoll =
      .ok ⟨sampleEID, false, none, none⟩ := rfl
  exact package_preferred_iff (accounted_after Bertlv.reference_lawful _).numbered hrequest
    (by decide +kernel) (by decide +kernel) (by decide +kernel)

/-- Behind a hundred data requests the package is passed over. -/
theorem package_passed_over :
    (∃ package ∈ (sampleSystem (sampleCrowded 100)).store.allPending
        (sampleHandler.device sampleDevice), package.kind = .euiccPackage) ∧
      ¬ ∃ operation, Preferred ((sampleSystem (sampleCrowded 100)).store.allPending
          (sampleHandler.device sampleDevice)) operation ∧
        DeliversOperation sampleHandler (sampleSystem (sampleCrowded 100)).store samplePoll sampleDevice
          operation := by
  have hpending : ∃ package ∈ (sampleSystem (sampleCrowded 100)).store.allPending
      (sampleHandler.device sampleDevice), package.kind = .euiccPackage := by decide +kernel
  refine ⟨hpending, ?_⟩
  rintro ⟨operation, hpreferred, hselected, -⟩
  obtain ⟨package, hmem, hpackage⟩ := hpending
  have hkind : ((selectOperationForGetEimPackage sampleHandler sampleDevice
      (sampleSystem (sampleCrowded 100)).store).1.toOption.join.map Operation.kind) =
        some .ipaEuiccData := by decide +kernel
  rw [hselected] at hkind
  have hdata := Option.some.inj hkind
  rw [hpreferred.package_first package hmem hpackage] at hdata
  cases hdata

end OpenIotRsp.Server
