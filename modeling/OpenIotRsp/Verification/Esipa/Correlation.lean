import OpenIotRsp.Model.Esipa.Handler
import OpenIotRsp.Verification.Storage.DeviceState
import OpenIotRsp.Verification.Storage.Operations

/-!
# Correlation of a result with an operation

Which operation a result is for.  The search reads the store only; what it
finds is an operation of the device with the identifiers of the result.
-/

namespace OpenIotRsp.Esipa

open Octets Ber Stateful Asn1 Storage Euiccpkg

variable {s : Store} {operation : Operation} {counter : Int}

/-- The store key of a device of the handler's tenant. -/
def Handler.device (H : Handler) (eid : Bytes) : DeviceKey := newDeviceKey H.tenant eid

variable {H : Handler}

/-! ## The first match -/

/-- An operation whose payload is a package with the identifiers. -/
structure CarriesPackage (H : Handler) (operation : Operation) (eimID : Bytes) (counter : Int)
    (transactionID : Bytes) : Prop where
  kind : operation.kind = .euiccPackage
  decodes : ∃ request, decodePackage H operation = .ok request ∧
    correlates request.euiccPackageSigned eimID counter transactionID = true

theorem firstMatchingEuiccPackage_some {eimID transactionID : Bytes} {operations : List Operation}
    (h : firstMatchingEuiccPackage H eimID counter transactionID operations = .ok (some operation)) :
    operation ∈ operations ∧ CarriesPackage H operation eimID counter transactionID := by
  induction operations with
  | nil => cases h
  | cons first rest ih =>
      rw [firstMatchingEuiccPackage] at h
      split at h
      next hkind =>
          obtain ⟨request, hdecode, h⟩ := Outcome.bind_eq_ok.mp h
          split at h
          next hcorrelates =>
              obtain rfl := Option.some.inj (Except.ok.inj h)
              exact ⟨List.mem_cons_self, hkind, request, hdecode, hcorrelates⟩
          next => exact (ih h).imp_left (List.mem_cons_of_mem first)
      next => exact (ih h).imp_left (List.mem_cons_of_mem first)

theorem firstMatchingEuiccPackage_none {eimID transactionID : Bytes} {operations : List Operation}
    (h : firstMatchingEuiccPackage H eimID counter transactionID operations = .ok none)
    (hmem : operation ∈ operations) : ¬ CarriesPackage H operation eimID counter transactionID := by
  induction operations with
  | nil => cases hmem
  | cons first rest ih =>
      rw [firstMatchingEuiccPackage] at h
      split at h
      next hkind =>
          obtain ⟨request, hdecode, h⟩ := Outcome.bind_eq_ok.mp h
          split at h
          next => cases h
          next hcorrelates =>
              rcases List.mem_cons.mp hmem with rfl | hmem
              · rintro ⟨-, request', hdecode', hcorrelates'⟩
                obtain rfl := Except.ok.inj (hdecode.symm.trans hdecode')
                exact hcorrelates hcorrelates'
              · exact ih h hmem
      next hkind =>
          rcases List.mem_cons.mp hmem with rfl | hmem
          · exact fun hcarries => hkind hcarries.kind
          · exact ih h hmem

/-- How the search by correlation finds an operation: in the pending queue, or else among all the
operations of the device. -/
inductive Correlated (H : Handler) (s : Store) (eid eimID : Bytes) (counter : Int)
    (transactionID : Bytes) (operation : Operation) : Prop
  | pending
      (hfirst : firstMatchingEuiccPackage H eimID counter transactionID
        (s.pending (H.device eid) 10000) = .ok (some operation))
  | completed
      (hpending : firstMatchingEuiccPackage H eimID counter transactionID
        (s.pending (H.device eid) 10000) = .ok none)
      (hgiven : ¬(transactionID = [] ∧ eimID = [] ∧ counter = 0))
      (hfirst : firstMatchingEuiccPackage H eimID counter transactionID
        (s.queue (H.device eid) 10000) = .ok (some operation))

theorem Correlated.queued {eid eimID transactionID : Bytes}
    (h : Correlated H s eid eimID counter transactionID operation) :
    Queued s (H.device eid) operation := by
  cases h with
  | pending hfirst => exact (queued_of_mem_pending (firstMatchingEuiccPackage_some hfirst).1).1
  | completed _ _ hfirst => exact queued_of_mem_queue (firstMatchingEuiccPackage_some hfirst).1

theorem Correlated.carriesPackage {eid eimID transactionID : Bytes}
    (h : Correlated H s eid eimID counter transactionID operation) :
    CarriesPackage H operation eimID counter transactionID := by
  cases h with
  | pending hfirst => exact (firstMatchingEuiccPackage_some hfirst).2
  | completed _ _ hfirst => exact (firstMatchingEuiccPackage_some hfirst).2

theorem readOnly_matchPendingEuiccPackageByCorrelation (eid eimID : Bytes) (counter : Int)
    (transactionID : Bytes) :
    ReadOnly (matchPendingEuiccPackageByCorrelation H eid eimID counter transactionID) := by
  refine (keeps_fetchPendingOperations id H.tenant eid 10000).bind fun pending => ?_
  refine (keeps_ofExcept id _).bind fun found => ?_
  cases found with
  | some operation => exact keeps_pure id operation
  | none =>
      refine Keeps.ite (fun _ => keeps_fail id _) fun _ => ?_
      refine (keeps_listOperations id H.tenant eid 10000).bind fun all => ?_
      refine (keeps_ofExcept id _).bind fun found => ?_
      cases found with
      | some operation => exact keeps_pure id operation
      | none => exact keeps_fail id _

/-- What the search by correlation returns. -/
theorem correlated_of_match {eid eimID transactionID : Bytes}
    (h : (matchPendingEuiccPackageByCorrelation H eid eimID counter transactionID s).1 =
      .ok operation) : Correlated H s eid eimID counter transactionID operation := by
  have hread := readOnly_matchPendingEuiccPackageByCorrelation (H := H) eid eimID counter
    transactionID s
  have hrun : matchPendingEuiccPackageByCorrelation H eid eimID counter transactionID s =
      (.ok operation, s) := Prod.ext h hread
  obtain ⟨found, hfound, hrun⟩ := ReadOnly.bind_eq_ok (keeps_ofExcept id _) hrun
  cases found with
  | some first =>
      obtain rfl := Except.ok.inj (congrArg Prod.fst hrun)
      exact .pending hfound
  | none =>
      dsimp only at hrun
      split at hrun
      next => cases hrun
      next hgiven =>
          obtain ⟨found, hall, hrun⟩ := ReadOnly.bind_eq_ok (keeps_ofExcept id _) hrun
          cases found with
          | some first =>
              obtain rfl := Except.ok.inj (congrArg Prod.fst hrun)
              exact .completed hfound hgiven hall
          | none => cases hrun

/-! ## The first pending package -/

theorem readOnly_firstPendingEuiccPackageOperation (eid : Bytes) :
    ReadOnly (firstPendingEuiccPackageOperation H eid) := by
  refine (keeps_fetchPendingOperations id H.tenant eid 10000).bind fun pending => ?_
  split
  next => exact keeps_pure id _
  next => exact keeps_fail id _

theorem firstPending_of_match {eid : Bytes}
    (h : (firstPendingEuiccPackageOperation H eid s).1 = .ok operation) :
    (s.pending (H.device eid) 10000).find? (fun operation => operation.kind = .euiccPackage) =
      some operation := by
  have hrun : firstPendingEuiccPackageOperation H eid s = (.ok operation, s) :=
    Prod.ext h (readOnly_firstPendingEuiccPackageOperation eid s)
  obtain ⟨pending, hpending, hrun⟩ := ReadOnly.bind_eq_ok (keeps_get id _) hrun
  obtain rfl : s.pending (H.device eid) 10000 = pending := Except.ok.inj hpending
  cases hfind : (s.pending (H.device eid) 10000).find? fun operation =>
      operation.kind = .euiccPackage with
  | none =>
      rw [hfind] at hrun
      cases hrun
  | some found =>
      rw [hfind] at hrun
      obtain rfl := Except.ok.inj (congrArg Prod.fst hrun)
      rfl

theorem queued_of_firstPending {eid : Bytes}
    (h : (s.pending (H.device eid) 10000).find? (fun operation => operation.kind = .euiccPackage) =
      some operation) : Queued s (H.device eid) operation ∧ operation.kind = .euiccPackage := by
  have hfound := List.find?_some h
  exact ⟨(queued_of_mem_pending (List.mem_of_find?_eq_some h)).1, of_decide_eq_true hfound⟩

/-! ## Package results -/

theorem findRow_eq_ok {α : Type} {m : StoreM α} {s s' : Store} {row : Option α}
    (h : findRow m s = (.ok row, s')) :
    (∃ a, row = some a ∧ m s = (.ok a, s')) ∨ row = none ∧ m s = (.error .notFound, s') := by
  rcases hm : m s with ⟨r, t⟩
  have hattempt : attempt m s = (.ok r, t) := by rw [attempt_apply, hm]
  have hrun := (bind_of_ok hattempt).symm.trans h
  cases r with
  | ok a =>
      cases hrun
      exact .inl ⟨a, rfl, rfl⟩
  | error e =>
      cases e with
      | notFound =>
          cases hrun
          exact .inr ⟨rfl, rfl⟩
      | _ => cases hrun

/-- The identifiers that a package result is correlated by; an unsigned error has no counter. -/
def correlationOf : EuiccPackageResult → Bytes × Int × Bytes
  | .ok signed =>
      (signed.data.eimID, signed.data.counterValue, signed.data.eimTransactionID.getD [])
  | .errorSigned error =>
      (error.data.eimID, error.data.counterValue, error.data.eimTransactionID.getD [])
  | .errorUnsigned error => (error.eimID, 0, error.eimTransactionID.getD [])

/-- The operation that a package result is for. -/
inductive Matching (H : Handler) (s : Store) (eid : Bytes) (result : EuiccPackageResult)
    (operation : Operation) : Prop
  | correlated (h : Correlated H s eid (correlationOf result).1 (correlationOf result).2.1
      (correlationOf result).2.2 operation)
  | firstPending (hunsigned : ∃ error, result = .errorUnsigned error)
      (hfirst : (s.pending (H.device eid) 10000).find?
        (fun operation => operation.kind = .euiccPackage) = some operation)

theorem readOnly_matchingEUICCPackageOperation (eid : Bytes) (result : EuiccPackageResult) :
    ReadOnly (matchingEUICCPackageOperation H eid result) := by
  cases result with
  | ok signed => exact readOnly_matchPendingEuiccPackageByCorrelation _ _ _ _
  | errorSigned error => exact readOnly_matchPendingEuiccPackageByCorrelation _ _ _ _
  | errorUnsigned error =>
      refine Keeps.ite (f := id) (fun _ => ?_) fun _ =>
        readOnly_firstPendingEuiccPackageOperation eid
      refine (keeps_findRow (f := id) (readOnly_matchPendingEuiccPackageByCorrelation
        _ _ _ _)).bind fun found => ?_
      cases found with
      | some operation => exact keeps_pure id operation
      | none => exact readOnly_firstPendingEuiccPackageOperation eid

theorem matching_of_match {eid : Bytes} {result : EuiccPackageResult}
    (h : (matchingEUICCPackageOperation H eid result s).1 = .ok operation) :
    Matching H s eid result operation := by
  cases result with
  | ok signed => exact .correlated (correlated_of_match h)
  | errorSigned error => exact .correlated (correlated_of_match h)
  | errorUnsigned error =>
      have hread := readOnly_matchingEUICCPackageOperation (H := H) eid (.errorUnsigned error) s
      have hrun : matchingEUICCPackageOperation H eid (.errorUnsigned error) s =
          (.ok operation, s) := Prod.ext h hread
      rw [matchingEUICCPackageOperation] at hrun
      split at hrun
      next =>
          obtain ⟨found, t, hfound, hrun⟩ := Stateful.bind_eq_ok hrun
          rcases findRow_eq_ok hfound with ⟨first, rfl, hfirst⟩ | ⟨rfl, hnone⟩
          · obtain rfl := Except.ok.inj (congrArg Prod.fst hrun)
            exact .correlated (correlated_of_match (congrArg Prod.fst hfirst))
          · obtain rfl : t = s := by
              have hkept := readOnly_matchPendingEuiccPackageByCorrelation (H := H) eid
                error.eimID 0 (error.eimTransactionID.getD []) s
              rwa [hnone] at hkept
            exact .firstPending ⟨error, rfl⟩ (firstPending_of_match (congrArg Prod.fst hrun))
      next => exact .firstPending ⟨error, rfl⟩ (firstPending_of_match (congrArg Prod.fst hrun))

theorem Matching.queued {eid : Bytes} {result : EuiccPackageResult}
    (h : Matching H s eid result operation) :
    Queued s (H.device eid) operation ∧ operation.kind = .euiccPackage := by
  cases h with
  | correlated h => exact ⟨h.queued, h.carriesPackage.kind⟩
  | firstPending _ hfirst => exact queued_of_firstPending hfirst

/-! ## Pending data reads and download triggers -/

theorem firstPendingTransaction_some {kind : Storage.OperationKind}
    {transactionOf : Operation → Except Error (Option Bytes)} {transactionID : Bytes}
    {operations : List Operation}
    (h : firstPendingTransaction kind transactionOf transactionID operations =
      .ok (some operation)) : operation ∈ operations := by
  induction operations with
  | nil => cases h
  | cons first rest ih =>
      rw [firstPendingTransaction] at h
      split at h
      next =>
          obtain ⟨found, -, h⟩ := Outcome.bind_eq_ok.mp h
          split at h
          next =>
              obtain rfl := Option.some.inj (Except.ok.inj h)
              exact List.mem_cons_self
          next => exact List.mem_cons_of_mem first (ih h)
      next => exact List.mem_cons_of_mem first (ih h)

theorem readOnly_pendingIpaEuiccDataOperation (eid transactionID : Bytes) :
    ReadOnly (pendingIpaEuiccDataOperation H eid transactionID) :=
  (keeps_fetchPendingOperations id H.tenant eid 100).bind fun _ =>
    Keeps.ite (fun _ => keeps_pure id _) fun _ => keeps_ofExcept id _

theorem mem_of_pendingIpaEuiccData {eid transactionID : Bytes}
    (h : (pendingIpaEuiccDataOperation H eid transactionID s).1 = .ok (some operation)) :
    operation ∈ s.pending (H.device eid) 100 := by
  change ((if transactionID = [] then _ else _ : StoreM (Option Operation)) s).1 = _ at h
  split at h
  next =>
      have hfind := Except.ok.inj h
      exact List.mem_of_find?_eq_some hfind
  next => exact firstPendingTransaction_some h

theorem queued_of_pendingIpaEuiccData {eid transactionID : Bytes}
    (h : (pendingIpaEuiccDataOperation H eid transactionID s).1 = .ok (some operation)) :
    Queued s (H.device eid) operation :=
  (queued_of_mem_pending (mem_of_pendingIpaEuiccData h)).1

theorem readOnly_pendingProfileDownloadTrigger (eid transactionID : Bytes) :
    ReadOnly (pendingProfileDownloadTrigger H eid transactionID) :=
  (keeps_fetchPendingOperations id H.tenant eid 100).bind fun _ => keeps_ofExcept id _

theorem queued_of_pendingProfileDownloadTrigger {eid transactionID : Bytes}
    (h : (pendingProfileDownloadTrigger H eid transactionID s).1 = .ok (some operation)) :
    Queued s (H.device eid) operation := by
  have hmem : operation ∈ s.pending (H.device eid) 100 := firstPendingTransaction_some h
  exact (queued_of_mem_pending hmem).1

end OpenIotRsp.Esipa
