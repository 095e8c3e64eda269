import OpenIotRsp.Verification.Esipa.DeviceFrame

/-!
# The device of a result without an EID

A result that names its device by a transaction only is routed by a search
through the pending operations of the tenant.  The search reads at most 10000
of them, and ends at the first one whose payload does not decode.
-/

namespace OpenIotRsp.Esipa

open Octets Ber Stateful Asn1 Storage

/-- The pending operations of a tenant, by their sequence numbers. -/
def pendingOfTenant (tenantID : TenantID) (s : Store) : List Operation :=
  sortOperations ((s.allOperations.filter fun stored =>
    stored.tenantID = normalizeTenantID tenantID ∧ stored.operation.status = .pending).map
      MemoryOperation.operation)

theorem nodup_pendingOfTenant (tenantID : TenantID) (s : Store) :
    (pendingOfTenant tenantID s).Nodup := by
  rw [pendingOfTenant, sortOperations, (List.perm_insertionSort _ _).nodup_iff]
  refine List.pairwise_map.mpr (((pairwise_allOperations s).filter _).imp ?_)
  intro a b hid heq
  exact hid (congrArg Operation.id heq)

variable {B : Bertlv} {X : Ipadata.X509} {tenantID : TenantID} {s : Store} {transactionID : Bytes}
  {operation : Operation}

/-! ## Matching -/

/-- The payload of the operation can be read for a transaction. -/
def Decodes (B : Bertlv) (operation : Operation) : Prop :=
  ∃ transactionID, operationTransactionID B operation = .ok transactionID

theorem matches_eq_true (hne : transactionID ≠ []) :
    operationMatchesEimTransactionID B operation transactionID = .ok true ↔
      operationTransactionID B operation = .ok (some transactionID) := by
  rw [operationMatchesEimTransactionID, if_neg hne]
  cases operationTransactionID B operation with
  | error e => simp [bind, Except.bind]
  | ok found => cases found <;> simp [bind, Except.bind, pure, Except.pure, hne.symm]

theorem matches_eq_false (hne : transactionID ≠ []) :
    operationMatchesEimTransactionID B operation transactionID = .ok false ↔
      Decodes B operation ∧ operationTransactionID B operation ≠ .ok (some transactionID) := by
  rw [operationMatchesEimTransactionID, if_neg hne, Decodes]
  cases operationTransactionID B operation with
  | error e => simp [bind, Except.bind]
  | ok found => cases found <;> simp [bind, Except.bind, pure, Except.pure, hne.symm]

/-- The search stops at the first match, past operations that decode and do not match. -/
theorem findTransaction_eq_some {operations : List Operation} :
    findTransaction B transactionID operations = .ok (some operation) ↔
      ∃ before rest, operations = before ++ operation :: rest ∧
        (∀ other ∈ before,
          operationMatchesEimTransactionID B other transactionID = .ok false) ∧
        operationMatchesEimTransactionID B operation transactionID = .ok true := by
  induction operations with
  | nil => simp [findTransaction]
  | cons first operations ih =>
      rw [findTransaction]
      constructor
      · intro h
        obtain ⟨matched, hmatched, h⟩ := Outcome.bind_eq_ok.mp h
        cases matched with
        | true =>
            obtain rfl := Option.some.inj (Except.ok.inj h)
            exact ⟨[], operations, rfl, by simp, hmatched⟩
        | false =>
            obtain ⟨before, rest, rfl, hbefore, hmatch⟩ := ih.mp h
            exact ⟨first :: before, rest, rfl, List.forall_mem_cons.mpr ⟨hmatched, hbefore⟩, hmatch⟩
      · rintro ⟨before, rest, heq, hbefore, hmatch⟩
        cases before with
        | nil =>
            obtain ⟨rfl, rfl⟩ := List.cons.inj heq
            exact Outcome.bind_eq_ok.mpr ⟨true, hmatch, rfl⟩
        | cons other before =>
            obtain ⟨rfl, rfl⟩ := List.cons.inj heq
            obtain ⟨hfirst, hbefore⟩ := List.forall_mem_cons.mp hbefore
            exact Outcome.bind_eq_ok.mpr ⟨false, hfirst, ih.mpr ⟨before, rest, rfl, hbefore, hmatch⟩⟩

/-! ## Resolution -/

/-- What is returned when the transaction is all there is. -/
theorem resolveProvideResultEID_of_transaction {explicitEID : Option Bytes} {resultTLV : Tlv}
    (hexplicit : explicitEID.getD [] = [])
    (hrecovered : (recoverEIDFromPackageResultTLV B X resultTLV).filter
      (fun eid => eid.length = 16) = none)
    (hresult : eimTransactionIDFromResultTLV B resultTLV = some transactionID)
    (hne : transactionID ≠ []) :
    (resolveProvideResultEID B X tenantID explicitEID resultTLV s).1 =
      (findTransaction B transactionID ((pendingOfTenant tenantID s).take 10000)).map fun found =>
        match found with
        | some operation => .ok operation.eid
        | none => .error provideResultErrorEIDNotFound := by
  obtain ⟨b, bs, rfl⟩ := List.exists_cons_of_ne_nil hne
  have hlist : listPendingOperations tenantID 10000 s =
      (.ok ((pendingOfTenant tenantID s).take 10000), s) := rfl
  rw [resolveProvideResultEID, if_neg (not_not.mpr hexplicit), hrecovered]
  dsimp only
  rw [hresult]
  dsimp only
  rw [bind_of_ok hlist]
  cases hfind : findTransaction B (b :: bs) ((pendingOfTenant tenantID s).take 10000) with
  | error e => rw [ofExcept_bind_of_error _ _ rfl]; rfl
  | ok found =>
      rw [ofExcept_bind_of_ok _ _ rfl]
      cases found with
      | none => rfl
      | some operation => rfl

/-- The transaction of exactly one pending operation leads to its device exactly if the operation is
among the first 10000 pending ones of the tenant and every one before it decodes. -/
theorem resolves_transaction_iff {explicitEID : Option Bytes} {resultTLV : Tlv}
    (hexplicit : explicitEID.getD [] = [])
    (hrecovered : (recoverEIDFromPackageResultTLV B X resultTLV).filter
      (fun eid => eid.length = 16) = none)
    (hresult : eimTransactionIDFromResultTLV B resultTLV = some transactionID)
    (hpending : operation ∈ pendingOfTenant tenantID s)
    (htransaction : operationTransactionID B operation = .ok (some transactionID))
    (hunique : ∀ other ∈ pendingOfTenant tenantID s,
      operationTransactionID B other = .ok (some transactionID) → other = operation) :
    (resolveProvideResultEID B X tenantID explicitEID resultTLV s).1 = .ok (.ok operation.eid) ↔
      transactionID ≠ [] ∧ ∃ before rest,
        pendingOfTenant tenantID s = before ++ operation :: rest ∧ before.length < 10000 ∧
          ∀ other ∈ before, Decodes B other := by
  constructor
  · intro h
    by_cases hne : transactionID = []
    · -- a result with an empty transaction has none
      subst hne
      rw [resolveProvideResultEID, if_neg (not_not.mpr hexplicit), hrecovered] at h
      dsimp only at h
      rw [hresult] at h
      cases h
    · rw [resolveProvideResultEID_of_transaction hexplicit hrecovered hresult hne] at h
      cases hfind : findTransaction B transactionID ((pendingOfTenant tenantID s).take 10000) with
      | error e =>
          rw [hfind] at h
          cases h
      | ok found =>
          rw [hfind] at h
          cases found with
          | none => cases h
          | some found =>
              obtain ⟨before, rest, heq, hbefore, hmatch⟩ := findTransaction_eq_some.mp hfind
              have hmem : found ∈ (pendingOfTenant tenantID s).take 10000 := by
                rw [heq]
                simp
              obtain rfl := hunique found (List.mem_of_mem_take hmem)
                ((matches_eq_true hne).mp hmatch)
              refine ⟨hne, before, rest ++ (pendingOfTenant tenantID s).drop 10000, ?_, ?_, ?_⟩
              · rw [← List.cons_append, ← List.append_assoc, ← heq, List.take_append_drop]
              · have hlength := congrArg List.length heq
                simp only [List.length_take, List.length_append, List.length_cons] at hlength
                omega
              · intro other hother
                exact ((matches_eq_false hne).mp (hbefore other hother)).1
  · rintro ⟨hne, before, rest, heq, hlength, hdecodes⟩
    have hnodup := nodup_pendingOfTenant tenantID s
    rw [heq] at hnodup
    have hfind : findTransaction B transactionID ((pendingOfTenant tenantID s).take 10000) =
        .ok (some operation) := by
      refine findTransaction_eq_some.mpr ⟨before, rest.take (9999 - before.length), ?_, ?_,
        (matches_eq_true hne).mpr htransaction⟩
      · obtain ⟨k, hk⟩ : ∃ k, 10000 - before.length = k + 1 := ⟨9999 - before.length, by omega⟩
        have hrest : 9999 - before.length = k := by omega
        rw [heq, List.take_append, List.take_of_length_le hlength.le, hk, List.take_succ_cons, hrest]
      · intro other hother
        refine (matches_eq_false hne).mpr ⟨hdecodes other hother, fun hother_transaction => ?_⟩
        -- another operation of the transaction would be this one, which comes later
        obtain rfl := hunique other (heq ▸ List.mem_append_left _ hother) hother_transaction
        exact (List.disjoint_of_nodup_append hnodup) hother (by simp)
    rw [resolveProvideResultEID_of_transaction hexplicit hrecovered hresult hne, hfind]
    rfl

/-! A device whose data request does not decode, and another one with two triggers in its queue. -/

def sampleTrigger (transactionID : UInt8) : OperationRequest :=
  ⟨Hex.encode otherSampleEID, .profileDownloadTrigger, [0xbf, 0x54, 0x03, 0x82, 0x01, transactionID]⟩

def sampleTriggers (requests : List OperationRequest) : Store :=
  ((do
    registerDevice [] (Hex.encode sampleEID)
    registerDevice [] (Hex.encode otherSampleEID)
    requests.forM fun request => do let _ ← enqueueOperation [] request : StoreM Unit) Store.new).2

/-- A download error for the transaction. -/
def sampleDownloadError (transactionID : UInt8) : Tlv :=
  .constructed tagDownloadTrig [.primitive (context 2) [transactionID],
    .constructed tagSequence [.primitive (context 0) [0x01]]]

def sampleTriggerOperation (id sequenceNumber : Int) (transactionID : UInt8) : Operation :=
  ⟨id, Hex.encode otherSampleEID, sequenceNumber, .profileDownloadTrigger,
    (sampleTrigger transactionID).payload, .pending⟩

theorem resolves_transaction_iff_trigger :
    (resolveProvideResultEID .reference ⟨fun _ => none⟩ [] none (sampleDownloadError 0x07)
        (sampleTriggers [sampleTrigger 0x08, sampleTrigger 0x07])).1 =
      .ok (.ok (Hex.encode otherSampleEID)) ↔
      ([0x07] : Bytes) ≠ [] ∧ ∃ before rest,
        pendingOfTenant [] (sampleTriggers [sampleTrigger 0x08, sampleTrigger 0x07]) =
            before ++ sampleTriggerOperation 2 2 0x07 :: rest ∧
          before.length < 10000 ∧ ∀ other ∈ before, Decodes .reference other := by
  have hpending : pendingOfTenant [] (sampleTriggers [sampleTrigger 0x08, sampleTrigger 0x07]) =
      [sampleTriggerOperation 1 1 0x08, sampleTriggerOperation 2 2 0x07] := by
    decide +kernel
  have htransaction : operationTransactionID .reference (sampleTriggerOperation 2 2 0x07) =
      .ok (some [0x07]) := by
    decide +kernel
  refine resolves_transaction_iff rfl rfl rfl ?_ htransaction ?_
  · rw [hpending]
    simp
  · rw [hpending]
    decide +kernel

/-- The request of one device that does not decode hides the transaction of another one. -/
theorem transaction_hidden_by_other_device :
    pendingOfTenant [] (sampleTriggers [⟨Hex.encode sampleEID, .ipaEuiccData, []⟩,
        sampleTrigger 0x08, sampleTrigger 0x07]) =
      [sampleTriggerOperation 2 1 0x08, ⟨1, Hex.encode sampleEID, 1, .ipaEuiccData, [], .pending⟩,
        sampleTriggerOperation 3 2 0x07] ∧
    operationTransactionID .reference (sampleTriggerOperation 3 2 0x07) = .ok (some [0x07]) ∧
    eimTransactionIDFromResultTLV .reference (sampleDownloadError 0x07) = some [0x07] ∧
    recoverEIDFromPackageResultTLV .reference ⟨fun _ => none⟩ (sampleDownloadError 0x07) = none ∧
    (resolveProvideResultEID .reference ⟨fun _ => none⟩ [] none (sampleDownloadError 0x07)
        (sampleTriggers [⟨Hex.encode sampleEID, .ipaEuiccData, []⟩, sampleTrigger 0x08,
          sampleTrigger 0x07])).1.toOption = none := by
  refine ⟨?_, ?_, rfl, rfl, ?_⟩ <;> decide +kernel

end OpenIotRsp.Esipa
