import OpenIotRsp.Verification.Storage.Results

/-!
# The operation of a verified result

A result that is applied without an operation identifier is recorded under the
eUICC's sequence number, and the store reads that number as its own.
-/

namespace OpenIotRsp

open Octets Stateful Storage

namespace Storage

/-- The operation that is found for a device and a sequence number of the queue. -/
def Store.operationAt (s : Store) (key : DeviceKey) (sequenceNumber : Int) :
    Option MemoryOperation :=
  (s.operations.entries.find? fun row =>
    row.2.val.device = key ∧ row.2.val.operation.sequenceNumber = sequenceNumber).map
      fun row => row.2.val

def Store.status (s : Store) (id : Int) : Option OperationStatus :=
  (s.operations.lookup id).map fun stored => stored.val.operation.status

variable {s : Store} {key : DeviceKey} {sequenceNumber : Int} {stored : MemoryOperation}

theorem lookup_of_operationAt (h : s.operationAt key sequenceNumber = some stored) :
    ∃ id, ∃ row : StoredOperation id, s.operations.lookup id = some row ∧ row.val = stored := by
  obtain ⟨row, hfind, rfl⟩ := Option.map_eq_some_iff.mp h
  exact ⟨row.1, row.2, AList.mem_lookup_iff.mpr (List.mem_of_find?_eq_some hfind), rfl⟩

theorem status_updateStatus (s : Store) (tenantID : TenantID) (result : EUICCPackageResult)
    (id : Int) :
    (s.updateStatus tenantID result).status id =
      if (s.operations.entries.find? fun row => result.isFor tenantID row.2.val).map Sigma.fst =
          some id
      then some result.status else s.status id := by
  cases hfind : s.operations.entries.find? fun row => result.isFor tenantID row.2.val with
  | none =>
      have hsame : s.updateStatus tenantID result = s := by rw [Store.updateStatus, hfind]
      rw [hsame, if_neg (by simp)]
  | some row =>
      have hupdate : (s.updateStatus tenantID result).operations = s.operations.insert row.1
          ⟨row.2.val.withStatus result.status, row.2.property⟩ := by rw [Store.updateStatus, hfind]
      rw [Store.status, hupdate]
      by_cases hid : row.1 = id
      · subst hid
        rw [AList.lookup_insert]
        exact (if_pos rfl).symm
      · rw [AList.lookup_insert_ne (Ne.symm hid), if_neg (by simpa using hid)]
        rfl

/-- A result without an identifier is for the operation with its sequence number. -/
theorem find?_isFor (s : Store) (key : DeviceKey) (result : EUICCPackageResult)
    (hid : result.operationID = 0) (heid : result.eid = key.eid) :
    (s.operations.entries.find? fun row => result.isFor key.tenantID row.2.val).map Sigma.fst =
      (s.operationAt key result.sequenceNumber).map fun stored => stored.operation.id := by
  have hfor : ∀ stored : MemoryOperation, result.isFor key.tenantID stored =
      decide (stored.device = key ∧ stored.operation.sequenceNumber = result.sequenceNumber) := by
    intro stored
    simp only [EUICCPackageResult.isFor, hid, heid, if_true]
    rw [decide_eq_decide, MemoryOperation.device, DeviceKey.mk.injEq, and_assoc]
  simp only [hfor, Store.operationAt, Option.map_map]
  refine Option.map_congr fun row _ => ?_
  exact row.2.property.symm

end Storage

namespace Euiccpkg

variable {B : Bertlv} {C : Crypto} {S : Service} {s s' : Store} {input : ResultInput}
  {request : SignedRequest} {result : Result}

/-- The status that a result stands for, once it is verified. -/
def reportedStatus (B : Bertlv) (S : Service) (C : Crypto) (input : ResultInput)
    (request : SignedRequest) (s : Store) : Option OperationStatus :=
  ((verifyingToken B S input request s).1.toOption.bind fun token =>
    (verifyPackageResult B C { input with associationToken := token }).toOption).map Result.status

theorem readOnly_verifyingToken (B : Bertlv) (S : Service) (input : ResultInput)
    (request : SignedRequest) : ReadOnly (verifyingToken B S input request) := by
  intro s
  rw [verifyingToken]
  cases input.associationToken with
  | some token => rfl
  | none =>
      exact congrArg Prod.snd (associationTokenForEIM_apply request.tenantID request.eid S.eimID s)

/-- A result that is applied without an identifier is recorded under the sequence number of the
input; what follows leaves the queue alone. -/
theorem status_verifyAndApplyResult (hrequest : input.request = some request)
    (hid : input.operationID = 0) (hsequence : input.sequenceNumber ≠ 0)
    (hrun : verifyAndApplyResult B S C input s = (.ok result, s')) :
    reportedStatus B S C input request s = some result.status ∧
      ∀ id, s'.status id =
        if (s.operationAt (newDeviceKey request.tenantID request.eid) input.sequenceNumber).map
            (fun stored => stored.operation.id) = some id
        then some result.status else s.status id := by
  rw [verifyAndApplyResult, hrequest] at hrun
  obtain ⟨token, htoken, hrun⟩ := (readOnly_verifyingToken B S input request).bind_eq_ok hrun
  obtain ⟨verified, hverified, hrun⟩ := (readOnly_ofExcept _).bind_eq_ok hrun
  obtain ⟨_, recorded, hrecord, hrun⟩ := Stateful.bind_eq_ok hrun
  rw [recordVerifiedResult, if_pos (.inr hsequence)] at hrecord
  obtain ⟨_, applied, happly, hreturn⟩ := Stateful.bind_eq_ok hrun
  obtain ⟨hresult, rfl⟩ := Prod.mk.inj hreturn
  obtain rfl := Except.ok.inj hresult
  constructor
  · rw [reportedStatus, htoken, hrequest]
    exact congrArg (fun r => (Except.toOption r).map Result.status) hverified
  · intro id
    have hkeeps : Keeps Store.operations (applyVerifiedResult B request verified) :=
      Keeps.ite (fun _ => (ignoresState_of_forall fun _ _ _ _ => rfl).applyPackageResultState B _ _)
        fun _ => keeps_pure _ ()
    have hkept : applied.operations = recorded.operations := by
      have h := hkeeps recorded
      rwa [happly] at h
    rw [Store.status, hkept]
    rcases recordEUICCPackageResult_cases request.tenantID ⟨request.eid, input.operationID,
      input.sequenceNumber, verified.status, input.resultDER⟩ s with
      herror | ⟨resolved, device, hresolved, -, hok⟩
    · rw [herror] at hrecord
      cases hrecord
    · cases hresolved with
      | named hne => exact absurd hid hne
      | plain =>
          rw [hok] at hrecord
          obtain ⟨-, rfl⟩ := Prod.mk.inj hrecord
          have hstatus : normalizeResultStatus verified.status = verified.status := by
            rw [Result.status]
            split <;> rfl
          refine (status_updateStatus _ _ _ id).trans ?_
          rw [hstatus]
          have hfound := find?_isFor s (newDeviceKey request.tenantID request.eid)
            ⟨request.eid, input.operationID, input.sequenceNumber, verified.status, input.resultDER⟩
            hid rfl
          exact if_congr (iff_of_eq (congrArg (· = some id) hfound)) rfl rfl

/-- **Foreign operations.**  Applying a result by the eUICC's sequence number changes the status of
operations with that payload only, exactly when the operation that has the number in the queue has
that payload, or the status already. -/
theorem own_operation_only_iff (hrequest : input.request = some request)
    (hid : input.operationID = 0) (hsequence : input.sequenceNumber ≠ 0)
    (hrun : verifyAndApplyResult B S C input s = (.ok result, s')) :
    (∀ id stored, s.operations.lookup id = some stored →
        stored.val.operation.payload ≠ request.der → s'.status id = s.status id) ↔
      ∀ stored, s.operationAt (newDeviceKey request.tenantID request.eid) input.sequenceNumber =
          some stored →
        stored.operation.payload = request.der ∨
          reportedStatus B S C input request s = some stored.operation.status := by
  obtain ⟨hreported, hstatus⟩ := status_verifyAndApplyResult hrequest hid hsequence hrun
  rw [hreported]
  constructor
  · intro hframe stored hat
    by_cases hpayload : stored.operation.payload = request.der
    · exact .inl hpayload
    · obtain ⟨id, row, hlookup, rfl⟩ := lookup_of_operationAt hat
      have hsame := hframe id row hlookup hpayload
      rw [hstatus, hat, Option.map_some, row.property, if_pos rfl, Store.status, hlookup] at hsame
      exact .inr hsame
  · intro hown id stored hlookup hpayload
    rw [hstatus]
    split
    next hat =>
        obtain ⟨found, hfound, hfoundID⟩ := Option.map_eq_some_iff.mp hat
        obtain ⟨id', row, hrow, rfl⟩ := lookup_of_operationAt hfound
        obtain rfl : id' = id := row.property.symm.trans hfoundID
        obtain rfl := Option.some.inj (hrow.symm.trans hlookup)
        rw [Store.status, hlookup]
        exact (hown _ hfound).resolve_left hpayload
    next => rfl

/-! A data request has the first sequence number of the queue and an enable package the second one;
the eUICC numbers its result 1. -/

def sampleEnableData : Bytes :=
  [0x30, 0x0e, 0x80, 0x01, 0x65, 0x81, 0x01, 0x07, 0x83, 0x01, 0x01, 0x30, 0x03, 0x83, 0x01, 0x00]

def sampleRequest : SignedRequest where
  der := [0xbf, 0x51]
  eid := text "eid"
  eimID := [0x65]
  counterValue := 7
  eimTransactionID := none
  package := enable [0x89, 0x10, 0xaa] false

def sampleNumberedInput : ResultInput where
  request := some sampleRequest
  resultDER := [0xbf, 0x51, 0x15, 0xa0, 0x13] ++ sampleEnableData ++ [0x5f, 0x37, 0x00]
  euiccPublicKey := .ecdsa ⟨256, 0, 0⟩
  sequenceNumber := 1

def sampleVerifier : Service := ⟨[0x65], ⟨fun _ => .ok [], [], .ok []⟩⟩

def sampleNumberedStore : Store :=
  ((do
    registerDevice [] (text "eid")
    let _ ← enqueueOperation [] ⟨text "eid", .ipaEuiccData, [0xbf, 0x52]⟩
    let _ ← enqueueOperation [] ⟨text "eid", .euiccPackage, sampleRequest.der⟩
    pure () : StoreM Unit) Store.new).2

theorem sampleNumbered_runs :
    ∃ s', verifyAndApplyResult .reference sampleVerifier
        (acceptsOnly (sampleEnableData ++ [0x84, 0x01, 0x00])) sampleNumberedInput
        sampleNumberedStore = (.ok { ok := true, operation := .enable, resultCode := some .ok }, s') ∧
      s'.status 1 = some .done ∧ s'.status 2 = some .pending :=
  ⟨_, Prod.ext (by decide +kernel) rfl, by decide +kernel, by decide +kernel⟩

theorem own_operation_only_iff_enable :
    ∃ s', verifyAndApplyResult .reference sampleVerifier
        (acceptsOnly (sampleEnableData ++ [0x84, 0x01, 0x00])) sampleNumberedInput
        sampleNumberedStore = (.ok { ok := true, operation := .enable, resultCode := some .ok }, s') ∧
      ((∀ id stored, sampleNumberedStore.operations.lookup id = some stored →
          stored.val.operation.payload ≠ sampleRequest.der →
          s'.status id = sampleNumberedStore.status id) ↔
        ∀ stored, sampleNumberedStore.operationAt (newDeviceKey [] (text "eid")) 1 = some stored →
          stored.operation.payload = sampleRequest.der ∨
            reportedStatus .reference sampleVerifier
              (acceptsOnly (sampleEnableData ++ [0x84, 0x01, 0x00])) sampleNumberedInput
              sampleRequest sampleNumberedStore = some stored.operation.status) := by
  obtain ⟨s', hrun, -⟩ := sampleNumbered_runs
  exact ⟨s', hrun, own_operation_only_iff rfl rfl (by decide) hrun⟩

/-- The data request is done, and the enable package still waits. -/
theorem foreign_operation_completed :
    ∃ s', verifyAndApplyResult .reference sampleVerifier
        (acceptsOnly (sampleEnableData ++ [0x84, 0x01, 0x00])) sampleNumberedInput
        sampleNumberedStore = (.ok { ok := true, operation := .enable, resultCode := some .ok }, s') ∧
      (sampleNumberedStore.operations.lookup 1).map (fun stored => stored.val.operation.payload) =
        some [0xbf, 0x52] ∧
      sampleNumberedStore.status 1 = some .pending ∧
      s'.status 1 = some .done ∧ s'.status 2 = some .pending := by
  obtain ⟨s', hrun, hdata, hpackage⟩ := sampleNumbered_runs
  exact ⟨s', hrun, by decide +kernel, by decide +kernel, hdata, hpackage⟩

end Euiccpkg

end OpenIotRsp
