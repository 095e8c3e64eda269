import OpenIotRsp.Verification.Esipa.Wire
import OpenIotRsp.Verification.PackageResult.Authentic
import OpenIotRsp.Verification.Server.Counters

/-!
# Final outcomes

The outcome of an operation is its status and its recorded result.  A result
without a signature is looked for among completed packages as well, and then
replaces the outcome of a package that a signed result has completed.
-/

namespace OpenIotRsp.Server

open Octets Ber Stateful Asn1 Storage Euiccpkg Api Esipa

/-! ## Outcomes -/

/-- The status of an operation and the result recorded for it. -/
def outcome (s : Store) (id : Int) : Option (OperationStatus × EUICCPackageResult) := do
  let stored ← s.operations.lookup id
  let result ← s.results.lookup
    ⟨stored.val.tenantID, stored.val.operation.eid, stored.val.operation.sequenceNumber⟩
  return (stored.val.operation.status, result)

variable {s : Store} {key : DeviceKey} {operation : Operation} {status : OperationStatus}
  {payload : Bytes} {id : Int}

theorem outcome_congr {s' : Store} (h : book s' = book s) : outcome s' id = outcome s id := by
  obtain ⟨hoperations, hresults⟩ := Prod.mk.inj h
  rw [outcome, outcome, hoperations, hresults]

theorem Numbered.id_ne_zero (h : Numbered (ledger s)) (hqueued : Queued s key operation) :
    operation.id ≠ 0 := by
  have hrange := h.id_range (entries_of_queued hqueued)
  omega

/-- An operation for which nothing is recorded keeps its outcome. -/
theorem Numbered.outcome_recorded_of_ne (h : Numbered (ledger s)) (hqueued : Queued s key operation)
    (hid : id ≠ operation.id) :
    outcome (s.recorded key operation status payload) id = outcome s id := by
  obtain ⟨hoperations, hresults⟩ := Prod.mk.inj (book_recorded (h.id_ne_zero hqueued) hqueued status payload)
  rw [outcome, outcome, hoperations, hresults, AList.lookup_insert_ne hid]
  cases hstored : s.operations.lookup id with
  | none => rfl
  | some stored =>
      -- two operations of a device have different sequence numbers, and so different result rows
      have hentry : (ledger s).entries id = some (entryOf stored.val) := by
        simp only [ledger, hstored, Option.map_some]
      have hne : (⟨stored.val.tenantID, stored.val.operation.eid,
          stored.val.operation.sequenceNumber⟩ : ResultKey) ≠
            ⟨key.tenantID, operation.eid, operation.sequenceNumber⟩ := by
        intro heq
        obtain ⟨htenant, heid, hsequence⟩ := ResultKey.mk.inj heq
        refine hid (h.sequence_injective hentry (entries_of_queued hqueued) ?_ hsequence)
        have hkey := hqueued.choose_spec.2.2
        rw [entryOf, entry, MemoryOperation.device, htenant, heid, hkey]
      simp only [Option.bind_eq_bind, Option.bind_some, AList.lookup_insert_ne hne]

theorem Numbered.outcome_recorded (h : Numbered (ledger s)) (hqueued : Queued s key operation) :
    outcome (s.recorded key operation status payload) operation.id =
      some (normalizeResultStatus status,
        operation.result (normalizeResultStatus status) payload) := by
  obtain ⟨hoperations, hresults⟩ := Prod.mk.inj (book_recorded (h.id_ne_zero hqueued) hqueued status payload)
  rw [outcome, hoperations, hresults, AList.lookup_insert]
  simp only [Option.bind_eq_bind, Option.bind_some, AList.lookup_insert]
  rfl

theorem status_of_outcome {result : EUICCPackageResult} (hqueued : Queued s key operation)
    (h : outcome s operation.id = some (status, result)) : operation.status = status := by
  obtain ⟨stored, hlookup, hstored, -⟩ := hqueued
  simp only [outcome, hlookup, Option.bind_eq_bind, Option.bind_some, hstored] at h
  obtain ⟨row, -, h⟩ := Option.bind_eq_some_iff.mp h
  exact (Prod.mk.inj (Option.some.inj h)).1

/-! ## Registered devices -/

/-- Operations are queued for registered devices only. -/
def Registered (s : Store) : Prop :=
  ∀ id e, (ledger s).entries id = some e → (s.devices.lookup e.device).isSome

theorem Registered.of_queued (h : Registered s) (hqueued : Queued s key operation) :
    (s.devices.lookup key).isSome :=
  h operation.id _ (entries_of_queued hqueued)

theorem Registered.congr {s' : Store} (h : Registered s) (hledger : ledger s' = ledger s)
    (hdevices : ∀ key, (s.devices.lookup key).isSome → (s'.devices.lookup key).isSome) :
    Registered s' := by
  intro id e he
  rw [hledger] at he
  exact hdevices _ (h id e he)

theorem isSome_lookup_insert {device : MemoryDevice} {key' : DeviceKey}
    (h : (s.devices.lookup key).isSome) : ((s.devices.insert key' device).lookup key).isSome := by
  by_cases hkey : key = key'
  · subst hkey
    simp
  · rwa [AList.lookup_insert_ne hkey]

theorem Registered.enqueueOperation (h : Registered s) (tenantID : TenantID)
    (request : OperationRequest) : Registered (Storage.enqueueOperation tenantID request s).2 := by
  have hledger := ledger_enqueueOperation tenantID request s
  rw [enqueueOperation_apply] at hledger ⊢
  cases hdevice : s.devices.lookup (newDeviceKey tenantID request.eid) with
  | none => exact h
  | some device =>
      rw [hdevice] at hledger
      rcases hledger with hsame | hqueued
      · exact h.congr hsame fun key hkey => isSome_lookup_insert hkey
      · intro id e he
        rw [hqueued] at he
        rcases Ledger.enqueue_entries he with ⟨-, rfl⟩ | hold
        · simp [Store.enqueued]
        · exact isSome_lookup_insert (h id e hold)

variable {S : Service} {H : Handler}

theorem unaffected_devices : Unaffected Store.devices where
  state _ _ _ _ := rfl
  notifications _ _ := rfl
  record _ _ := keeps_recordEUICCPackageResult fun _ _ _ => rfl

theorem Writes.registered {event : Event} {s s' : Store} (hwrites : Writes H event s s')
    (h : Registered s) : Registered s' := by
  cases hwrites with
  | none => exact h
  | device => exact fun id e he => isSome_lookup_insert (h id e he)
  | enqueue tenantID request => exact h.enqueueOperation tenantID request
  | config => exact h
  | associate tenantID eid config =>
      have hstate : IgnoresState Store.devices tenantID eid :=
        ignoresState_of_forall fun _ _ _ _ => rfl
      refine h.congr ((unaffected_ledger.ignoresState tenantID eid).setAssociatedConfig _ config s)
        fun key hkey => ?_
      rwa [hstate.setAssociatedConfig _ config s]
  | message =>
      refine h.congr (unaffected_ledger.dispatch _ s) fun key hkey => ?_
      rwa [unaffected_devices.dispatch _ s]

theorem registered_after (events : List Event) :
    Registered (Run.after (step S H) System.new events).store := by
  refine Run.invariant (P := fun y : System => Registered y.store)
    (fun y event h => (writes_step S H y event).registered h) ?_ events
  intro id e he
  cases he

/-! ## Results with and without a signature -/

/-- The message carries a signed result for the operation that verifies under the key of its
device, to be recorded with the status and the payload. -/
def Authenticates (H : Handler) (s : Store) (tlv : Tlv) (operation : Operation)
    (status : OperationStatus) (payload : Bytes) : Prop :=
  ∃ eid raw, ∃ r : PackageReading H s eid raw, ∃ publicKey domain,
    Delivers H s tlv eid raw ∧ marshalBinary H.bertlv raw = .ok payload ∧
    r.operation = operation ∧ r.publicKey = some publicKey ∧
    (verifiedOperationResult H r.operation eid r.resultDER publicKey s).1 = .ok (domain, status) ∧
    ∃ signature request token checked, r.result.signature = some signature ∧
      checkedOctets H.bertlv (verificationInput request r.resultDER publicKey token) =
        .ok checked ∧
      verifySignedBytes H.crypto publicKey checked signature = .ok ()

/-- The identifiers that a result without a signature is correlated by. -/
inductive UnsignedIdentifiers (H : Handler) (raw : Tlv) : Bytes → Bytes → Prop
  | packageError {resultTLV : Tlv} {list : Option Tlv} {error : EuiccPackageErrorUnsigned}
      (hsplit : splitResult raw = .ok (resultTLV, list))
      (hdecode : EuiccPackageResult.unmarshalBERTLV H.bertlv resultTLV = .ok (.errorUnsigned error)) :
      UnsignedIdentifiers H raw error.eimID (error.eimTransactionID.getD [])
  | responseError {result : EimPackageResult} {error : EimPackageResultResponseError}
      (hdecode : EimPackageResult.unmarshalBERTLV H.bertlv raw = .ok result)
      (herror : result.choice = .error error) :
      UnsignedIdentifiers H raw [] (error.eimTransactionID.getD [])

/-- A result without a signature names no completed package: it has no identifiers, or those of a
pending package, or those of no package that is done. -/
def NamesNoDone (H : Handler) (s : Store) (tlv : Tlv) : Prop :=
  ∀ eid raw eimID transactionID, Delivers H s tlv eid raw →
    UnsignedIdentifiers H raw eimID transactionID →
    (eimID = [] ∧ transactionID = []) ∨
    (∃ operation ∈ s.pending (H.device eid) 10000,
      CarriesPackage H operation eimID 0 transactionID) ∨
    ∀ operation ∈ s.queue (H.device eid) 10000, operation.status = .done →
      ¬ CarriesPackage H operation eimID 0 transactionID

section

variable {tlv raw : Tlv} {eid : Bytes}

theorem not_rejects_of_statusOf {result : Except Error Result}
    {status : Option Result × OperationStatus} (h : statusOf result = .ok status) :
    ¬ ∃ e, result = .error e ∧ Rejects e := by
  rintro ⟨e, rfl, hrejects⟩
  unfold statusOf at h
  split at h
  next heq => exact hrejects _ (Except.error.inj heq)
  next => cases h
  next heq => cases heq

/-- What is recorded for a result of a signed kind has passed the signature check. -/
theorem authenticates_of_verified (hB : H.bertlv.Lawful) (hraw : raw.WellFormed)
    (hdelivers : Delivers H s tlv eid raw) (hpayload : marshalBinary H.bertlv raw = .ok payload)
    (r : PackageReading H s eid raw) {publicKey : PublicKey} {domain : Option Result}
    (hkey : r.publicKey = some publicKey)
    (hverified : (verifiedOperationResult H r.operation eid r.resultDER publicKey s).1 =
      .ok (domain, status))
    {signature : Bytes} (hsigned : r.result.signature = some signature) :
    Authenticates H s tlv r.operation status payload := by
  obtain ⟨request, token, -, -, hstatus⟩ := verifiedOperationResult_eq_ok hverified
  obtain ⟨checked, hchecked, hverify⟩ := checked_of_recordable (not_rejects_of_statusOf hstatus)
    (r.decode_resultDER hB hraw) hsigned rfl
  exact ⟨eid, raw, r, publicKey, domain, hdelivers, hpayload, rfl, hkey, hverified, signature,
    request, token, checked, hsigned, hchecked, hverify⟩

/-- A search without a signature does not find a package that is done. -/
theorem not_done_of_correlated {eimID transactionID : Bytes} (hnames : NamesNoDone H s tlv)
    (hdelivers : Delivers H s tlv eid raw) (hunsigned : UnsignedIdentifiers H raw eimID transactionID)
    (h : Correlated H s eid eimID 0 transactionID operation) : operation.status ≠ .done := by
  cases h with
  | pending hfirst =>
      have hpending := queued_of_mem_pending (firstMatchingEuiccPackage_some hfirst).1
      rw [hpending.2]
      exact nofun
  | completed hpending hgiven hfirst =>
      obtain ⟨hmem, hcarries⟩ := firstMatchingEuiccPackage_some hfirst
      rcases hnames eid raw eimID transactionID hdelivers hunsigned with
        ⟨heim, htransaction⟩ | ⟨first, hfirst, hcarries'⟩ | hnone
      · exact absurd ⟨htransaction, heim, rfl⟩ hgiven
      · exact absurd hcarries' (firstMatchingEuiccPackage_none hpending hfirst)
      · exact fun hdone => hnone operation hmem hdone hcarries

theorem pending_ne_done (h : operation ∈ s.pending key limit) : operation.status ≠ .done := by
  rw [(queued_of_mem_pending h).2]
  exact nofun

/-- What a message records for a package that is done has a verified signature. -/
theorem authenticates_of_records_done (hB : H.bertlv.Lawful)
    (hverify : H.allowUnverifiedEUICCPackageResults = false) (htlv : tlv.WellFormed)
    (hnames : NamesNoDone H s tlv) (hdelivers : Delivers H s tlv eid raw)
    (hpayload : marshalBinary H.bertlv raw = .ok payload)
    (hrecords : Records H s eid raw operation status) (hdone : operation.status = .done) :
    Authenticates H s tlv operation status payload := by
  have hraw := hdelivers.wellFormed htlv
  cases hrecords with
  | verified r hkey hverified =>
      cases hresult : r.result with
      | ok signed =>
          exact authenticates_of_verified hB hraw hdelivers hpayload r hkey hverified
            (by rw [hresult]; rfl)
      | errorSigned error =>
          exact authenticates_of_verified hB hraw hdelivers hpayload r hkey hverified
            (by rw [hresult]; rfl)
      | errorUnsigned error =>
          exfalso
          have hunsigned : UnsignedIdentifiers H raw error.eimID (error.eimTransactionID.getD []) :=
            .packageError r.split_eq (hresult ▸ r.decode_eq)
          have hmatching := r.matching
          rw [hresult] at hmatching
          cases hmatching with
          | correlated h => exact not_done_of_correlated hnames hdelivers hunsigned h hdone
          | firstPending _ hfirst => exact pending_ne_done (List.mem_of_find?_eq_some hfirst) hdone
  | unverified r hkey =>
      obtain ⟨-, publicKey, -, -, hsome⟩ := resolvePublicKey_eq_some hverify r.key_eq
      cases hkey.symm.trans hsome
  | responseError hdecode herror hfailed =>
      exfalso
      cases hfailed with
      | correlated _ h =>
          exact not_done_of_correlated hnames hdelivers (.responseError hdecode herror) h hdone
      | firstPending _ hfirst => exact pending_ne_done (List.mem_of_find?_eq_some hfirst) hdone
  | pending _ hpending => exact absurd hdone (pending_ne_done hpending)

/-- A message with a verified signature sets the outcome. -/
theorem Authenticates.outcome (h : Authenticates H s tlv operation status payload)
    (hnumbered : Numbered (ledger s)) (hregistered : Registered s) :
    outcome (dispatch H tlv s).2 operation.id =
      some (normalizeResultStatus status,
        operation.result (normalizeResultStatus status) payload) := by
  obtain ⟨eid, raw, r, publicKey, domain, hdelivers, hpayload, rfl, hkey, hverified, -⟩ := h
  rw [← hnumbered.outcome_recorded r.queued]
  apply outcome_congr
  rw [dispatch_of_delivers hdelivers, r.recordEimPackageResult_eq hpayload,
    r.book_recordEuiccPackageResult,
    r.book_record_of_verified payload hkey hverified (hregistered.of_queued r.queued)]

/-- A message without a signature leaves the outcome of a package that is done. -/
theorem outcome_dispatch_of_done (hB : H.bertlv.Lawful)
    (hverify : H.allowUnverifiedEUICCPackageResults = false) (htlv : tlv.WellFormed)
    (hnumbered : Numbered (ledger s)) (hnames : NamesNoDone H s tlv)
    (hunsigned : ∀ operation status payload, operation.id = id →
      ¬ Authenticates H s tlv operation status payload)
    {result : EUICCPackageResult} (hdone : outcome s id = some (.done, result)) :
    outcome (dispatch H tlv s).2 id = some (.done, result) := by
  rcases booked_dispatch H s tlv with hbook | ⟨eid, raw, payload, operation, status, hdelivers,
    hpayload, hrecords, hbook⟩
  · rw [outcome_congr hbook, hdone]
  rw [outcome_congr hbook]
  by_cases hid : id = operation.id
  · subst hid
    have hstatus := status_of_outcome hrecords.queued hdone
    exact absurd (authenticates_of_records_done hB hverify htlv hnames hdelivers hpayload hrecords
      hstatus) (hunsigned operation status payload rfl)
  · rw [hnumbered.outcome_recorded_of_ne hrecords.queued hid, hdone]

end

/-! ## Runs -/

theorem outcome_enqueueOperation (hnumbered : Numbered (ledger s)) (tenantID : TenantID)
    (request : OperationRequest) {o : OperationStatus × EUICCPackageResult}
    (h : outcome s id = some o) :
    outcome (enqueueOperation tenantID request s).2 id = some o := by
  rw [enqueueOperation_apply]
  split
  next => exact h
  next device hdevice =>
      obtain ⟨stored, hlookup, -⟩ := Option.bind_eq_some_iff.mp h
      have hentry : (ledger s).entries id = some (entryOf stored.val) := by
        simp only [ledger, hlookup, Option.map_some]
      have hid : id ≠ (s.newOperation device request).id := (hnumbered.id_range hentry).2.ne
      rw [← h, outcome, outcome]
      simp only [Store.enqueued, AList.lookup_insert_ne hid]

/-- No message of the step replaces the outcome of the operation: one without a signature names no
package that is done, and none carries a verified result for the operation. -/
def LeavesDone (H : Handler) (id : Int) (y : System) (event : Event) : Prop :=
  ∀ payload tlv, event = .message payload → decodeRequest H payload = .ok tlv →
    NamesNoDone H y.store tlv ∧ ∀ operation status recorded, operation.id = id →
      ¬ Authenticates H y.store tlv operation status recorded

theorem outcome_step_of_done (hB : H.bertlv.Lawful)
    (hverify : H.allowUnverifiedEUICCPackageResults = false) {y : System} {event : Event}
    (hnumbered : Numbered (ledger y.store)) (hleaves : LeavesDone H id y event)
    {result : EUICCPackageResult} (hdone : outcome y.store id = some (.done, result)) :
    outcome (step S H y event).store id = some (.done, result) := by
  have hwrites := writes_step S H y event
  generalize (step S H y event).store = s' at hwrites ⊢
  cases hwrites with
  | none => exact hdone
  | device => exact hdone
  | enqueue tenantID request => exact outcome_enqueueOperation hnumbered tenantID request hdone
  | config => exact hdone
  | associate tenantID eid config =>
      rwa [outcome_congr ((ignoresState_book tenantID eid).setAssociatedConfig _ config y.store)]
  | message hevent hdecode =>
      obtain ⟨hnames, hunsigned⟩ := hleaves _ _ hevent hdecode
      exact outcome_dispatch_of_done hB hverify (wellFormed_of_decodeRequest hB hdecode) hnumbered
        hnames hunsigned hdone

/-- In every run in which no unsigned result names a package that is done, a package that a verified
result has completed stays done with that result, until another verified result comes for it. -/
theorem authenticated_outcome_final (hB : H.bertlv.Lawful)
    (hverify : H.allowUnverifiedEUICCPackageResults = false) {before later : List Event}
    {message recorded : Bytes} {tlv : Tlv} (hdecode : decodeRequest H message = .ok tlv)
    (hauthentic : Authenticates H (Run.after (step S H) System.new before).store tlv operation .done
      recorded)
    (hleaves : Run.Meets (step S H) (LeavesDone H operation.id)
      (Run.after (step S H) System.new (before ++ [.message message])) later) :
    outcome (Run.after (step S H) System.new (before ++ [.message message] ++ later)).store
      operation.id = some (.done, operation.result .done recorded) := by
  have hnumbered : ∀ events, Numbered (ledger (Run.after (step S H) System.new events).store) :=
    fun events => (accounted_after hB events).numbered
  have hset : outcome (Run.after (step S H) System.new (before ++ [.message message])).store
      operation.id = some (.done, operation.result .done recorded) := by
    have hstate := handleEncodedResponse_of_decoded
      (s := (Run.after (step S H) System.new before).store) hdecode
    rw [Run.after_append, Run.after_cons, Run.after_nil, step, System.act, hstate]
    exact hauthentic.outcome (hnumbered before) (registered_after before)
  rw [Run.after_append]
  refine (hleaves.invariant (P := fun y : System => Numbered (ledger y.store) ∧
    outcome y.store operation.id = some (.done, operation.result .done recorded)) ?_
    ⟨hnumbered _, hset⟩).2
  rintro y event ⟨hy, hdone⟩ hstep
  exact ⟨(moves_step (S := S) hB event).numbered hy,
    outcome_step_of_done hB hverify hy hstep hdone⟩

/-! A package with transaction 07 is completed by its signed result. -/

def sampleEnable : List Event :=
  [.register [] sampleDevice,
    .draw [] sampleDevice [0x07] (.enableProfile (text "89000000000000000000") false), .sign 0,
    .enqueue 0]

def sampleEnabled : Tlv :=
  .constructed tagEuiccPkg [.constructed (contextConstructed 0)
    [.constructed tagSequence
      [.primitive (context 0) (text "eim"), .primitive (context 1) [0x01],
        .primitive (context 2) [0x07], .primitive (context 3) [0x05],
        .constructed tagSequence [.primitive (context 3) [0x00]]],
      .primitive tagSignature []]]

/-- A response error with a transaction. -/
def sampleResponseError (transactionID : UInt8) : Tlv :=
  .constructed (contextConstructed 0)
    [.primitive (context 0) [transactionID], .primitive tagInteger [0x01]]

def sampleOctets (tlv : Tlv) : Bytes := (marshalBinary .reference tlv).toOption.getD []

def sampleWire (raw : Tlv) : Bytes := sampleOctets (sampleMessage raw)

def sampleEnableOperation : Operation :=
  sampleQueued ([0xa0, 0x0e, 0xa3, 0x0c, 0x5a, 0x0a, 0x89] ++ List.replicate 9 0x00)

def sampleReading :
    PackageReading sampleHandler (sampleSystem sampleEnable).store sampleDevice sampleEnabled where
  resultTLV := sampleEnabled
  notificationList := none
  result := .ok ⟨⟨text "eim", 1, some [0x07], 5, [⟨.primitive (context 3) [0x00]⟩]⟩, []⟩
  resultDER := sampleOctets sampleEnabled
  publicKey := some (.ecdsa ⟨256, 0, 0⟩)
  operation := sampleEnableOperation
  split_eq := rfl
  decode_eq := rfl
  marshal_eq := rfl
  key_eq := rfl
  match_eq := by decide +kernel

theorem decodeRequest_sampleEnabled :
    decodeRequest sampleHandler (sampleWire sampleEnabled) = .ok (sampleMessage sampleEnabled) := by
  decide +kernel

theorem authenticates_sampleEnabled :
    Authenticates sampleHandler (sampleSystem sampleEnable).store (sampleMessage sampleEnabled)
      sampleEnableOperation .done (sampleOctets sampleEnabled) := by
  have hstatus : ((verifiedOperationResult sampleHandler sampleEnableOperation sampleDevice
      (sampleOctets sampleEnabled) (.ecdsa ⟨256, 0, 0⟩) (sampleSystem sampleEnable).store).1.map
        Prod.snd).toOption = some .done := by
    decide +kernel
  cases hverified : (verifiedOperationResult sampleHandler sampleEnableOperation sampleDevice
      (sampleOctets sampleEnabled) (.ecdsa ⟨256, 0, 0⟩) (sampleSystem sampleEnable).store).1 with
  | error e =>
      rw [hverified] at hstatus
      cases hstatus
  | ok verified =>
      rw [hverified] at hstatus
      obtain ⟨domain, status⟩ := verified
      obtain rfl : status = .done := Option.some.inj hstatus
      have hdelivers : Delivers sampleHandler (sampleSystem sampleEnable).store
          (sampleMessage sampleEnabled) sampleDevice sampleEnabled := .provide rfl rfl rfl rfl
      have hwf := hdelivers.wellFormed
        (wellFormed_of_decodeRequest Bertlv.reference_lawful decodeRequest_sampleEnabled)
      exact authenticates_of_verified Bertlv.reference_lawful hwf hdelivers rfl sampleReading rfl
        hverified rfl

/-- The transaction of a response error that the sample device sends. -/
theorem unsignedIdentifiers_sampleResponseError {transactionID : UInt8} {eimID identifier : Bytes}
    (h : UnsignedIdentifiers sampleHandler (sampleResponseError transactionID) eimID identifier) :
    eimID = [] ∧ identifier = [transactionID] := by
  cases h with
  | packageError hsplit hdecode =>
      obtain ⟨rfl, -⟩ := Prod.mk.inj (Except.ok.inj hsplit)
      cases hdecode
  | responseError hdecode herror =>
      obtain rfl := Except.ok.inj hdecode
      obtain rfl := EimPackageResultChoice.error.inj herror
      exact ⟨rfl, rfl⟩

theorem leavesDone_sampleResponseError :
    LeavesDone sampleHandler sampleEnableOperation.id
      (sampleSystem (sampleEnable ++ [.message (sampleWire sampleEnabled)]))
      (.message (sampleWire (sampleResponseError 0x09))) := by
  intro payload tlv hevent hdecode
  obtain rfl := Event.message.inj hevent
  obtain rfl : sampleMessage (sampleResponseError 0x09) = tlv := Except.ok.inj hdecode
  have hdelivers : Delivers sampleHandler
      (sampleSystem (sampleEnable ++ [.message (sampleWire sampleEnabled)])).store
      (sampleMessage (sampleResponseError 0x09)) sampleDevice (sampleResponseError 0x09) :=
    .provide rfl rfl rfl rfl
  constructor
  · intro eid raw eimID transactionID hdelivers' hunsigned
    obtain ⟨rfl, rfl⟩ := hdelivers'.unique hdelivers
    obtain ⟨rfl, rfl⟩ := unsignedIdentifiers_sampleResponseError hunsigned
    refine .inr (.inr fun operation hmem _ => ?_)
    refine firstMatchingEuiccPackage_none ?_ hmem
    decide +kernel
  · rintro operation status recorded - ⟨eid, raw, r, -, -, hdelivers', -⟩
    obtain ⟨rfl, rfl⟩ := hdelivers'.unique hdelivers
    exact absurd r.tag_raw (by decide)

theorem authenticated_outcome_final_other_transaction :
    outcome (sampleSystem (sampleEnable ++ [.message (sampleWire sampleEnabled)] ++
      [.message (sampleWire (sampleResponseError 0x09))])).store sampleEnableOperation.id =
        some (.done, sampleEnableOperation.result .done (sampleOctets sampleEnabled)) := by
  have hmeets : Run.Meets (step sampleService sampleHandler)
      (LeavesDone sampleHandler sampleEnableOperation.id)
      (sampleSystem (sampleEnable ++ [.message (sampleWire sampleEnabled)]))
      [.message (sampleWire (sampleResponseError 0x09))] :=
    ⟨leavesDone_sampleResponseError, trivial⟩
  exact authenticated_outcome_final Bertlv.reference_lawful rfl decodeRequest_sampleEnabled
    authenticates_sampleEnabled hmeets

/-- A response error with the transaction of a completed package fails the package. -/
theorem done_replaced_by_response_error :
    Authenticates sampleHandler (sampleSystem sampleEnable).store (sampleMessage sampleEnabled)
      sampleEnableOperation .done (sampleOctets sampleEnabled) ∧
    outcome (sampleSystem (sampleEnable ++ [.message (sampleWire sampleEnabled)])).store 1 =
      some (.done, sampleEnableOperation.result .done (sampleOctets sampleEnabled)) ∧
    outcome (sampleSystem (sampleEnable ++ [.message (sampleWire sampleEnabled),
      .message (sampleWire (sampleResponseError 0x07))])).store 1 =
        some (.failed, sampleEnableOperation.result .failed
          (sampleOctets (sampleResponseError 0x07))) := by
  refine ⟨authenticates_sampleEnabled, ?_, ?_⟩
  · decide +kernel
  · decide +kernel

end OpenIotRsp.Server
