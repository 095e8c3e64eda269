import OpenIotRsp.Verification.Server.Polling

/-!
# Answers with an error

An IPA polls, is sent an operation, and answers that it could not process it.
The answer is taken for a pending package of the device that it names, so it is
the one that was sent if that was a package and the answer has the EID.
-/

namespace OpenIotRsp.Server

open Octets Ber Stateful Asn1 Storage Euiccpkg Api Esipa

variable {request : EuiccPackageRequest}

/-! ## Sessions -/

/-- The server, with what each device was sent and has not answered, and the identifiers of all the
operations that were ever sent. -/
structure Session where
  system : System
  outstanding : Bytes → Option Operation
  delivered : List Int

def Session.new : Session := ⟨System.new, fun _ => none, []⟩

inductive Act where
  | api (event : Event)
  | poll (payload : Bytes)
  | answer (eid payload : Bytes)

def Act.event : Act → Event
  | .api event => event
  | .poll payload => .message payload
  | .answer _ payload => .message payload

/-- The operation that a poll is answered with, and the device that polls. -/
def sent (H : Handler) (s : Store) (payload : Bytes) : Option (Bytes × Operation) := do
  let tlv ← (decodeRequest H payload).toOption
  let request ← (GetEimPackageRequest.unmarshalBERTLV H.bertlv tlv).toOption
  let eid ← (eidKey request.eid).toOption
  let _ ← s.devices.lookup (H.device eid)
  let operation ← (selectOperationForGetEimPackage H eid s).1.toOption.join
  if operation.id ≠ 0 ∧ (getEimPackageOperationResponse H operation).isOk then
    some (eid, operation)
  else none

def sessionStep (S : Service) (H : Handler) (x : Session) (act : Act) : Session where
  system := step S H x.system act.event
  outstanding :=
    match act with
    | .api _ => x.outstanding
    | .poll payload =>
        match sent H x.system.store payload with
        | some (eid, operation) => Function.update x.outstanding eid (some operation)
        | none => x.outstanding
    | .answer eid _ => Function.update x.outstanding eid none
  delivered :=
    match act with
    | .poll payload =>
        match sent H x.system.store payload with
        | some (_, operation) => operation.id :: x.delivered
        | none => x.delivered
    | _ => x.delivered

/-- The result that a message provides, with the EID beside it. -/
def provided (H : Handler) (payload : Bytes) : Option ProvideEimPackageResult := do
  let tlv ← (decodeRequest H payload).toOption
  let provideTLV ← provideResultTLV tlv
  (ProvideEimPackageResult.unmarshalBERTLV H.bertlv provideTLV).toOption

/-- The message is the answer of the device that it could not process the operation: the bare code,
or the structured form with the transaction of the operation or without one.  Beside it stands the
EID of the device, or none. -/
structure AnswersError (H : Handler) (eid payload : Bytes) (operation : Operation) (raw : Tlv)
    (error : EimPackageResultResponseError) (recorded : Bytes) : Prop where
  provides : ∃ request, provided H payload = some request ∧ request.eimPackageResult.raw = raw ∧
    (request.eid.getD [] = [] ∨ eidKey (request.eid.getD []) = .ok eid)
  reports : EimPackageResult.unmarshalBERTLV H.bertlv raw = .ok ⟨.error error, raw⟩
  transaction : error.eimTransactionID.getD [] = [] ∨
    error.eimTransactionID.getD [] = transactionOf H operation
  /-- the library encodes what it has decoded -/
  marshals : marshalBinary H.bertlv raw = .ok recorded

/-- Requests of the API, polls, and answers to what the device was sent. -/
def Honest (H : Handler) (x : Session) : Act → Prop
  | .api event => ∀ payload, event ≠ .message payload
  | .poll payload => ∃ tlv, decodeRequest H payload = .ok tlv ∧ tlv.tag = tagGetEimPackage
  | .answer eid payload => ∃ operation raw error recorded, x.outstanding eid = some operation ∧
      AnswersError H eid payload operation raw error recorded

/-- An answer has the EID of its device, and what it is about is a package. -/
def AnswersPackage (H : Handler) (x : Session) : Act → Prop
  | .answer eid payload => (∀ request, provided H payload = some request →
      request.eid.getD [] ≠ []) ∧
      ∀ operation, x.outstanding eid = some operation → operation.kind = .euiccPackage
  | _ => True

/-! ## Requests of the API -/

section

variable {S : Service} {H : Handler} {s s' : Store} {key : DeviceKey} {operation : Operation}
  {event : Event}

theorem queued_enqueueOperation (hnumbered : Numbered (ledger s)) (tenantID : TenantID)
    (request : OperationRequest) (h : Queued s key operation) :
    Queued (enqueueOperation tenantID request s).2 key operation := by
  have hid := (hnumbered.id_range (entries_of_queued h)).2.ne
  rw [enqueueOperation_apply]
  cases hdevice : s.devices.lookup (newDeviceKey tenantID request.eid) with
  | none => exact h
  | some device =>
      obtain ⟨stored, hlookup, hstored, heid⟩ := h
      refine ⟨stored, ?_, hstored, heid⟩
      exact (AList.lookup_insert_ne hid).trans hlookup

/-- A request of the API adds pending operations and leaves the others alone. -/
theorem Writes.queued_of_api (h : Writes H event s s') (hapi : ∀ payload, event ≠ .message payload)
    (hnumbered : Numbered (ledger s)) :
    (Queued s key operation → Queued s' key operation) ∧
      (Queued s' key operation → Queued s key operation ∨ operation.status = .pending) := by
  cases h with
  | none => exact ⟨id, .inl⟩
  | device => exact ⟨id, .inl⟩
  | enqueue tenantID request =>
      exact ⟨queued_enqueueOperation hnumbered tenantID request,
        fun hqueued => (queued_of_enqueueOperation hqueued).imp_right And.right⟩
  | config => exact ⟨id, .inl⟩
  | associate tenantID eid config =>
      have hstate : IgnoresState Store.operations tenantID eid :=
        ignoresState_of_forall fun _ _ _ _ => rfl
      have hkept := hstate.setAssociatedConfig H.bertlv config s
      exact ⟨queued_congr hkept.symm, fun hqueued => .inl (queued_congr hkept hqueued)⟩
  | message hevent => exact absurd hevent (hapi _)

end

/-! ## Polls -/

section

variable {S : Service} {H : Handler} {y : System} {s : Store} {eid payload : Bytes}
  {operation : Operation} {tlv : Tlv}

theorem store_of_poll (hdecode : decodeRequest H payload = .ok tlv)
    (htag : tlv.tag = tagGetEimPackage) : (step S H y (.message payload)).store = y.store := by
  rw [step, System.act, handleEncodedResponse_of_decoded hdecode, dispatch, if_pos htag]
  exact readOnly_handleGetEimPackage H tlv y.store

theorem sent_eq_some (hdecode : decodeRequest H payload = .ok tlv)
    (h : sent H s payload = some (eid, operation)) : Sends H s tlv eid operation := by
  simp only [sent, hdecode, Option.bind_eq_bind] at h
  obtain ⟨message, hmessage, h⟩ := Option.bind_eq_some_iff.mp h
  obtain rfl : tlv = message := Option.some.inj hmessage
  obtain ⟨request, hrequest, h⟩ := Option.bind_eq_some_iff.mp h
  obtain ⟨eid', heid, h⟩ := Option.bind_eq_some_iff.mp h
  obtain ⟨device, hdevice, h⟩ := Option.bind_eq_some_iff.mp h
  obtain ⟨selected, hselected, h⟩ := Option.bind_eq_some_iff.mp h
  split at h
  next hsent =>
      obtain ⟨rfl, rfl⟩ := Prod.mk.inj (Option.some.inj h)
      refine ⟨⟨request, Outcome.toOption_eq_some.mp hrequest,
        Outcome.toOption_eq_some.mp heid⟩, by simp [hdevice], ?_, hsent.1, ?_⟩
      · rw [selectOperationForGetEimPackage_apply] at hselected ⊢
        exact congrArg Except.ok hselected
      · cases hresponse : getEimPackageOperationResponse H selected with
        | error e => simp [hresponse, Except.isOk, Except.toBool] at hsent
        | ok response => exact ⟨response, rfl⟩
  next => cases h

end

/-! ## Answers -/

section

variable {S : Service} {H : Handler} {y : System} {s : Store} {eid payload recorded : Bytes}
  {operation : Operation} {raw : Tlv} {error : EimPackageResultResponseError}

theorem transactionOf_package (hkind : operation.kind = .euiccPackage)
    (hdecode : decodePackage H operation = .ok request) :
    transactionOf H operation = request.euiccPackageSigned.eimTransactionID.getD [] := by
  rw [decodePackage] at hdecode
  simp [transactionOf, operationTransactionID, hkind, hdecode, bind, Except.bind, pure, Except.pure,
    Except.toOption]

/-- The error is recorded for the first pending package, if it has that transaction. -/
theorem recordResponseError_of_first (hregistered : Registered s)
    (hfirst : (s.pending (H.device eid) 10000).find? (fun other => other.kind = .euiccPackage) =
      some operation) (hdecode : decodePackage H operation = .ok request)
    (htransaction : error.eimTransactionID.getD [] = [] ∨
      error.eimTransactionID.getD [] = transactionOf H operation) :
    (recordEimPackageResultResponseError H eid error payload s).2 =
      s.recorded (H.device eid) operation .failed payload := by
  obtain ⟨hqueued, hkind⟩ := queued_of_firstPending hfirst
  have hrecord : recordResult H eid operation .failed payload s =
      (.ok (), s.recorded (H.device eid) operation .failed payload) :=
    (recordEUICCPackageResult_of_queued hqueued).trans (if_pos (hregistered.of_queued hqueued))
  rw [recordEimPackageResultResponseError]
  by_cases hne : error.eimTransactionID.getD [] ≠ []
  · have hcorrelates : correlates request.euiccPackageSigned [] 0
        (error.eimTransactionID.getD []) = true := by
      rw [transactionOf_package hkind hdecode] at htransaction
      simp [correlates, htransaction.resolve_left hne]
    rw [if_pos hne, bind_of_ok (matchPending_of_first hfirst hdecode hcorrelates),
      bind_state_of_readOnly fun _ => keeps_pure id _]
    exact congrArg Prod.snd hrecord
  · rw [if_neg hne, bind_of_ok (firstPending_of_first hfirst),
      bind_state_of_readOnly fun _ => keeps_pure id _]
    exact congrArg Prod.snd hrecord

theorem tag_of_reports (h : EimPackageResult.unmarshalBERTLV H.bertlv raw = .ok ⟨.error error, raw⟩) :
    raw.tag = tagInteger ∨ raw.tag = contextConstructed 0 := by
  rw [EimPackageResult.unmarshalBERTLV] at h
  split at h
  next hallowed =>
      obtain ⟨choice, hchoice, h⟩ := Outcome.bind_eq_ok.mp h
      obtain ⟨rfl, -⟩ := EimPackageResult.mk.inj (Except.ok.inj h)
      simp only [isEimPackageResultTLV, decide_eq_true_eq] at hallowed
      rw [EimPackageResult.unmarshalChoice] at hchoice
      rcases hallowed with htag | htag | htag | htag | htag | ⟨htag, -⟩
      · rw [if_pos htag] at hchoice
        obtain ⟨result, -, hchoice⟩ := Outcome.bind_eq_ok.mp hchoice
        cases hchoice
      · rw [htag, if_neg (by decide), if_neg (by decide), if_pos rfl] at hchoice
        obtain ⟨response, -, hchoice⟩ := Outcome.bind_eq_ok.mp hchoice
        cases hchoice
      · rw [htag, if_neg (by decide), if_neg (by decide), if_neg (by decide), if_pos rfl] at hchoice
        obtain ⟨result, -, hchoice⟩ := Outcome.bind_eq_ok.mp hchoice
        cases hchoice
      · exact .inr htag
      · exact .inl htag
      · rw [htag, if_neg (by decide), if_pos rfl] at hchoice
        obtain ⟨result, -, hchoice⟩ := Outcome.bind_eq_ok.mp hchoice
        obtain ⟨notifications, -, hchoice⟩ := Outcome.bind_eq_ok.mp hchoice
        cases hchoice
  next => cases h

/-- An answer with the EID of the device is delivered for that device, whatever the store holds. -/
theorem AnswersError.delivers (h : AnswersError H eid payload operation raw error recorded)
    (hnamed : ∀ request, provided H payload = some request → request.eid.getD [] ≠ [])
    (s : Store) : ∃ tlv, decodeRequest H payload = .ok tlv ∧ Delivers H s tlv eid raw := by
  obtain ⟨request, hprovided, hraw, heid⟩ := h.provides
  have hne := hnamed request hprovided
  obtain ⟨tlv, htlv, hprovided⟩ := Option.bind_eq_some_iff.mp hprovided
  obtain ⟨provideTLV, hprovide, hdecode⟩ := Option.bind_eq_some_iff.mp hprovided
  refine ⟨tlv, Outcome.toOption_eq_some.mp htlv,
    .provide hprovide (Outcome.toOption_eq_some.mp hdecode) hraw ?_⟩
  rw [resolveProvideResultEID, if_pos hne, heid.resolve_left hne]
  rfl

theorem store_of_answer (hregistered : Registered y.store)
    (hfirst : (y.store.pending (H.device eid) 10000).find?
      (fun other => other.kind = .euiccPackage) = some operation)
    (hdecode : decodePackage H operation = .ok request)
    (hanswer : AnswersError H eid payload operation raw error recorded)
    (hnamed : ∀ request, provided H payload = some request → request.eid.getD [] ≠ []) :
    (step S H y (.message payload)).store =
      y.store.recorded (H.device eid) operation .failed recorded := by
  obtain ⟨tlv, htlv, hdelivers⟩ := hanswer.delivers hnamed y.store
  have htag := tag_of_reports hanswer.reports
  have htrigger : raw.tag ≠ tagDownloadTrig := by
    rcases htag with htag | htag <;> rw [htag] <;> decide
  have hdata : raw.tag ≠ tagIpaEuiccData := by
    rcases htag with htag | htag <;> rw [htag] <;> decide
  rw [step, System.act, handleEncodedResponse_of_decoded htlv, dispatch_of_delivers hdelivers,
    recordEimPackageResult, ofExcept_bind_of_ok _ _ hanswer.marshals, if_neg htrigger,
    if_neg hdata, if_pos htag, recordEimPackageResultError,
    ofExcept_bind_of_ok _ _ hanswer.reports]
  exact recordResponseError_of_first hregistered hfirst hdecode hanswer.transaction

end

/-- An operation belongs to one device. -/
theorem device_eq_of_queued {s : Store} {key key' : DeviceKey} {a b : Operation}
    (ha : Queued s key a) (hb : Queued s key' b) (hid : a.id = b.id) : key = key' := by
  have hentry := entries_of_queued ha
  rw [hid, entries_of_queued hb] at hentry
  exact (congrArg Entry.device (Option.some.inj hentry)).symm

/-- After a result was recorded, the operation has the new status and the others are as before. -/
theorem queued_recorded_iff {s : Store} (hnumbered : Numbered (ledger s)) {key key' : DeviceKey}
    {operation other : Operation} (hqueued : Queued s key operation) (status : OperationStatus)
    (payload : Bytes) :
    Queued (s.recorded key operation status payload) key' other ↔
      if other.id = operation.id then
        key' = key ∧ other = { operation with status := normalizeResultStatus status }
      else Queued s key' other := by
  have hoperations : (s.recorded key operation status payload).operations =
      s.operations.insert operation.id
        ⟨⟨key.tenantID, { operation with status := normalizeResultStatus status }⟩, rfl⟩ :=
    congrArg Prod.fst (book_recorded (hnumbered.id_ne_zero hqueued) hqueued status payload)
  have heid := hqueued.choose_spec.2.2
  rw [Queued, hoperations]
  split
  next hid =>
      obtain ⟨id, eid, sequenceNumber, kind, body, otherStatus⟩ := other
      obtain rfl : id = operation.id := hid
      rw [AList.lookup_insert]
      constructor
      · rintro ⟨stored, hstored, hvalue, hother⟩
        obtain rfl := Option.some.inj hstored
        obtain ⟨htenant, hoperation⟩ := MemoryOperation.mk.inj hvalue
        refine ⟨?_, hoperation.symm⟩
        have heid' : operation.eid = eid := congrArg Operation.eid hoperation
        cases key
        cases key'
        simp_all
      · rintro ⟨rfl, hoperation⟩
        exact ⟨_, rfl, congrArg (MemoryOperation.mk key'.tenantID) hoperation.symm,
          (congrArg Operation.eid hoperation).trans heid⟩
  next hid => rw [AList.lookup_insert_ne hid, Queued]

/-! ## Runs -/

/-- What a device was sent is still the first of its packages, and what has failed was sent. -/
structure Tracked (H : Handler) (x : Session) : Prop where
  numbered : Numbered (ledger x.system.store)
  registered : Registered x.system.store
  outstanding : ∀ {eid operation}, x.outstanding eid = some operation →
    operation.kind = .euiccPackage →
      (x.system.store.pending (H.device eid) 100).find? (fun other => other.kind = .euiccPackage) =
        some operation ∧
      (∃ request, decodePackage H operation = .ok request) ∧ operation.id ∈ x.delivered
  failed : ∀ {key operation}, Queued x.system.store key operation → operation.status = .failed →
    operation.id ∈ x.delivered

theorem tracked_new (H : Handler) : Tracked H Session.new where
  numbered := by
    constructor
    · exact le_refl _
    all_goals
      intros
      contradiction
  registered := by
    intro id e h
    cases h
  outstanding := by
    intro eid operation h
    cases h
  failed := by
    rintro key operation ⟨stored, hlookup, -⟩
    cases hlookup

section

variable {S : Service} {H : Handler} {x : Session}

theorem Tracked.api (hB : H.bertlv.Lawful) (h : Tracked H x) {event : Event}
    (hapi : ∀ payload, event ≠ .message payload) : Tracked H (sessionStep S H x (.api event)) := by
  have hnumbered' := (moves_step (S := S) hB event).numbered h.numbered
  have hwrites := writes_step S H x.system event
  constructor
  case numbered => exact hnumbered'
  case registered => exact hwrites.registered h.registered
  case outstanding =>
    intro eid operation houtstanding hkind
    obtain ⟨hfirst, hdecode, hdelivered⟩ := h.outstanding houtstanding hkind
    have hqueued := (queued_of_mem_pending (List.mem_of_find?_eq_some hfirst)).1
    have hstill := (hwrites.queued_of_api hapi h.numbered).1 hqueued
    exact ⟨(later_step hB h.numbered event).find?_pending h.numbered hnumbered' hfirst hstill
      (le_refl _), hdecode, hdelivered⟩
  case failed =>
    intro key operation hqueued hfailed
    rcases (hwrites.queued_of_api hapi h.numbered).2 hqueued with hold | hpending
    · exact h.failed hold hfailed
    · rw [hfailed] at hpending
      cases hpending

theorem Tracked.poll (h : Tracked H x) {payload : Bytes} {tlv : Tlv}
    (hdecode : decodeRequest H payload = .ok tlv) (htag : tlv.tag = tagGetEimPackage) :
    Tracked H (sessionStep S H x (.poll payload)) := by
  have hstore : (sessionStep S H x (.poll payload)).system.store = x.system.store :=
    store_of_poll (S := S) hdecode htag
  have hdelivered : ∀ id ∈ x.delivered, id ∈ (sessionStep S H x (.poll payload)).delivered := by
    intro id hid
    simp only [sessionStep]
    split
    next => exact List.mem_cons_of_mem _ hid
    next => exact hid
  have houtstanding : ∀ eid operation,
      (sessionStep S H x (.poll payload)).outstanding eid = some operation →
        x.outstanding eid = some operation ∨ Sends H x.system.store tlv eid operation ∧
          operation.id ∈ (sessionStep S H x (.poll payload)).delivered := by
    intro eid operation hsome
    simp only [sessionStep] at hsome ⊢
    cases hsent : sent H x.system.store payload with
    | none =>
        rw [hsent] at hsome
        exact .inl hsome
    | some delivery =>
        obtain ⟨polled, first⟩ := delivery
        rw [hsent] at hsome
        dsimp only at hsome
        by_cases heid : eid = polled
        · subst heid
          rw [Function.update_self] at hsome
          obtain rfl := Option.some.inj hsome
          exact .inr ⟨sent_eq_some hdecode hsent, List.mem_cons_self⟩
        · rw [Function.update_of_ne heid] at hsome
          exact .inl hsome
  constructor
  case numbered => rw [hstore]; exact h.numbered
  case registered => rw [hstore]; exact h.registered
  case outstanding =>
    intro eid operation hsome hkind
    rw [hstore]
    rcases houtstanding eid operation hsome with hold | ⟨hsends, hid⟩
    · obtain ⟨hfirst, hpackage, hid⟩ := h.outstanding hold hkind
      exact ⟨hfirst, hpackage, hdelivered _ hid⟩
    · refine ⟨?_, hsends.package_decodes hkind, hid⟩
      simpa [hkind] using hsends.first
  case failed =>
    intro key operation hqueued hfailed
    rw [hstore] at hqueued
    exact hdelivered _ (h.failed hqueued hfailed)

theorem Tracked.answer (hB : H.bertlv.Lawful) (h : Tracked H x) {eid payload recorded : Bytes}
    {operation : Operation} {raw : Tlv} {error : EimPackageResultResponseError}
    (houtstanding : x.outstanding eid = some operation)
    (hpackage : AnswersPackage H x (.answer eid payload))
    (hanswer : AnswersError H eid payload operation raw error recorded) :
    Tracked H (sessionStep S H x (.answer eid payload)) ∧
      Queued (sessionStep S H x (.answer eid payload)).system.store (H.device eid)
        { operation with status := .failed } := by
  obtain ⟨hnamed, hkind⟩ := hpackage
  obtain ⟨hfirst, ⟨request, hdecode⟩, hdelivered⟩ :=
    h.outstanding houtstanding (hkind operation houtstanding)
  have hqueued := (queued_of_mem_pending (List.mem_of_find?_eq_some hfirst)).1
  have hfirst' : (x.system.store.pending (H.device eid) 10000).find?
      (fun other => other.kind = .euiccPackage) = some operation :=
    (Later.refl _).find?_pending h.numbered h.numbered hfirst hqueued (by decide)
  have hstore : (sessionStep S H x (.answer eid payload)).system.store =
      x.system.store.recorded (H.device eid) operation .failed recorded :=
    store_of_answer (S := S) h.registered hfirst' hdecode hanswer hnamed
  have hrecorded : ∀ key other, Queued (x.system.store.recorded (H.device eid) operation .failed
      recorded) key other ↔ _ := fun key other =>
    queued_recorded_iff h.numbered hqueued .failed recorded
  have hnumbered' := (moves_step (S := S) hB (.message payload)).numbered h.numbered
  refine ⟨?_, ?_⟩
  · constructor
    case numbered => exact hnumbered'
    case registered => exact (writes_step S H x.system (.message payload)).registered h.registered
    case outstanding =>
      intro other pending hsome hpackage
      have hne : other ≠ eid := by
        rintro rfl
        simp [sessionStep] at hsome
      have hother : x.outstanding other = some pending := by
        simpa [sessionStep, Function.update_of_ne hne] using hsome
      obtain ⟨hpending, hpackage', hid⟩ := h.outstanding hother hpackage
      have hpendingQueued := (queued_of_mem_pending (List.mem_of_find?_eq_some hpending)).1
      have hstill : Queued (sessionStep S H x (.answer eid payload)).system.store (H.device other)
          pending := by
        rw [hstore, hrecorded, if_neg ?_]
        · exact hpendingQueued
        · -- operations of different devices are different
          intro hid
          exact hne (congrArg DeviceKey.eid (device_eq_of_queued hpendingQueued hqueued hid))
      exact ⟨(later_step hB h.numbered (.message payload)).find?_pending h.numbered hnumbered'
        hpending hstill (le_refl _), hpackage', hid⟩
    case failed =>
      intro key other hother hfailed
      rw [hstore, hrecorded] at hother
      split at hother
      next hid => exact hid ▸ hdelivered
      next => exact h.failed hother hfailed
  · rw [hstore, hrecorded, if_pos rfl]
    exact ⟨rfl, rfl⟩

theorem tracked_step (hB : H.bertlv.Lawful) (h : Tracked H x) {act : Act} (hhonest : Honest H x act)
    (hpackage : AnswersPackage H x act) : Tracked H (sessionStep S H x act) := by
  cases act with
  | api event => exact h.api hB hhonest
  | poll payload =>
      obtain ⟨tlv, hdecode, htag⟩ := hhonest
      exact h.poll hdecode htag
  | answer eid payload =>
      obtain ⟨operation, raw, error, recorded, houtstanding, hanswer⟩ := hhonest
      exact (h.answer hB houtstanding hpackage hanswer).1

/-- In every run of API requests and devices that poll and answer with an error, if only packages
are answered so and the answers have the EID, an answer fails the package that was sent, and what has
failed was sent before. -/
theorem error_answers_fail_sent (hB : H.bertlv.Lawful) {acts : List Act}
    (hrun : Run.Meets (sessionStep S H) (fun x act => Honest H x act ∧ AnswersPackage H x act)
      Session.new acts) :
    (∀ key operation, Queued (Run.after (sessionStep S H) Session.new acts).system.store key
        operation → operation.status = .failed →
      operation.id ∈ (Run.after (sessionStep S H) Session.new acts).delivered) ∧
    ∀ before eid payload operation, acts = before ++ [.answer eid payload] →
      (Run.after (sessionStep S H) Session.new before).outstanding eid = some operation →
      Queued (Run.after (sessionStep S H) Session.new acts).system.store (H.device eid)
        { operation with status := .failed } := by
  have htracked : ∀ acts, Run.Meets (sessionStep S H)
      (fun x act => Honest H x act ∧ AnswersPackage H x act) Session.new acts →
      Tracked H (Run.after (sessionStep S H) Session.new acts) := fun acts hrun =>
    hrun.invariant (P := Tracked H) (fun x act h hact => tracked_step hB h hact.1 hact.2)
      (tracked_new H)
  refine ⟨fun key operation => (htracked acts hrun).failed, ?_⟩
  rintro before eid payload operation rfl houtstanding
  obtain ⟨hbefore, ⟨hhonest, hpackage⟩, -⟩ := Run.meets_append.mp hrun
  obtain ⟨sentBefore, raw, error, recorded, houtstanding', hanswer⟩ := hhonest
  obtain rfl := Option.some.inj (houtstanding'.symm.trans houtstanding)
  rw [Run.after_append]
  exact ((htracked before hbefore).answer hB houtstanding hpackage hanswer).2

end

/-! The sample device polls, and another package is queued before it answers. -/

def sampleSession (acts : List Act) : Session :=
  Run.after (sessionStep sampleService sampleHandler) Session.new acts

/-- The requests, a poll, and requests after the poll. -/
def samplePolled (before after : List Event) : List Act :=
  before.map .api ++ [.poll (sampleOctets samplePoll)] ++ after.map .api

theorem decodeRequest_samplePoll :
    decodeRequest sampleHandler (sampleOctets samplePoll) = .ok samplePoll := by
  decide +kernel

theorem provided_sampleError : provided sampleHandler (sampleWire (sampleResponseError 0x07)) =
    some ⟨some sampleEID, .error ⟨some [0x07], 1⟩, sampleResponseError 0x07⟩ := by
  decide +kernel

theorem error_answers_fail_sent_shared :
    Queued (sampleSession (samplePolled sampleEnable sampleShared ++
        [.answer sampleDevice (sampleWire (sampleResponseError 0x07))])).system.store
      (sampleHandler.device sampleDevice) { sampleEnableOperation with status := .failed } := by
  have houtstanding : (sampleSession (samplePolled sampleEnable sampleShared)).outstanding
      sampleDevice = some sampleEnableOperation := by
    decide +kernel
  have hanswers : AnswersError sampleHandler sampleDevice
      (sampleWire (sampleResponseError 0x07)) sampleEnableOperation (sampleResponseError 0x07)
      ⟨some [0x07], 1⟩ (sampleOctets (sampleResponseError 0x07)) :=
    ⟨⟨_, provided_sampleError, rfl, .inr rfl⟩, rfl, .inr (by decide +kernel), rfl⟩
  have hrun : Run.Meets (sessionStep sampleService sampleHandler)
      (fun x act => Honest sampleHandler x act ∧ AnswersPackage sampleHandler x act) Session.new
      (samplePolled sampleEnable sampleShared ++
        [.answer sampleDevice (sampleWire (sampleResponseError 0x07))]) := by
    refine Run.meets_append.mpr ⟨?_, ⟨⟨_, _, _, _, houtstanding, hanswers⟩, ?_, ?_⟩, trivial⟩
    · exact ⟨⟨nofun, trivial⟩, ⟨nofun, trivial⟩, ⟨nofun, trivial⟩, ⟨nofun, trivial⟩,
        ⟨⟨samplePoll, decodeRequest_samplePoll, rfl⟩, trivial⟩, ⟨nofun, trivial⟩, ⟨nofun, trivial⟩,
        ⟨nofun, trivial⟩, trivial⟩
    · intro request hrequest
      obtain rfl := Option.some.inj (provided_sampleError.symm.trans hrequest)
      decide
    · intro operation hoperation
      obtain rfl := Option.some.inj (houtstanding.symm.trans hoperation)
      rfl
  exact (error_answers_fail_sent Bertlv.reference_lawful hrun).2 _ _ _ _ rfl houtstanding

def sampleTriggered : List Act :=
  samplePolled [.register [] sampleDevice,
    .enqueueTrigger [] sampleDevice [0xbf, 0x54, 0x03, 0x82, 0x01, 0x07]] sampleShared

def sampleTriggeredOperation : Operation :=
  ⟨1, sampleDevice, 1, .profileDownloadTrigger, [0xbf, 0x54, 0x03, 0x82, 0x01, 0x07], .pending⟩

/-- The structured answer, without the EID of the device. -/
def sampleUnnamed : Bytes :=
  sampleOctets (.constructed tagProvideEimResult [sampleResponseError 0x07])

/-- The identifiers, kinds and states of the operations of the device. -/
def sampleStates (acts : List Act) : List (Int × Storage.OperationKind × OperationStatus) :=
  ((sampleSession acts).system.store.queue (sampleHandler.device sampleDevice) 10).map
    fun operation => (operation.id, operation.kind, operation.status)

/-- A trigger is sent, a package is queued, and the code with which the device answers fails the
package, that was never sent.  And a package is sent, and the answer to it without the EID is lost. -/
theorem error_answer_fails_package_never_sent :
    (Run.Meets (sessionStep sampleService sampleHandler) (Honest sampleHandler) Session.new
      (sampleTriggered ++ [.answer sampleDevice (sampleWire (.primitive tagInteger [0x01]))]) ∧
    (sampleSession sampleTriggered).outstanding sampleDevice = some sampleTriggeredOperation ∧
    (sampleSession (sampleTriggered ++
      [.answer sampleDevice (sampleWire (.primitive tagInteger [0x01]))])).delivered = [1] ∧
    sampleStates (sampleTriggered ++
      [.answer sampleDevice (sampleWire (.primitive tagInteger [0x01]))]) =
        [(1, .profileDownloadTrigger, .pending), (2, .euiccPackage, .failed)]) ∧
    Run.Meets (sessionStep sampleService sampleHandler) (Honest sampleHandler) Session.new
      (samplePolled sampleEnable [] ++ [.answer sampleDevice sampleUnnamed]) ∧
    (sampleSession (samplePolled sampleEnable [])).outstanding sampleDevice =
      some sampleEnableOperation ∧
    sampleStates (samplePolled sampleEnable [] ++ [.answer sampleDevice sampleUnnamed]) =
      [(1, .euiccPackage, .pending)] := by
  have htriggered : (sampleSession sampleTriggered).outstanding sampleDevice =
      some sampleTriggeredOperation := by
    decide +kernel
  have hcode : AnswersError sampleHandler sampleDevice (sampleWire (.primitive tagInteger [0x01]))
      sampleTriggeredOperation (.primitive tagInteger [0x01]) ⟨none, 1⟩
      (sampleOctets (.primitive tagInteger [0x01])) :=
    ⟨⟨⟨some sampleEID, .error ⟨none, 1⟩, .primitive tagInteger [0x01]⟩, by decide +kernel, rfl,
      .inr rfl⟩, rfl, .inl rfl, rfl⟩
  have henabled : (sampleSession (samplePolled sampleEnable [])).outstanding sampleDevice =
      some sampleEnableOperation := by
    decide +kernel
  have hunnamed : AnswersError sampleHandler sampleDevice sampleUnnamed sampleEnableOperation
      (sampleResponseError 0x07) ⟨some [0x07], 1⟩ (sampleOctets (sampleResponseError 0x07)) :=
    ⟨⟨⟨none, .error ⟨some [0x07], 1⟩, sampleResponseError 0x07⟩, by decide +kernel, rfl, .inl rfl⟩,
      rfl, .inr (by decide +kernel), rfl⟩
  refine ⟨⟨Run.meets_append.mpr ⟨?_, ⟨_, _, _, _, htriggered, hcode⟩, trivial⟩, htriggered, ?_, ?_⟩,
    Run.meets_append.mpr ⟨?_, ⟨_, _, _, _, henabled, hunnamed⟩, trivial⟩, henabled, ?_⟩
  · exact ⟨nofun, nofun, ⟨samplePoll, decodeRequest_samplePoll, rfl⟩, nofun, nofun, nofun, trivial⟩
  · decide +kernel
  · decide +kernel
  · exact ⟨nofun, nofun, nofun, nofun, ⟨samplePoll, decodeRequest_samplePoll, rfl⟩, trivial⟩
  · decide +kernel

end OpenIotRsp.Server
