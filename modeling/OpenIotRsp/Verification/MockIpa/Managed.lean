import OpenIotRsp.Verification.Esipa.Outcomes
import OpenIotRsp.Verification.MockIpa.Exchange

/-!
# Managed eUICCs

Whatever is queued, polled for and downloaded, in any order: the eIM verifies
every report, and it agrees with the eUICC afterwards.
-/

namespace OpenIotRsp.MockIpa.Link

open Octets Ber Stateful Asn1 Storage Euiccpkg Esipa Server

variable {L : Link} {device : DeviceState} {s : Store} {operation : Operation} {tlv result : Tlv}
  {request : EuiccPackageRequest} {notifications : List Tlv} {x : Managed}
  {events : List ManagedEvent}

/-! ## One poll -/

/-- The poll is answered with the package. -/
def Delivers (L : Link) (s : Store) (request : EuiccPackageRequest) : Prop :=
  (L.poll s).1 = .ok (.getEimPackage (.euiccPackageRequest request))

theorem poll_state (hL : L.Wired) {reply : Reply} (h : (L.poll s).1 = .ok reply) :
    (L.poll s).2 = s := by
  rw [poll_of_ok hL h]
  exact readOnly_handleGetEimPackage L.handler L.pollMessage s

theorem pollOnce_of_delivers (hL : L.Wired) (h : L.Delivers x.store request) :
    L.pollOnce x notifications = L.handleEUICCPackage x request notifications := by
  have hpoll : L.poll x.store = (_, x.store) := Prod.ext h (poll_state hL h)
  rw [pollOnce, hpoll]

/-- A poll with another answer changes nothing. -/
theorem pollOnce_of_not_delivers (hL : L.Wired) (h : ∀ request, ¬ L.Delivers x.store request)
    (hdone : (L.pollOnce x notifications).stopped = none) : L.pollOnce x notifications = x := by
  rcases hpoll : L.poll x.store with ⟨outcome, s'⟩
  rw [pollOnce, hpoll] at hdone ⊢
  split at hdone
  next => cases hdone
  next request _ heq => exact absurd (by rw [Delivers, hpoll, heq]) (h request)
  next reply _ heq =>
      obtain ⟨rfl, rfl⟩ := Prod.mk.inj heq
      have hstate := poll_state (s := x.store) hL (congrArg Prod.fst hpoll)
      rw [hpoll] at hstate
      exact congrArg (fun s => { x with store := s }) hstate

/-- A package that is executed without an error: both sides have carried it out. -/
theorem settles_of_delivers (hL : L.Wired)
    (hnotifications : ∀ notification ∈ notifications, notification.WellFormed)
    (h : L.Delivers x.store request) (hdone : (L.pollOnce x notifications).stopped = none) :
    (L.pollOnce x notifications).device =
        x.device.applyOperation request.euiccPackageSigned.euiccPackage ∧
      L.Settles x.device request.euiccPackageSigned.euiccPackage x.store
        (L.pollOnce x notifications).store := by
  obtain ⟨operation, hsent⟩ := sent_of_poll hL h
  rw [pollOnce_of_delivers hL h, handleEUICCPackage] at hdone ⊢
  cases hresult : L.packageResult x.draws x.device request notifications with
  | error e =>
      rw [hresult] at hdone
      cases hdone
  | ok result =>
      obtain ⟨signed, tlv, list, hup⟩ := uploads_of_packageResult hL hnotifications hresult
      rw [hresult] at hdone
      dsimp only at hdone ⊢
      rcases hupload : L.upload result x.store with ⟨error | reply, s'⟩
      · rw [hupload] at hdone
        cases hdone
      · have hsettles := settles_of_upload hL hsent hup (congrArg Prod.fst hupload)
        rw [hupload] at hsettles
        exact ⟨rfl, hsettles⟩

/-- What the eUICC signs verifies under the key that the eIM has of it. -/
structure Verifies (L : Link) : Prop where
  size : L.maxMessageSize < 2 ^ 32
  verifies : ∀ publicKey, resolvePublicKey L.handler (Hex.encode L.eid) = .ok (some publicKey) →
    ∀ draw input signature, input ≠ [] →
      L.fixture.signASN1 draw (L.fixture.sha256 input) = .ok signature →
        verifySignedBytes L.handler.crypto publicKey input signature = .ok ()

/-- A report that arrives at an eIM with the token of the eUICC is recorded as done. -/
theorem done_of_upload (hL : L.Wired) (hV : L.Verifies) (hsent : L.Sent s operation request)
    (hagrees : Agrees L.handler.bertlv device (s.records L.key))
    (heim : request.euiccPackageSigned.eimID ≠ []) {signed : EuiccPackageResultSigned}
    {list : Option Tlv} (hup : L.Uploads device request signed tlv list result)
    (harrives : L.Arrives result) :
    Queued (L.upload result s).2 L.key { operation with status := .done } := by
  obtain ⟨payload, resultDER, hpayload, hresultDER, hlength⟩ := exists_marshaled hL hup harrives
  obtain ⟨publicKey, hkey⟩ := hL.resolves
  let r := reading hL hsent hup hkey hresultDER
  obtain ⟨item, hitems, hsucceeds⟩ := hup.report.succeeds
  obtain ⟨outcome, houtcome, hok, -⟩ := hsucceeds.result
  rw [hL.bertlv, ← hitems] at houtcome
  have htoken : rowToken L.handler.bertlv ((s.records L.key).eims
      request.euiccPackageSigned.eimID) =
        .ok (device.associationToken request.euiccPackageSigned.eimID) := by
    obtain ⟨token, hrow, heq⟩ := hagrees.tokens request.euiccPackageSigned.eimID
    rw [hrow, heq heim]
  have hverified := verifiedOperationResult_of_report hL.lawful hup.report hup.marshals hL.minimal
    hL.bertlv hresultDER (hlength.trans_lt hV.size) hsent.kind hsent.decodes
    (hV.verifies publicKey hkey) htoken houtcome hok
  have hqueued := (queued_of_firstPending hsent.first).1
  have hoperations := congrArg Prod.fst ((r.book_recordEuiccPackageResult payload).trans
    ((r.book_record_of_verified payload rfl hverified hsent.known).trans
      (book_recorded hsent.identified hqueued .done payload)))
  rw [upload_state hL hup harrives hpayload]
  refine ⟨⟨⟨L.key.tenantID, { operation with status := .done }⟩, rfl⟩, ?_, rfl,
    hqueued.choose_spec.2.2⟩
  exact (congrArg (AList.lookup operation.id) hoperations).trans (AList.lookup_insert _)

/-! ## Whole runs -/

/-- What may happen next: notifications are well formed, a package that is sent is one that both
sides carry out, and a downloaded profile has an SM-DP+. -/
def Admits (L : Link) (x : Managed) : ManagedEvent → Prop
  | .enqueue _ => True
  | .poll notifications => (∀ notification ∈ notifications, notification.WellFormed) ∧
      ∀ request, L.Delivers x.store request → Executable request.euiccPackageSigned.euiccPackage
  | .download _ smdp => smdp ≠ []

/-- While the IPA runs, the eIM agrees with the eUICC. -/
def Sound (L : Link) (x : Managed) : Prop :=
  x.stopped = none → Agrees L.handler.bertlv x.device (x.store.records L.key)

theorem rows_enqueueOperation (s : Store) (key : DeviceKey) (tenantID : TenantID)
    (request : OperationRequest) :
    ((enqueueOperation tenantID request s).2.records key).profiles = (s.records key).profiles ∧
      ((enqueueOperation tenantID request s).2.records key).eims = (s.records key).eims := by
  rw [enqueueOperation_apply]
  split <;> exact ⟨rfl, rfl⟩

theorem sound_step (hL : L.Wired) (h : L.Sound x) {event : ManagedEvent} (hevent : L.Admits x event) :
    L.Sound (L.step x event) := by
  unfold step
  split
  next => exact h
  next hstopped =>
      have hagrees := h (Option.not_isSome_iff_eq_none.mp hstopped)
      cases event with
      | enqueue request =>
          obtain ⟨hprofiles, heims⟩ := rows_enqueueOperation x.store L.key L.handler.tenant request
          exact fun _ => hagrees.congr hprofiles heims
      | poll notifications =>
          intro hdone
          by_cases hdelivers : ∃ request, L.Delivers x.store request
          · obtain ⟨request, hdelivers⟩ := hdelivers
            obtain ⟨hdevice, hsettles⟩ := settles_of_delivers hL hevent.1 hdelivers hdone
            dsimp only
            rw [hdevice]
            exact hsettles.agrees (hevent.2 request hdelivers) hagrees
          · dsimp only
            rw [pollOnce_of_not_delivers hL (not_exists.mp hdelivers) hdone]
            exact hagrees
      | download profileID smdp => exact fun _ => hagrees.download hevent

theorem sound_run (hL : L.Wired) (h : L.Sound x) (hevents : Run.Meets L.step L.Admits x events) :
    L.Sound (L.run x events) :=
  hevents.invariant (fun _ _ hx hevent => sound_step hL hx hevent) h

/-! A profile is downloaded and then listed. -/

def sampleLink : Link :=
  ⟨sampleHandler, ⟨.reference, id, fun _ _ => .ok []⟩, sampleEID, 65536⟩

def sampleStart : Managed := { device := newDeviceState, store := sampleStore [] }

def sampleList : Psmo := .listProfileInfo (some (.constructed tagProfileInfoList []))

def sampleRequest : EuiccPackageRequest :=
  ⟨⟨text "e", sampleEID, 1, none, .psmo [sampleList]⟩, []⟩

def sampleEvents : List ManagedEvent :=
  [.enqueue (samplePackage sampleList 1), .download [0x89] [0x73]]

def sampleBefore : Managed := sampleLink.run sampleStart sampleEvents

def sampleAfter : Managed := sampleLink.run sampleStart (sampleEvents ++ [.poll []])

def sampleResult : Tlv :=
  (sampleLink.packageResult 0 sampleBefore.device sampleRequest []).toOption.getD (.primitive tagEID [])

theorem sampleLink_wired : sampleLink.Wired where
  lawful := Bertlv.reference_lawful
  minimal := Bertlv.reference_minimal
  bertlv := rfl
  eid := rfl
  resolves := ⟨_, rfl⟩

theorem sampleStart_sound : sampleLink.Sound sampleStart := by
  refine fun _ => ⟨fun _ => ⟨none, rfl, fun hne => ?_⟩, fun _ _ _ => rfl⟩
  rw [DeviceState.associationToken, if_neg hne]
  rfl

theorem sampleBefore_delivers : sampleLink.Delivers sampleBefore.store sampleRequest := by
  rw [Delivers]
  decide +kernel

theorem sampleEvents_admitted :
    Run.Meets sampleLink.step sampleLink.Admits sampleStart (sampleEvents ++ [.poll []]) := by
  refine ⟨trivial, List.cons_ne_nil _ _, ⟨nofun, fun request hdelivers => ?_⟩, trivial⟩
  obtain rfl : request = sampleRequest := by simpa using hdelivers.symm.trans sampleBefore_delivers
  exact nofun

/-- **Agreement.**  Whatever is queued, polled for and downloaded, in any order: while the IPA runs,
the eIM has the association tokens of the eUICC, and its profiles apart from those that were
downloaded. -/
theorem managed_agrees (hL : L.Wired) (h : L.Sound x)
    (hevents : Run.Meets L.step L.Admits x events) (hrunning : (L.run x events).stopped = none) :
    Agrees L.handler.bertlv (L.run x events).device ((L.run x events).store.records L.key) :=
  sound_run hL h hevents hrunning

theorem managed_agrees_sample :
    Agrees .reference sampleAfter.device (sampleAfter.store.records sampleLink.key) := by
  unfold sampleAfter
  exact managed_agrees sampleLink_wired sampleStart_sound sampleEvents_admitted (by decide +kernel)

/-- **No report is refused.**  After any run, the report of the package that is sent next is taken for
the result of that package and recorded as done, if it reaches the eIM. -/
theorem managed_accepts (hL : L.Wired) (hV : L.Verifies) (h : L.Sound x)
    (hevents : Run.Meets L.step L.Admits x events) (hrunning : (L.run x events).stopped = none)
    (hdelivers : L.Delivers (L.run x events).store request)
    (heim : request.euiccPackageSigned.eimID ≠ [])
    (hnotifications : ∀ notification ∈ notifications, notification.WellFormed)
    (hresult : L.packageResult (L.run x events).draws (L.run x events).device request
      notifications = .ok result)
    (harrives : L.Arrives result) :
    ∃ operation, L.Sent (L.run x events).store operation request ∧
      Queued (L.upload result (L.run x events).store).2 L.key { operation with status := .done } := by
  obtain ⟨operation, hsent⟩ := sent_of_poll hL hdelivers
  obtain ⟨signed, tlv, list, hup⟩ := uploads_of_packageResult hL hnotifications hresult
  exact ⟨operation, hsent, done_of_upload hL hV hsent (sound_run hL h hevents hrunning) heim hup
    harrives⟩

theorem managed_accepts_sample : ∃ operation,
    sampleLink.Sent sampleBefore.store operation sampleRequest ∧
      Queued (sampleLink.upload sampleResult sampleBefore.store).2 sampleLink.key
        { operation with status := .done } := by
  have hverifies : sampleLink.Verifies := by
    refine ⟨by decide, fun _ hkey _ _ _ hne _ => ?_⟩
    obtain rfl := Option.some.inj (Except.ok.inj hkey)
    exact if_neg hne
  have harrives : sampleLink.Arrives sampleResult :=
    ⟨⟨(Asn1.encode .reference (.ok (sampleLink.resultMessage sampleResult))).toOption.getD [],
      by decide +kernel, by decide +kernel⟩, Outcome.isOk_iff.mp (by decide +kernel)⟩
  have hdelivers := sampleBefore_delivers
  unfold sampleBefore at hdelivers ⊢
  refine managed_accepts sampleLink_wired hverifies sampleStart_sound
    ⟨trivial, List.cons_ne_nil _ _, trivial⟩ (by decide +kernel) hdelivers (List.cons_ne_nil _ _)
    (List.forall_mem_nil _) ?_ harrives
  decide +kernel

/-- **Listings.**  After a list of the profiles, the eIM has all profiles of the eUICC, those that
were downloaded as well. -/
theorem managed_listing (hL : L.Wired)
    (hnotifications : ∀ notification ∈ notifications, notification.WellFormed)
    (h : L.Delivers x.store request) {list : Option Tlv}
    (hlist : request.euiccPackageSigned.euiccPackage = .psmo [.listProfileInfo list])
    (hdone : (L.pollOnce x notifications).stopped = none) :
    SameProfiles (L.pollOnce x notifications).device
      ((L.pollOnce x notifications).store.records L.key) := by
  obtain ⟨hdevice, hsettles⟩ := settles_of_delivers hL hnotifications h hdone
  rw [hdevice, hlist]
  exact hsettles.listed list hlist

theorem managed_listing_sample :
    SameProfiles (sampleLink.pollOnce sampleBefore []).device
      ((sampleLink.pollOnce sampleBefore []).store.records sampleLink.key) :=
  managed_listing sampleLink_wired nofun sampleBefore_delivers rfl (by decide +kernel)

end OpenIotRsp.MockIpa.Link
