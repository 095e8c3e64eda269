import OpenIotRsp.Model.MockIpa.Loop
import OpenIotRsp.Verification.Esipa.Modes
import OpenIotRsp.Verification.MockIpa.Report

/-!
# Polls and uploads

What the IPA may conclude from an answer.  The package that a poll is answered
with is the first one in the queue.  Once the upload of its result is answered,
the eIM has taken the result for that of the package and has applied it.
-/

namespace OpenIotRsp.MockIpa.Link

open Octets Ber Stateful Asn1 Storage Euiccpkg Esipa Server

variable {L : Link} {s : Store} {message tlv result : Tlv} {notifications : List Tlv}
  {operation : Operation} {request : EuiccPackageRequest} {device : DeviceState} {draws : Nat}
  {reply : Reply} {signed : EuiccPackageResultSigned} {list : Option Tlv} {payload : Bytes}

/-- The device, as the eIM names it. -/
def key (L : Link) : DeviceKey := L.handler.device (Hex.encode L.eid)

/-- The IPA uses the BER-TLV package that the eIM uses, its EID has sixteen octets, and the eIM has a
key of the eUICC. -/
structure Wired (L : Link) : Prop where
  lawful : L.handler.bertlv.Lawful
  minimal : L.handler.bertlv.Minimal
  bertlv : L.fixture.bertlv = L.handler.bertlv
  eid : L.eid.length = 16
  resolves : ∃ publicKey, resolvePublicKey L.handler (Hex.encode L.eid) = .ok (some publicKey)

theorem Wired.eidKey (hL : L.Wired) : Esipa.eidKey L.eid = .ok (Hex.encode L.eid) := by
  rw [Esipa.eidKey, if_neg (by simp [hL.eid]), if_pos hL.eid]

/-! ## Messages -/

/-- The message can be written and is not too large. -/
def Carries (L : Link) (message : Tlv) : Prop :=
  ∃ payload, Asn1.encode L.fixture.bertlv (.ok message) = .ok payload ∧
    payload.length ≤ L.maxMessageSize

theorem carries_of_ok (h : (L.exchange message s).1 = .ok reply) : L.Carries message := by
  obtain ⟨payload, s', hencode, hrun⟩ := Stateful.bind_eq_ok (Prod.ext h rfl)
  refine ⟨payload, congrArg Prod.fst hencode, Nat.le_of_not_lt fun hlarge => ?_⟩
  rw [if_pos hlarge] at hrun
  cases hrun

/-- A message that is carried is handled as it was sent. -/
theorem exchange_of_carries (hL : L.Wired) (hwf : message.WellFormed)
    (htag : isAllowedTag message [57, 59, 58, 65, 61, 78, 79, 80]) (h : L.Carries message) :
    L.exchange message s = dispatch L.handler message s := by
  obtain ⟨payload, hencode, hsize⟩ := h
  obtain ⟨_, ⟨⟩, hw⟩ := encode_eq_ok.mp hencode
  have hdecode : decodeRequest L.handler payload = .ok message :=
    (decode_written hL.lawful hwf (hL.bertlv ▸ hw)).trans (if_pos htag)
  rw [exchange, ofExcept_bind_of_ok _ s hencode, if_neg (Nat.not_lt.mpr hsize)]
  exact ofExcept_bind_of_ok _ s hdecode

/-! ## Polls -/

/-- The operation is the first package in the queue of the device. -/
structure Sent (L : Link) (s : Store) (operation : Operation) (request : EuiccPackageRequest) :
    Prop where
  known : s.Knows L.key
  first : (s.pending L.key 10000).find? (fun other => other.kind = .euiccPackage) = some operation
  kind : operation.kind = .euiccPackage
  decodes : decodePackage L.handler operation = .ok request
  identified : operation.id ≠ 0

theorem poll_of_ok (hL : L.Wired) (h : (L.poll s).1 = .ok reply) :
    L.poll s = handleGetEimPackage L.handler L.pollMessage s := by
  have hwf : L.pollMessage.WellFormed := ⟨by decide, by decide, ⟨by decide, by decide⟩, trivial⟩
  refine (exchange_of_carries hL hwf rfl (carries_of_ok h)).trans ?_
  rw [dispatch, if_pos (show L.pollMessage.tag = tagGetEimPackage from rfl)]

theorem sent_of_poll (hL : L.Wired)
    (h : (L.poll s).1 = .ok (.getEimPackage (.euiccPackageRequest request))) :
    ∃ operation, L.Sent s operation request := by
  have hrequest : GetEimPackageRequest.unmarshalBERTLV L.handler.bertlv L.pollMessage =
      .ok ⟨L.eid, false, none, none⟩ := rfl
  rw [poll_of_ok hL h] at h
  by_cases hknown : s.Knows L.key
  · rw [handleGetEimPackage_of_known hrequest hL.eidKey hknown, nextPackageReply] at h
    split at h
    next => cases h
    next operation hfilter =>
        obtain ⟨hselected, hid⟩ := Option.filter_eq_some_iff.mp hfilter
        obtain ⟨response, hresponse, heq⟩ := Outcome.bind_eq_ok.mp h
        obtain rfl : response = .euiccPackageRequest request := by simpa using heq
        obtain ⟨hkind, hdecode⟩ := package_of_response hresponse
        have hfirst := first_of_selectFrom hselected
        simp only [hkind, true_imp_iff] at hfirst
        refine ⟨operation, hknown, ?_, hkind, hdecode, by simpa using hid⟩
        rw [pending_eq_take] at hfirst ⊢
        exact (List.take_isPrefix_take.mpr (.inl (by decide))).find?_eq_some hfirst
  · rw [handleGetEimPackage_of_unknown hrequest hL.eidKey hknown] at h
    cases h

/-! ## Uploads -/

/-- What is uploaded for a package: a report, alone or with notifications. -/
structure Uploads (L : Link) (device : DeviceState) (request : EuiccPackageRequest)
    (signed : EuiccPackageResultSigned) (tlv : Tlv) (list : Option Tlv) (result : Tlv) : Prop where
  report : Report L.fixture device request signed
  marshals : (EuiccPackageResult.ok signed).marshalBERTLV L.handler.bertlv = .ok tlv
  splits : splitResult result = .ok (tlv, list)
  wellFormed : result.WellFormed
  tag : result.tag = tagEuiccPkg ∨ result.tag = tagSequence
  part : result = tlv ∨ ∃ rest, result = .constructed tagSequence (tlv :: rest)

theorem uploads_of_packageResult (hL : L.Wired)
    (hnotifications : ∀ notification ∈ notifications, notification.WellFormed)
    (h : L.packageResult draws device request notifications = .ok result) :
    ∃ signed tlv list, L.Uploads device request signed tlv list result := by
  obtain ⟨⟨answer, kind⟩, hsigned, h⟩ := Outcome.bind_eq_ok.mp h
  obtain ⟨signed, rfl, hreport⟩ := report_of_signed (hL.bertlv.symm ▸ hL.lawful) hsigned
  obtain ⟨tlv, htlv, h⟩ := Outcome.bind_eq_ok.mp h
  rw [hL.bertlv] at htlv
  have hwf := (hreport.read_written hL.lawful htlv).1
  obtain ⟨arm, rfl, -⟩ := hreport.exists_written hL.lawful htlv
  split at h
  · obtain rfl := Except.ok.inj h
    exact ⟨signed, _, some (.constructed tagNotificationList notifications), hreport, htlv, rfl,
      ⟨by decide, by decide, hwf, ⟨by decide, by decide, Tlv.allWellFormed_iff.mpr hnotifications⟩,
        trivial⟩, .inr rfl, .inr ⟨_, rfl⟩⟩
  · obtain rfl := Except.ok.inj h
    exact ⟨signed, _, none, hreport, htlv, rfl, hwf, .inl rfl, .inl rfl⟩

/-- The upload is carried, and the eIM can read what is in it. -/
def Arrives (L : Link) (result : Tlv) : Prop :=
  L.Carries (L.resultMessage result) ∧
    ∃ read, EimPackageResult.unmarshalBERTLV L.handler.bertlv result = .ok read

section

variable (hL : L.Wired) (hup : L.Uploads device request signed tlv list result)

include hL hup

theorem upload_of_carries (hcarries : L.Carries (L.resultMessage result)) :
    L.upload result s = handleProvideEimPackageResult L.handler (L.resultMessage result) s ∧
      ProvideEimPackageResult.unmarshalBERTLV L.handler.bertlv (L.resultMessage result) = do
        return ⟨some L.eid, ← EimPackageResult.unmarshalBERTLV L.handler.bertlv result⟩ := by
  have heid : result.tag ≠ tagEID := by
    rcases hup.tag with htag | htag <;> rw [htag] <;> decide
  have hmessage : (L.resultMessage result).WellFormed :=
    ⟨by decide, by decide, ⟨by decide, by decide⟩, hup.wellFormed, trivial⟩
  have htag : (L.resultMessage result).tag = tagProvideEimResult := rfl
  constructor
  · refine (exchange_of_carries hL hmessage rfl hcarries).trans ?_
    rw [dispatch, htag, if_neg (by decide), if_pos rfl]
  · simp [ProvideEimPackageResult.unmarshalBERTLV, resultMessage, expectTag, octetTLV, Tlv.first, heid]
    rfl

/-- What arrives is recorded. -/
theorem upload_of_arrives (h : L.Arrives result)
    (hpayload : Esipa.marshalBinary L.handler.bertlv result = .ok payload) :
    L.upload result s =
      (findRow (recordEuiccPackageResult L.handler (Hex.encode L.eid) result payload) >>=
        fun recorded => pure (provideReply recorded)) s := by
  obtain ⟨hcarries, read, hread⟩ := h
  obtain ⟨hupload, hdecode⟩ := upload_of_carries (s := s) hL hup hcarries
  rw [hread, Outcome.ok_bind, Outcome.pure_eq] at hdecode
  have heid : (resolveProvideResultEID L.handler.bertlv L.handler.x509 L.handler.tenant (some L.eid)
      read.raw s).1 = .ok (.ok (Hex.encode L.eid)) := by
    have hne : (some L.eid).getD [] ≠ [] := fun hnil => by simpa [hL.eid] using congrArg List.length hnil
    rw [resolveProvideResultEID, if_pos hne]
    exact congrArg Except.ok hL.eidKey
  have hrecord : recordEimPackageResult L.handler (Hex.encode L.eid) result = _ :=
    funext fun _ => recordEimPackageResult_of_tag hup.tag hpayload
  rw [hupload, handleProvideEimPackageResult_of_resolved rfl hdecode heid,
    raw_of_unmarshalBERTLV hread, hrecord]

theorem upload_state (h : L.Arrives result)
    (hpayload : Esipa.marshalBinary L.handler.bertlv result = .ok payload) :
    (L.upload result s).2 =
      (recordEuiccPackageResult L.handler (Hex.encode L.eid) result payload s).2 := by
  rw [upload_of_arrives hL hup h hpayload, bind_state_of_readOnly fun _ => keeps_pure id _,
    findRow_state]

theorem arrives_of_ok (h : (L.upload result s).1 = .ok reply) : L.Arrives result := by
  have hcarries := carries_of_ok h
  obtain ⟨hupload, hdecode⟩ := upload_of_carries (s := s) hL hup hcarries
  rw [hupload] at h
  obtain ⟨_, _, hread, -⟩ := Stateful.bind_eq_ok (Prod.ext h rfl)
  obtain ⟨read, hread, -⟩ := Outcome.bind_eq_ok.mp (hdecode.symm.trans (congrArg Prod.fst hread))
  exact ⟨hcarries, read, hread⟩

/-- Where the upload is answered, the recording has not failed, but for a missing row. -/
theorem not_plain_of_upload (h : (L.upload result s).1 = .ok reply)
    (hpayload : Esipa.marshalBinary L.handler.bertlv result = .ok payload) {e : Error} {s' : Store}
    (hrun : recordEuiccPackageResult L.handler (Hex.encode L.eid) result payload s = (.error e, s')) :
    ¬ e.IsPlain := by
  rw [upload_of_arrives hL hup (arrives_of_ok hL hup h) hpayload] at h
  obtain ⟨row, _, hrow, -⟩ := Stateful.bind_eq_ok (Prod.ext h rfl)
  rcases findRow_eq_ok hrow with ⟨_, -, hok⟩ | ⟨-, herror⟩
  · cases hrun.symm.trans hok
  · exact fun hplain => hplain.1 (Except.error.inj (Prod.mk.inj (hrun.symm.trans herror)).1)

/-- What arrives can be written again, in fewer octets. -/
theorem exists_marshaled (h : L.Arrives result) : ∃ payload resultDER,
    Esipa.marshalBinary L.handler.bertlv result = .ok payload ∧
    L.handler.bertlv.marshalBinary tlv = some resultDER ∧ resultDER.length ≤ L.maxMessageSize := by
  obtain ⟨⟨w, hencode, hsize⟩, -⟩ := h
  obtain ⟨_, ⟨⟩, hw⟩ := encode_eq_ok.mp hencode
  rw [hL.bertlv] at hw
  obtain ⟨payload, hpayload, hle⟩ := hL.minimal.child hw
    (List.mem_cons_of_mem _ (List.mem_singleton.mpr rfl))
  have hmarshal : Esipa.marshalBinary L.handler.bertlv result = .ok payload := by
    rw [Esipa.marshalBinary, hpayload]
  rcases hup.part with rfl | ⟨rest, rfl⟩
  · exact ⟨payload, payload, hmarshal, hpayload, hle.trans hsize⟩
  · obtain ⟨v, hv, hle'⟩ := hL.minimal.child hpayload List.mem_cons_self
    exact ⟨payload, v, hmarshal, hv, hle'.trans (hle.trans hsize)⟩

end

/-! ## Recorded reports -/

theorem fails_outcomeECO {B : Bertlv} {eid : Bytes} (pkg : EuiccPackage) (outcome : Option Result)
    (r : DeviceRecords) : Outcome.FailsWith Error.IsPlain (r.outcomeECO B eid pkg outcome) := by
  have hrow (config : EimConfigurationData) :
      Outcome.FailsWith Error.IsPlain (associatedEIMFromConfig B eid config) :=
    (fails_encodeConfig B config).bind fun _ => Outcome.failsWith_ok _
  rw [DeviceRecords.outcomeECO]
  split
  next => exact (hrow _).map _
  next config _ =>
      rw [updatedRow_eq, updatedFrom]
      refine Outcome.FailsWith.map _ (Outcome.FailsWith.bind ?_ hrow)
      split
      next => exact Outcome.failsWith_ok _
      next => exact (fails_rowToken B _).bind fun _ => Outcome.failsWith_ok _
  next => exact Outcome.failsWith_ok _

/-- The rows are those that the recording of the result leaves. -/
theorem rows_recordEuiccPackageResult
    (r : PackageReading L.handler s (Hex.encode L.eid) result) (payload : Bytes) :
    ((recordEuiccPackageResult L.handler (Hex.encode L.eid) result payload s).2.records
        L.key).profiles = ((r.record payload s).2.records L.key).profiles ∧
      ((recordEuiccPackageResult L.handler (Hex.encode L.eid) result payload s).2.records
        L.key).eims = ((r.record payload s).2.records L.key).eims := by
  have hnotify : Keeps (fun s => ((s.records L.key).profiles, (s.records L.key).eims))
      (recordNotificationsFromList L.handler (Hex.encode L.eid) r.notificationList) :=
    keeps_recordNotificationsFromList (fun _ _ _ => keeps_storeNotification fun _ => rfl) r.notificationList
  rw [r.recordEuiccPackageResult_eq, ← Prod.mk.injEq]
  exact keeps_rest (fun _ => hnotify.bind fun _ => keeps_pure _ _) s

/-- What follows for the eIM and the eUICC from a report that has been applied. -/
structure Settles (L : Link) (device : DeviceState) (pkg : EuiccPackage) (s s' : Store) : Prop where
  agrees : Executable pkg → Agrees L.handler.bertlv device (s.records L.key) →
    Agrees L.handler.bertlv (device.applyOperation pkg) (s'.records L.key)
  listed : ∀ list, pkg = .psmo [.listProfileInfo list] → SameProfiles device (s'.records L.key)

section

variable (hL : L.Wired) (hsent : L.Sent s operation request)
  (hup : L.Uploads device request signed tlv list result) {resultDER : Bytes} {publicKey : PublicKey} (hkey : resolvePublicKey L.handler (Hex.encode L.eid) = .ok (some publicKey))
  (hresultDER : L.handler.bertlv.marshalBinary tlv = some resultDER)

/-- How the eIM reads the report. -/
def reading : PackageReading L.handler s (Hex.encode L.eid) result :=
  ⟨tlv, list, .ok signed, resultDER, some publicKey, operation, hup.splits,
    (hup.report.read_written hL.lawful hup.marshals).2, by rw [Esipa.marshalBinary, hresultDER], hkey,
    matching_of_first hsent.first hsent.decodes hup.report.echoes⟩

include hL hsent hup hresultDER

/-- A report is recorded as done and applied, unless its verification fails. -/
theorem recordVerified_cases (payload : Bytes) (publicKey : PublicKey) :
    ∃ outcome, Reports device outcome request.euiccPackageSigned.euiccPackage ∧
      ((∃ e, recordVerified L.handler (Hex.encode L.eid) operation resultDER payload publicKey s =
        (.error e, s) ∧ e.IsPlain) ∨
      recordVerified L.handler (Hex.encode L.eid) operation resultDER payload publicKey s =
        applyPackageResultState L.handler.bertlv L.handler.tenant (Hex.encode L.eid)
          request.euiccPackageSigned.euiccPackage (some outcome)
          (s.recorded L.key operation .done payload)) := by
  obtain ⟨hwf, hread⟩ := hup.report.read_written hL.lawful hup.marshals
  obtain ⟨item, hitems, hsucceeds⟩ := hup.report.succeeds
  obtain ⟨outcome, houtcome, hok, hreports⟩ := hsucceeds.result
  rw [hL.bertlv, ← hitems] at houtcome
  have hdecode := (decode_written hL.lawful hwf hresultDER).trans hread
  refine ⟨outcome, hreports, ?_⟩
  rcases verifiedOperationResult_cases (Hex.encode L.eid) publicKey hdecode s with
    ⟨e, hrun, hplain⟩ | ⟨decoded, hdecoded, hcases⟩
  · exact .inl ⟨e, bind_of_error hrun, hplain⟩
  obtain rfl := Except.ok.inj (hsent.decodes.symm.trans hdecoded)
  have hstatus : plainStatus L.handler.bertlv request.euiccPackageSigned.euiccPackage (.ok signed) =
      .ok (some outcome, .done) := by
    rw [plainStatus, houtcome, statusOf, hok]
    rfl
  have hrun : verifiedOperationResult L.handler operation (Hex.encode L.eid) resultDER publicKey s =
      (.ok (some outcome, .done), s) := by
    rcases hcases with hrun | ⟨domain, -, hfailed⟩
    · rw [hrun, hstatus]
    · cases hstatus.symm.trans hfailed
  have hrecord := (recordResult_of_queued (queued_of_firstPending hsent.first).1 .done
    payload).trans (if_pos hsent.known)
  obtain ⟨signedRequest, hrequest, hpackage⟩ := exists_signedRequest hsent.kind hsent.decodes
  right
  rw [recordVerified, bind_of_ok hrun]
  dsimp only
  rw [bind_of_ok hrecord, if_pos rfl, ofExcept_bind_of_ok _ _ hrequest, hpackage]
  rfl

omit hresultDER in
/-- Once the upload is answered, the report has been applied. -/
theorem settles_of_upload (h : (L.upload result s).1 = .ok reply) :
    L.Settles device request.euiccPackageSigned.euiccPackage s (L.upload result s).2 := by
  have harrives := arrives_of_ok hL hup h
  obtain ⟨payload, resultDER, hpayload, hresultDER, -⟩ := exists_marshaled hL hup harrives
  obtain ⟨publicKey, hkey⟩ := hL.resolves
  let r := reading hL hsent hup hkey hresultDER
  have hfails : ∀ e s', r.record payload s = (.error e, s') → ¬ e.IsPlain := fun e s' hrun =>
    not_plain_of_upload hL hup h hpayload (r.recordEuiccPackageResult_eq.trans (bind_of_error hrun))
  obtain ⟨hprofiles, heims⟩ := rows_recordEuiccPackageResult r payload
  rw [upload_state hL hup harrives hpayload]
  obtain ⟨outcome, hreports, ⟨e, hrun, hplain⟩ | hrun⟩ :=
    recordVerified_cases hL hsent hup hresultDER payload publicKey
  · exact absurd hplain (hfails e s hrun)
  replace hrun : r.record payload s = _ := hrun
  have hknown : (s.recorded L.key operation .done payload).Knows L.key := by
    rw [Store.Knows, recorded_keeps (f := Store.devices) fun _ _ _ => rfl]
    exact hsent.known
  obtain ⟨houtcome, hrecords⟩ := applyPackageResultState_of_known (B := L.handler.bertlv)
    hknown request.euiccPackageSigned.euiccPackage (some outcome)
  rw [hrun] at hprofiles heims
  replace hprofiles := hprofiles.trans (congrArg DeviceRecords.profiles hrecords)
  replace heims := heims.trans (congrArg DeviceRecords.eims hrecords)
  refine ⟨fun hexecutable hagrees => ?_, fun list hlist iccid hne => ?_⟩
  · have hbefore := hagrees.congr
      (recorded_keeps (f := fun s => (s.records L.key).profiles) (fun _ _ _ => rfl) s L.key operation
        .done payload)
      (recorded_keeps (f := fun s => (s.records L.key).eims) (fun _ _ _ => rfl) s L.key operation
        .done payload)
    refine (hbefore.apply hL.lawful hexecutable hreports ?_).congr hprofiles heims
    cases heco : DeviceRecords.outcomeECO _ _ _ _ _ with
    | ok _ => rfl
    | error e =>
        exact absurd (fails_outcomeECO _ _ _ e heco)
          (hfails e _ (hrun.trans (Prod.ext (houtcome.trans heco) rfl)))
  · refine (congrArg (Option.map _) (congrFun hprofiles (Hex.encode iccid))).trans ?_
    rw [hlist]
    exact sameProfiles_apply (hlist ▸ hreports) iccid hne

end

end OpenIotRsp.MockIpa.Link
