import OpenIotRsp.Verification.Esipa.DeviceFrame

/-!
# Acknowledged sequence numbers

An acknowledgement lets the IPA delete what the number names, so the numbers
have to be the eUICC's own: of the signed result, or of a stored notification.
-/

namespace OpenIotRsp.Esipa

open Octets Ber Stateful Asn1 Storage Euiccpkg Ipadata

variable {H : Handler} {s : Store} {eid payload : Bytes} {tlv raw : Tlv} {s' : Store}
  {recorded : Recorded} {n : Int} {pendings : List PendingNotification}

/-! ## Number lists -/

theorem mem_appendAckSequences {existing additions : List Int} :
    n ∈ appendAckSequences existing additions ↔ n ∈ existing ∨ n ∈ additions := by
  rw [appendAckSequences]
  induction additions generalizing existing with
  | nil => simp
  | cons m additions ih =>
      rw [List.foldl_cons, ih]
      split
      next hm =>
          constructor
          · rintro (h | h)
            · exact .inl h
            · exact .inr (List.mem_cons_of_mem m h)
          · rintro (h | h)
            · exact .inl h
            · rcases List.mem_cons.mp h with rfl | h
              · exact .inl hm
              · exact .inr h
      next => simp [or_assoc]

theorem nodup_appendAckSequences {existing : List Int} (additions : List Int)
    (h : existing.Nodup) : (appendAckSequences existing additions).Nodup := by
  rw [appendAckSequences]
  induction additions generalizing existing with
  | nil => exact h
  | cons m additions ih =>
      by_cases hm : m ∈ existing
      · rw [List.foldl_cons, if_pos hm]
        exact ih h
      · rw [List.foldl_cons, if_neg hm]
        apply ih
        rw [List.nodup_append_comm]
        exact List.nodup_cons.mpr ⟨hm, h⟩

/-! ## Notifications of a message -/

/-- The notifications in a list object. -/
def listedNotifications (B : Bertlv) : Option Tlv → List PendingNotification
  | none => []
  | some list => ((PendingNotificationList.unmarshalBERTLV B list).toOption).getD []

/-- The notifications that a result carries; an installation result is one. -/
def notificationsIn (B : Bertlv) (raw : Tlv) : List PendingNotification :=
  if raw.tag = tagDownloadTrig then
    ((profileDownloadResultData raw).bind fun child =>
      (PendingNotification.unmarshalBERTLV B child).toOption).toList
  else if raw.tag = tagIpaEuiccData then
    match IpaEuiccDataResponse.unmarshalBERTLV B raw with
    | .ok (.data data) => listedNotifications B data.notificationsRaw
    | _ => []
  else
    match splitResult raw with
    | .ok (_, list) => listedNotifications B list
    | .error _ => []

/-- The sequence number under the signature of a successful result. -/
def signedSequenceNumber (B : Bertlv) (raw : Tlv) : Option Int :=
  match splitResult raw with
  | .ok (resultTLV, _) =>
      match EuiccPackageResult.unmarshalBERTLV B resultTLV with
      | .ok (.ok signed) => some signed.data.seqNumber
      | _ => none
  | .error _ => none

/-- One of the notifications is stored for its device, under the number. -/
def StoredFrom (H : Handler) (s : Store) (eid : Bytes) (pendings : List PendingNotification)
    (n : Int) : Prop :=
  ∃ pending ∈ pendings, ∃ notification, notificationFromPending H eid pending = .ok notification ∧
    notification.sequenceNumber = n ∧
    (s.records (H.device notification.eid)).notifications n = some notification

theorem StoredFrom.mono {pendings pendings' : List PendingNotification}
    (h : StoredFrom H s eid pendings n) (hsub : ∀ pending ∈ pendings, pending ∈ pendings') :
    StoredFrom H s eid pendings' n := by
  obtain ⟨pending, hmem, hstored⟩ := h
  exact ⟨pending, hsub pending hmem, hstored⟩

/-- A stored notification gives way only to another one of the list with its number. -/
theorem StoredFrom.recordNotification {pending : PendingNotification} (hmem : pending ∈ pendings)
    (h : StoredFrom H s eid pendings n) :
    StoredFrom H (recordNotification H eid pending s).2 eid pendings n := by
  rcases (readOnly_ofExcept (notificationFromPending H eid pending)).bind_cases _ s with
    ⟨e, hrun⟩ | ⟨notification, hok, hrun⟩
  · rw [Esipa.recordNotification, hrun]
    exact h
  rw [Esipa.recordNotification, hrun, bind_state_of_readOnly fun _ => keeps_pure id _,
    storeNotification_apply]
  split
  next =>
      obtain ⟨old, hold, row, hrow, hnumber, hlookup⟩ := h
      by_cases hsame : row.eid = notification.eid ∧ n = notification.sequenceNumber
      · obtain ⟨-, rfl⟩ := hsame
        exact ⟨pending, hmem, notification, hok, rfl, AList.lookup_insert _⟩
      · refine ⟨old, hold, row, hrow, hnumber, ?_⟩
        refine Eq.trans ?_ hlookup
        apply AList.lookup_insert_ne
        intro heq
        obtain ⟨-, heid, hn⟩ := NotificationKey.mk.inj heq
        exact hsame ⟨heid, hn⟩
  next => exact h

theorem recordNotification_eq_ok {pending : PendingNotification}
    (h : recordNotification H eid pending s = (.ok n, s')) : StoredFrom H s' eid [pending] n := by
  obtain ⟨notification, hok, h⟩ := ReadOnly.bind_eq_ok (readOnly_ofExcept _) h
  obtain ⟨_, s'', hstore, h⟩ := Stateful.bind_eq_ok h
  obtain ⟨hn, rfl⟩ := Prod.mk.inj h
  obtain rfl := Except.ok.inj hn
  refine ⟨pending, List.mem_singleton_self pending, notification, hok, rfl, ?_⟩
  rw [storeNotification_apply] at hstore
  split at hstore
  next =>
      obtain rfl := (Prod.mk.inj hstore).2
      exact AList.lookup_insert _
  next => cases hstore

/-- The numbers that a list of notifications is recorded with are stored when it is done. -/
theorem storedFrom_of_mapM {numbers : List Int}
    (h : pendings.mapM (recordNotification H eid) s = (.ok numbers, s')) :
    ∀ n ∈ numbers, StoredFrom H s' eid pendings n := by
  induction pendings generalizing s numbers with
  | nil =>
      obtain rfl := Except.ok.inj (congrArg Prod.fst h)
      intro n hn
      cases hn
  | cons pending rest ih =>
      rw [List.mapM_cons] at h
      obtain ⟨first, s₁, hfirst, h⟩ := Stateful.bind_eq_ok h
      obtain ⟨others, s₂, hothers, h⟩ := Stateful.bind_eq_ok h
      obtain ⟨hnumbers, rfl⟩ := Prod.mk.inj h
      obtain rfl := Except.ok.inj hnumbers
      intro n hn
      rcases List.mem_cons.mp hn with rfl | hn
      · have hstored : StoredFrom H s₁ eid (pending :: rest) n :=
          (recordNotification_eq_ok hfirst).mono (by simp)
        have hkept := mapM_invariant (P := fun s => StoredFrom H s eid (pending :: rest) n)
          (fun y hy s hs => hs.recordNotification (List.mem_cons_of_mem pending hy)) s₁ hstored
        rwa [hothers] at hkept
      · exact (ih hothers n hn).mono fun _ => List.mem_cons_of_mem pending

theorem storedFrom_of_list {list : Option Tlv} {numbers : List Int}
    (h : recordNotificationsFromList H eid list s = (.ok numbers, s')) :
    ∀ n ∈ numbers, StoredFrom H s' eid (listedNotifications H.bertlv list) n := by
  cases list with
  | none =>
      obtain rfl := Except.ok.inj (congrArg Prod.fst h)
      intro n hn
      cases hn
  | some listTLV =>
      obtain ⟨pendings, hdecode, h⟩ := ReadOnly.bind_eq_ok (readOnly_ofExcept _) h
      have hlisted : listedNotifications H.bertlv (some listTLV) = pendings := by
        rw [listedNotifications, show PendingNotificationList.unmarshalBERTLV H.bertlv listTLV =
          .ok pendings from hdecode]
        rfl
      rw [hlisted]
      exact storedFrom_of_mapM h

/-! ## Numbers of each kind of result -/

/-- The number is one of the eUICC's, carried by the result: that of the signed result, or that of
a notification in it which the store holds. -/
def Acknowledgeable (H : Handler) (s : Store) (eid : Bytes) (raw : Tlv) (n : Int) : Prop :=
  signedSequenceNumber H.bertlv raw = some n ∨
    StoredFrom H s eid (notificationsIn H.bertlv raw) n

theorem signedSequenceNumber_of_tag {B : Bertlv} (hsequence : raw.tag ≠ tagSequence)
    (hpackage : raw.tag ≠ tagEuiccPkg) : signedSequenceNumber B raw = none := by
  have hsplit : splitResult raw = .ok (raw, none) := by rw [splitResult, if_neg hsequence]
  simp only [signedSequenceNumber, hsplit]
  split
  next hdecode => exact absurd (EuiccPackageResult.of_unmarshalBERTLV hdecode).1 hpackage
  next => rfl

theorem mem_packageResultAckSequences {result : EuiccPackageResult}
    (h : n ∈ packageResultAckSequences result) :
    ∃ signed, result = .ok signed ∧ signed.data.seqNumber = n := by
  cases result with
  | ok signed =>
      rw [packageResultAckSequences] at h
      split at h
      next => cases h
      next => exact ⟨signed, rfl, (List.mem_singleton.mp h).symm⟩
  | errorSigned error => cases h
  | errorUnsigned error => cases h

theorem acknowledgeable_of_packageResult (hdownload : raw.tag ≠ tagDownloadTrig)
    (hdata : raw.tag ≠ tagIpaEuiccData)
    (h : recordEuiccPackageResult H eid raw payload s = (.ok recorded, s')) :
    recorded.numbers.Nodup ∧ ∀ n ∈ recorded.numbers, Acknowledgeable H s' eid raw n := by
  rcases recordEuiccPackageResult_cases H s eid raw payload with ⟨e, hrun⟩ | ⟨⟨r⟩⟩
  · cases hrun.symm.trans h
  rw [r.recordEuiccPackageResult_eq] at h
  obtain ⟨_, s₁, -, h⟩ := Stateful.bind_eq_ok h
  obtain ⟨numbers, s₂, hlist, h⟩ := Stateful.bind_eq_ok h
  obtain ⟨hrecorded, rfl⟩ := Prod.mk.inj h
  obtain rfl := Except.ok.inj hrecorded
  constructor
  · apply nodup_appendAckSequences
    exact nodup_appendAckSequences _ List.nodup_nil
  · intro n hn
    rcases mem_appendAckSequences.mp hn with hn | hn
    · -- the number under the signature
      left
      obtain hnil | hsigned := mem_appendAckSequences.mp hn
      · cases hnil
      obtain ⟨signed, hresult, rfl⟩ := mem_packageResultAckSequences hsigned
      simp only [signedSequenceNumber, r.split_eq, r.decode_eq, hresult]
    · right
      rw [notificationsIn, if_neg hdownload, if_neg hdata, r.split_eq]
      exact storedFrom_of_list hlist n hn

theorem acknowledgeable_of_dataResponse (htag : raw.tag = tagIpaEuiccData)
    (h : recordIpaEuiccDataResponse H eid raw payload s = (.ok recorded, s')) :
    recorded.numbers.Nodup ∧ ∀ n ∈ recorded.numbers, Acknowledgeable H s' eid raw n := by
  rcases recordIpaEuiccDataResponse_cases H s eid raw payload with
    ⟨e, hrun⟩ | ⟨response, operation, hdecode, hfound⟩
  · cases hrun.symm.trans h
  rw [recordIpaEuiccDataResponse_of_found hdecode hfound] at h
  cases response with
  | error e =>
      obtain ⟨_, s₁, -, h⟩ := Stateful.bind_eq_ok h
      obtain rfl := Except.ok.inj (congrArg Prod.fst h)
      exact ⟨List.nodup_nil, fun n hn => nomatch hn⟩
  | data data =>
      obtain ⟨_, s₁, -, h⟩ := Stateful.bind_eq_ok h
      obtain ⟨_, s₂, -, h⟩ := Stateful.bind_eq_ok h
      obtain ⟨_, s₃, -, h⟩ := Stateful.bind_eq_ok h
      obtain ⟨numbers, s₄, hlist, h⟩ := Stateful.bind_eq_ok h
      have hnumbers : recorded.numbers = appendAckSequences [] numbers ∧ s' = s₄ := by
        split at h
        next hempty =>
            obtain ⟨hrecorded, rfl⟩ := Prod.mk.inj h
            obtain rfl := Except.ok.inj hrecorded
            exact ⟨hempty.symm, rfl⟩
        next =>
            obtain ⟨hrecorded, rfl⟩ := Prod.mk.inj h
            obtain rfl := Except.ok.inj hrecorded
            exact ⟨rfl, rfl⟩
      obtain ⟨hrecorded, rfl⟩ := hnumbers
      rw [hrecorded]
      refine ⟨nodup_appendAckSequences _ List.nodup_nil, fun n hn => .inr ?_⟩
      have hlisted : notificationsIn H.bertlv raw =
          listedNotifications H.bertlv data.notificationsRaw := by
        rw [notificationsIn, htag, if_neg (by decide), if_pos rfl, hdecode]
      rw [hlisted]
      obtain hnil | hn := mem_appendAckSequences.mp hn
      · cases hnil
      · exact storedFrom_of_list hlist n hn

theorem numbers_of_downloadResult
    (h : recordProfileDownloadTriggerResult H eid raw payload s = (.ok recorded, s')) :
    ∃ result operation, ProfileDownloadTriggerResult.unmarshalBERTLV H.bertlv raw = .ok result ∧
      (pendingProfileDownloadTrigger H eid (result.eimTransactionID.getD []) s).1 =
        .ok (some operation) ∧
      recorded.numbers = [operation.sequenceNumber] ∧ s'.notifications = s.notifications := by
  obtain ⟨result, hdecode, h⟩ := ReadOnly.bind_eq_ok (readOnly_ofExcept _) h
  obtain ⟨found, hfound, h⟩ := (readOnly_pendingProfileDownloadTrigger eid _).bind_eq_ok h
  obtain ⟨operation, hoperation, h⟩ := (readOnly_requireOperation found).bind_eq_ok h
  obtain ⟨_, s₁, hresult, h⟩ := Stateful.bind_eq_ok h
  obtain ⟨hrecorded, rfl⟩ := Prod.mk.inj h
  obtain rfl := Except.ok.inj hrecorded
  rw [requireOperation_eq_ok hoperation] at hfound
  have hkeeps : Keeps Store.notifications
      (recordResult H eid operation (profileDownloadStatus result) payload) :=
    keeps_recordEUICCPackageResult fun _ _ _ => rfl
  exact ⟨result, operation, hdecode, hfound, rfl, by simpa [hresult] using hkeeps s⟩

theorem numbers_of_error (h : recordEimPackageResultError H eid raw payload s = (.ok recorded, s')) :
    ∃ operation : Operation, recorded.numbers = [operation.sequenceNumber] := by
  obtain ⟨result, hdecode, h⟩ := ReadOnly.bind_eq_ok (readOnly_ofExcept _) h
  cases hchoice : result.choice with
  | error error =>
      rw [hchoice] at h
      dsimp only [recordEimPackageResultResponseError] at h
      split at h
      all_goals
        obtain ⟨operation, s₁, -, h⟩ := Stateful.bind_eq_ok h
        obtain ⟨_, s₂, -, h⟩ := Stateful.bind_eq_ok h
        obtain rfl := Except.ok.inj (congrArg Prod.fst h)
        exact ⟨operation, rfl⟩
  | _ =>
      rw [hchoice] at h
      cases h

/-! ## Acknowledgements of a message -/

/-- No error result, and for a download result: the installation result in it happens to have the
queue number of its trigger, and to be stored as a notification already. -/
structure AcknowledgesOwn (H : Handler) (s : Store) (eid : Bytes) (raw : Tlv) : Prop where
  not_error : raw.tag ≠ tagInteger ∧ raw.tag ≠ contextConstructed 0
  download : raw.tag = tagDownloadTrig → ∀ result operation,
    ProfileDownloadTriggerResult.unmarshalBERTLV H.bertlv raw = .ok result →
    (pendingProfileDownloadTrigger H eid (result.eimTransactionID.getD []) s).1 =
      .ok (some operation) →
    StoredFrom H s eid (notificationsIn H.bertlv raw) operation.sequenceNumber

theorem StoredFrom.congr (h : s'.notifications = s.notifications) :
    StoredFrom H s' eid pendings n ↔ StoredFrom H s eid pendings n := by
  simp only [StoredFrom, Store.records, h]

/-- The numbers that a recorded result is acknowledged with are the eUICC's exactly if it is no
error result, nor a download result that is not stored. -/
theorem acknowledgeable_iff (h : recordEimPackageResult H eid raw s = (.ok recorded, s')) :
    (recorded.numbers.Nodup ∧ ∀ n ∈ recorded.numbers, Acknowledgeable H s' eid raw n) ↔
      AcknowledgesOwn H s eid raw := by
  obtain ⟨payload, -, h⟩ := ReadOnly.bind_eq_ok (readOnly_ofExcept _) h
  split at h
  next htag =>
      obtain ⟨result, operation, hdecode, hfound, hnumbers, hkept⟩ := numbers_of_downloadResult h
      have hunsigned : signedSequenceNumber H.bertlv raw = none :=
        signedSequenceNumber_of_tag (by rw [htag]; decide) (by rw [htag]; decide)
      rw [hnumbers]
      constructor
      · rintro ⟨-, hall⟩
        refine ⟨by rw [htag]; decide, fun _ result' operation' hdecode' hfound' => ?_⟩
        obtain rfl := Except.ok.inj (hdecode.symm.trans hdecode')
        obtain rfl := Option.some.inj (Except.ok.inj (hfound.symm.trans hfound'))
        rcases hall _ (List.mem_singleton_self _) with hsigned | hstored
        · cases hunsigned.symm.trans hsigned
        · exact (StoredFrom.congr hkept).mp hstored
      · intro hown
        refine ⟨List.nodup_singleton _, fun n hn => .inr ?_⟩
        rw [List.mem_singleton.mp hn]
        exact (StoredFrom.congr hkept).mpr (hown.download htag result operation hdecode hfound)
  next hdownload =>
      split at h
      next htag =>
          have hsound := acknowledgeable_of_dataResponse htag h
          have hown : AcknowledgesOwn H s eid raw :=
            ⟨by rw [htag]; decide, fun hne => absurd hne hdownload⟩
          exact iff_of_true hsound hown
      next hdata =>
          split at h
          next herror =>
              obtain ⟨operation, hnumbers⟩ := numbers_of_error h
              refine iff_of_false ?_ fun hown => herror.elim hown.not_error.1 hown.not_error.2
              rintro ⟨-, hall⟩
              rw [hnumbers] at hall
              have htags : raw.tag ≠ tagSequence ∧ raw.tag ≠ tagEuiccPkg := by
                rcases herror with htag | htag
                all_goals
                  rw [htag]
                  decide
              rcases hall _ (List.mem_singleton_self _) with hsigned | ⟨pending, hpending, -⟩
              · cases (signedSequenceNumber_of_tag htags.1 htags.2).symm.trans hsigned
              · rw [notificationsIn, if_neg hdownload, if_neg hdata, splitResult,
                  if_neg htags.1] at hpending
                cases hpending
          next herror =>
              have hsound := acknowledgeable_of_packageResult hdownload hdata h
              have hown : AcknowledgesOwn H s eid raw :=
                ⟨not_or.mp herror, fun hne => absurd hne hdownload⟩
              exact iff_of_true hsound hown

/-- The acknowledged numbers are distinct and the eUICC's own, carried by the message, exactly if
the message delivers neither an error result nor a download result that is not stored. -/
theorem acknowledgements_sound_iff {reply : Reply} {numbers : List Int}
    (hmessage : IsResultMessage tlv) (hreply : (dispatch H tlv s).1 = .ok reply)
    (hack : reply.acknowledged = some numbers) :
    (numbers.Nodup ∧ ∀ n ∈ numbers, ∃ eid raw, Delivers H s tlv eid raw ∧
        Acknowledgeable H (dispatch H tlv s).2 eid raw n) ↔
      ∀ eid raw, Delivers H s tlv eid raw → AcknowledgesOwn H s eid raw := by
  by_cases hdelivery : ∃ eid raw, Delivers H s tlv eid raw
  · obtain ⟨eid, raw, hdelivers⟩ := hdelivery
    obtain ⟨recorded, hrecorded, rfl⟩ := recorded_of_acknowledged hdelivers hreply hack
    have hrun : recordEimPackageResult H eid raw s = (.ok recorded, (dispatch H tlv s).2) :=
      Prod.ext hrecorded (dispatch_of_delivers hdelivers).symm
    have hiff := acknowledgeable_iff hrun
    constructor
    · rintro ⟨hnodup, hall⟩ eid' raw' hdelivers'
      obtain ⟨rfl, rfl⟩ := hdelivers.unique hdelivers'
      apply hiff.mp
      refine ⟨hnodup, fun n hn => ?_⟩
      obtain ⟨eid'', raw'', hdelivers'', hn⟩ := hall n hn
      obtain ⟨rfl, rfl⟩ := hdelivers.unique hdelivers''
      exact hn
    · intro hown
      obtain ⟨hnodup, hall⟩ := hiff.mpr (hown eid raw hdelivers)
      exact ⟨hnodup, fun n hn => ⟨eid, raw, hdelivers, hall n hn⟩⟩
  · have hnone : ∀ eid raw, ¬ Delivers H s tlv eid raw :=
      fun eid raw hdelivers => hdelivery ⟨eid, raw, hdelivers⟩
    obtain rfl := acknowledged_of_not_delivers hmessage hnone hreply hack
    constructor
    · intro _ eid raw hdelivers
      exact absurd hdelivers (hnone eid raw)
    · intro _
      exact ⟨List.nodup_nil, fun n hn => nomatch hn⟩

theorem acknowledgements_sound_iff_signed :
    (([5] : List Int).Nodup ∧ ∀ n ∈ ([5] : List Int), ∃ eid raw,
        Delivers sampleHandler (sampleStore [samplePackage (.enable [0x89] false) 1])
          (sampleMessage (sampleSignedResult 1 3 0)) eid raw ∧
        Acknowledgeable sampleHandler (dispatch sampleHandler
          (sampleMessage (sampleSignedResult 1 3 0))
          (sampleStore [samplePackage (.enable [0x89] false) 1])).2 eid raw n) ↔
      ∀ eid raw, Delivers sampleHandler (sampleStore [samplePackage (.enable [0x89] false) 1])
          (sampleMessage (sampleSignedResult 1 3 0)) eid raw →
        AcknowledgesOwn sampleHandler (sampleStore [samplePackage (.enable [0x89] false) 1]) eid
          raw := by
  have hreply : ((dispatch sampleHandler (sampleMessage (sampleSignedResult 1 3 0))
      (sampleStore [samplePackage (.enable [0x89] false) 1])).1.toOption.bind
        Reply.acknowledged) = some [5] := by
    decide +kernel
  cases hrun : (dispatch sampleHandler (sampleMessage (sampleSignedResult 1 3 0))
      (sampleStore [samplePackage (.enable [0x89] false) 1])).1 with
  | error e =>
      rw [hrun] at hreply
      cases hreply
  | ok reply =>
      rw [hrun] at hreply
      exact acknowledgements_sound_iff (.inl rfl) hrun hreply

/-- An error result is acknowledged with the queue number of the failed package. -/
theorem queue_number_acknowledged_for_error :
    ((dispatch sampleHandler (sampleMessage (.primitive tagInteger [0x01]))
        (sampleStore [samplePackage (.enable [0x89] false) 7])).1.toOption.bind
          Reply.acknowledged) = some [1] ∧
      signedSequenceNumber sampleHandler.bertlv (.primitive tagInteger [0x01]) = none ∧
      notificationsIn sampleHandler.bertlv (.primitive tagInteger [0x01]) = [] := by
  refine ⟨?_, rfl, rfl⟩
  decide +kernel

end OpenIotRsp.Esipa
