import OpenIotRsp.Verification.Esipa.Correlation

/-!
# Delivered results

A provide or transfer message delivers a result for one device.  Processing the
message has the effect of recording that result; a message that delivers
nothing leaves the store as it is.
-/

namespace OpenIotRsp.Esipa

open Octets Ber Stateful Asn1 Storage Euiccpkg

variable {provideTLV : Tlv}

/-- The message delivers the result `raw` for the device `eid`. -/
inductive Delivers (H : Handler) (s : Store) (tlv : Tlv) (eid : Bytes) (raw : Tlv) : Prop
  | provide {provideTLV : Tlv} {request : ProvideEimPackageResult}
      (hprovide : provideResultTLV tlv = some provideTLV)
      (hdecode : ProvideEimPackageResult.unmarshalBERTLV H.bertlv provideTLV = .ok request)
      (hraw : request.eimPackageResult.raw = raw)
      (heid : (resolveProvideResultEID H.bertlv H.x509 H.tenant request.eid raw s).1 =
        .ok (.ok eid))
  | transfer {request : TransferEimPackageResponse} {eidTLV : Tlv}
      (htag : tlv.tag = tagTransferEimPackage)
      (hdecode : TransferEimPackageResponse.unmarshalBERTLV H.bertlv tlv = .ok request)
      (hraw : request.raw = raw)
      (hfirst : raw.first tagEID = some eidTLV)
      (heid : eidKey eidTLV.value = .ok eid)

/-- A message that provides or transfers a result. -/
def IsResultMessage (tlv : Tlv) : Prop :=
  (provideResultTLV tlv).isSome ∨ tlv.tag = tagTransferEimPackage

/-- The result in a provide or transfer message, whatever device it is for. -/
def resultPayload (H : Handler) (tlv : Tlv) : Option Tlv :=
  match provideResultTLV tlv with
  | some provideTLV =>
      (ProvideEimPackageResult.unmarshalBERTLV H.bertlv provideTLV).toOption.map fun request =>
        request.eimPackageResult.raw
  | none =>
      if tlv.tag = tagTransferEimPackage then
        (TransferEimPackageResponse.unmarshalBERTLV H.bertlv tlv).toOption.map
          TransferEimPackageResponse.raw
      else none

/-- The numbers that a reply acknowledges. -/
def Reply.acknowledged : Reply → Option (List Int)
  | .provideResult (.acknowledgements ack) => some ack.sequenceNumbers
  | .transferAck ack => some ack.sequenceNumbers
  | _ => none

variable {H : Handler} {s : Store} {tlv raw : Tlv} {eid : Bytes}

theorem tag_of_provideResultTLV (h : provideResultTLV tlv = some provideTLV) :
    tlv.tag = tagHandleNotify ∨ tlv.tag = tagProvideEimResult := by
  rw [provideResultTLV] at h
  split at h
  next htag => exact .inl htag
  next =>
      split at h
      next htag => exact .inr htag
      next => cases h

theorem isResultMessage_of_payload (h : resultPayload H tlv = some raw) : IsResultMessage tlv := by
  rw [resultPayload] at h
  split at h
  next hprovide => exact .inl (by rw [hprovide, Option.isSome_some])
  next =>
      split at h
      next htag => exact .inr htag
      next => cases h

theorem Delivers.payload (h : Delivers H s tlv eid raw) : resultPayload H tlv = some raw := by
  cases h with
  | provide hprovide hdecode hraw =>
      rw [resultPayload, hprovide]
      simp [hdecode, hraw, Except.toOption]
  | transfer htag hdecode hraw =>
      have hnone : provideResultTLV tlv = none := by
        rw [provideResultTLV, htag, if_neg (by decide), if_neg (by decide)]
      rw [resultPayload, hnone]
      simp [htag, hdecode, hraw, Except.toOption]

/-! ## The handlers of the two messages -/

theorem readOnly_resolveProvideResultEID (B : Bertlv) (X : Ipadata.X509) (tenantID : TenantID)
    (explicitEID : Option Bytes) (resultTLV : Tlv) :
    ReadOnly (resolveProvideResultEID B X tenantID explicitEID resultTLV) := by
  unfold resolveProvideResultEID
  split
  next => exact keeps_pure id _
  next =>
      split
      next => exact keeps_pure id _
      next =>
          split
          next => exact keeps_pure id _
          next => exact keeps_pure id _
          next =>
              refine (keeps_listPendingOperations id tenantID 10000).bind fun pending => ?_
              refine (keeps_ofExcept id _).bind fun found => ?_
              cases found with
              | some operation => exact keeps_pure id _
              | none => exact keeps_pure id _

theorem handleProvideEimPackageResult_of_resolved {request : ProvideEimPackageResult}
    (hprovide : provideResultTLV tlv = some provideTLV)
    (hdecode : ProvideEimPackageResult.unmarshalBERTLV H.bertlv provideTLV = .ok request)
    (heid : (resolveProvideResultEID H.bertlv H.x509 H.tenant request.eid
      request.eimPackageResult.raw s).1 = .ok (.ok eid)) :
    handleProvideEimPackageResult H tlv s =
      (findRow (recordEimPackageResult H eid request.eimPackageResult.raw) >>= fun recorded =>
        pure (provideReply recorded)) s := by
  have hresolve : resolveProvideResultEID H.bertlv H.x509 H.tenant request.eid
      request.eimPackageResult.raw s = (.ok (.ok eid), s) :=
    Prod.ext heid (readOnly_resolveProvideResultEID _ _ _ _ _ s)
  rw [handleProvideEimPackageResult, hprovide]
  refine (ofExcept_bind_of_ok _ s hdecode).trans ?_
  exact bind_of_ok hresolve

theorem handleProvideEimPackageResult_of_unresolved
    (h : ∀ eid raw, ¬ Delivers H s tlv eid raw) :
    (handleProvideEimPackageResult H tlv s).2 = s ∧
      ∀ reply, (handleProvideEimPackageResult H tlv s).1 = .ok reply →
        reply.acknowledged = none := by
  rw [handleProvideEimPackageResult]
  cases hprovide : provideResultTLV tlv with
  | none => exact ⟨rfl, fun reply hreply => nomatch hreply⟩
  | some provideTLV =>
      cases hdecode : ProvideEimPackageResult.unmarshalBERTLV H.bertlv provideTLV with
      | error e =>
          dsimp only
          rw [ofExcept_bind_of_error _ s hdecode]
          exact ⟨rfl, fun reply hreply => nomatch hreply⟩
      | ok request =>
          dsimp only
          rw [ofExcept_bind_of_ok _ s hdecode]
          have hread := readOnly_resolveProvideResultEID H.bertlv H.x509 H.tenant request.eid
            request.eimPackageResult.raw s
          rcases hrun : resolveProvideResultEID H.bertlv H.x509 H.tenant request.eid
            request.eimPackageResult.raw s with ⟨r, t⟩
          obtain rfl : t = s := by rwa [hrun] at hread
          cases r with
          | error e =>
              rw [bind_of_error hrun]
              exact ⟨rfl, fun reply hreply => nomatch hreply⟩
          | ok resolved =>
              rw [bind_of_ok hrun]
              cases resolved with
              | error code =>
                  refine ⟨rfl, fun reply hreply => ?_⟩
                  obtain rfl := Except.ok.inj hreply
                  rfl
              | ok eid => exact absurd (.provide hprovide hdecode rfl (by rw [hrun])) (h eid _)

theorem handleTransferEimPackageResponse_of_identified {request : TransferEimPackageResponse}
    {eidTLV : Tlv} (hdecode : TransferEimPackageResponse.unmarshalBERTLV H.bertlv tlv = .ok request)
    (hfirst : request.raw.first tagEID = some eidTLV) (heid : eidKey eidTLV.value = .ok eid) :
    handleTransferEimPackageResponse H tlv s =
      (recordEimPackageResult H eid request.raw >>= fun recorded =>
        pure (transferReply recorded)) s := by
  refine (ofExcept_bind_of_ok _ s hdecode).trans ?_
  rw [hfirst]
  dsimp only
  rw [heid]

theorem handleTransferEimPackageResponse_of_unidentified (htag : tlv.tag = tagTransferEimPackage)
    (h : ∀ eid raw, ¬ Delivers H s tlv eid raw) :
    (handleTransferEimPackageResponse H tlv s).2 = s ∧
      ∀ reply, (handleTransferEimPackageResponse H tlv s).1 = .ok reply →
        reply.acknowledged = some [] := by
  cases hdecode : TransferEimPackageResponse.unmarshalBERTLV H.bertlv tlv with
  | error e =>
      rw [handleTransferEimPackageResponse, ofExcept_bind_of_error _ s hdecode]
      exact ⟨rfl, fun reply hreply => nomatch hreply⟩
  | ok request =>
      rw [handleTransferEimPackageResponse, ofExcept_bind_of_ok _ s hdecode]
      cases hfirst : request.raw.first tagEID with
      | none => exact ⟨rfl, fun reply hreply => nomatch hreply⟩
      | some eidTLV =>
          dsimp only
          cases heid : eidKey eidTLV.value with
          | error code =>
              refine ⟨rfl, fun reply hreply => ?_⟩
              obtain rfl := Except.ok.inj hreply
              rfl
          | ok eid => exact absurd (.transfer htag hdecode rfl hfirst heid) (h eid _)

/-! ## Dispatch -/

theorem dispatch_of_provide (h : provideResultTLV tlv = some provideTLV) :
    dispatch H tlv = if tlv.tag = tagHandleNotify then
        handleProvideEimPackageResult H tlv >>= fun reply =>
          ofExcept (reply.marshalBERTLV H.bertlv) >>= fun _ => pure .noContent
      else handleProvideEimPackageResult H tlv := by
  rcases tag_of_provideResultTLV h with htag | htag
  · have hnotify : handleNotification H tlv =
        (handleProvideEimPackageResult H tlv >>= fun reply =>
          ofExcept (reply.marshalBERTLV H.bertlv) >>= fun _ => pure .noContent) := by
      rw [handleNotification, h]
    rw [dispatch, htag, if_neg (by decide), if_neg (by decide), if_neg (by decide), if_pos rfl,
      if_pos rfl, hnotify]
  · rw [dispatch, htag, if_neg (by decide), if_pos rfl, if_neg (by decide)]

theorem dispatch_of_transfer (h : tlv.tag = tagTransferEimPackage) :
    dispatch H tlv = handleTransferEimPackageResponse H tlv := by
  rw [dispatch, h, if_neg (by decide), if_neg (by decide), if_pos rfl]

theorem findRow_state {α : Type} (m : StoreM α) (s : Store) : (findRow m s).2 = (m s).2 := by
  refine bind_state_of_readOnly (fun r => ?_) s
  split
  next => exact keeps_pure id _
  next => exact keeps_pure id _
  next => exact keeps_fail id _

theorem dispatch_state_of_provide (hprovide : provideResultTLV tlv = some provideTLV) :
    (dispatch H tlv s).2 = (handleProvideEimPackageResult H tlv s).2 := by
  rw [dispatch_of_provide hprovide]
  split
  next =>
      exact bind_state_of_readOnly
        (fun _ => (keeps_ofExcept id _).bind fun _ => keeps_pure id _) s
  next => rfl

/-- The effect of a message is to record what it delivers. -/
theorem dispatch_of_delivers (h : Delivers H s tlv eid raw) :
    (dispatch H tlv s).2 = (recordEimPackageResult H eid raw s).2 := by
  cases h with
  | @provide provideTLV request hprovide hdecode hraw heid =>
      subst hraw
      rw [dispatch_state_of_provide hprovide,
        handleProvideEimPackageResult_of_resolved hprovide hdecode heid,
        bind_state_of_readOnly (fun _ => keeps_pure id _), findRow_state]
  | transfer htag hdecode hraw hfirst heid =>
      subst hraw
      rw [dispatch_of_transfer htag, handleTransferEimPackageResponse_of_identified hdecode hfirst
        heid, bind_state_of_readOnly fun _ => keeps_pure id _]

theorem dispatch_of_not_delivers (hmessage : IsResultMessage tlv)
    (h : ∀ eid raw, ¬ Delivers H s tlv eid raw) : (dispatch H tlv s).2 = s := by
  rcases hmessage with hprovide | htag
  · obtain ⟨provideTLV, hprovide⟩ := Option.isSome_iff_exists.mp hprovide
    rw [dispatch_state_of_provide hprovide]
    exact (handleProvideEimPackageResult_of_unresolved h).1
  · rw [dispatch_of_transfer htag]
    exact (handleTransferEimPackageResponse_of_unidentified htag h).1

/-- An observation that recording the delivered result keeps is kept by the message. -/
theorem keepsAt_dispatch {γ : Type} {f : Store → γ} (hmessage : IsResultMessage tlv)
    (h : ∀ eid raw, Delivers H s tlv eid raw → KeepsAt f (recordEimPackageResult H eid raw) s) :
    KeepsAt f (dispatch H tlv) s := by
  by_cases hdelivers : ∃ eid raw, Delivers H s tlv eid raw
  · obtain ⟨eid, raw, hdelivers⟩ := hdelivers
    rw [KeepsAt, dispatch_of_delivers hdelivers]
    exact h eid raw hdelivers
  · rw [KeepsAt, dispatch_of_not_delivers hmessage]
    intro eid raw hd
    exact hdelivers ⟨eid, raw, hd⟩

/-- The numbers of a recorded result. -/
def Recorded.numbers : Recorded → List Int
  | .ack sequenceNumbers => sequenceNumbers
  | .empty => []

theorem acknowledged_provideReply {row : Option Recorded} {numbers : List Int}
    (h : (provideReply row).acknowledged = some numbers) :
    ∃ recorded, row = some recorded ∧ numbers = recorded.numbers := by
  cases row with
  | none => cases h
  | some recorded =>
      cases recorded with
      | ack sequenceNumbers => exact ⟨_, rfl, (Option.some.inj h).symm⟩
      | empty => cases h

theorem acknowledged_transferReply (recorded : Recorded) :
    (transferReply recorded).acknowledged = some recorded.numbers := by
  cases recorded with
  | ack sequenceNumbers => rfl
  | empty => rfl

/-- An acknowledgement is the answer of a message that does not come as a notification. -/
theorem dispatch_of_acknowledged {reply : Reply} {numbers : List Int}
    (hprovide : provideResultTLV tlv = some provideTLV) (hreply : (dispatch H tlv s).1 = .ok reply)
    (hack : reply.acknowledged = some numbers) :
    dispatch H tlv s = handleProvideEimPackageResult H tlv s := by
  have hrun : dispatch H tlv s = (.ok reply, (dispatch H tlv s).2) := Prod.ext hreply rfl
  rw [dispatch_of_provide hprovide] at hrun ⊢
  split at hrun
  next =>
      obtain ⟨_, _, -, hrun⟩ := Stateful.bind_eq_ok hrun
      obtain ⟨_, _, -, hrun⟩ := Stateful.bind_eq_ok hrun
      obtain rfl := Except.ok.inj (congrArg Prod.fst hrun)
      cases hack
  next htag => rw [if_neg htag]

/-- What a reply acknowledges is what recording the delivered result returned. -/
theorem recorded_of_acknowledged {reply : Reply} {numbers : List Int}
    (hdelivers : Delivers H s tlv eid raw) (hreply : (dispatch H tlv s).1 = .ok reply)
    (hack : reply.acknowledged = some numbers) :
    ∃ recorded, (recordEimPackageResult H eid raw s).1 = .ok recorded ∧
      numbers = recorded.numbers := by
  cases hdelivers with
  | provide hprovide hdecode hraw heid =>
      subst hraw
      rw [dispatch_of_acknowledged hprovide hreply hack,
        handleProvideEimPackageResult_of_resolved hprovide hdecode heid] at hreply
      obtain ⟨row, t, hrow, hrun⟩ := Stateful.bind_eq_ok (Prod.ext hreply rfl)
      obtain rfl := Except.ok.inj (congrArg Prod.fst hrun)
      obtain ⟨recorded, hsome, hnumbers⟩ := acknowledged_provideReply hack
      rcases findRow_eq_ok hrow with ⟨found, hfound, hrecord⟩ | ⟨hnone, -⟩
      · obtain rfl := Option.some.inj (hfound.symm.trans hsome)
        exact ⟨found, congrArg Prod.fst hrecord, hnumbers⟩
      · cases hnone.symm.trans hsome
  | transfer htag hdecode hraw hfirst heid =>
      subst hraw
      rw [dispatch_of_transfer htag,
        handleTransferEimPackageResponse_of_identified hdecode hfirst heid] at hreply
      obtain ⟨recorded, t, hrecord, hrun⟩ := Stateful.bind_eq_ok (Prod.ext hreply rfl)
      obtain rfl := Except.ok.inj (congrArg Prod.fst hrun)
      rw [acknowledged_transferReply] at hack
      exact ⟨recorded, congrArg Prod.fst hrecord, (Option.some.inj hack).symm⟩

theorem acknowledged_of_not_delivers {reply : Reply} {numbers : List Int}
    (hmessage : IsResultMessage tlv) (hnone : ∀ eid raw, ¬ Delivers H s tlv eid raw)
    (hreply : (dispatch H tlv s).1 = .ok reply) (hack : reply.acknowledged = some numbers) :
    numbers = [] := by
  rcases hmessage with hprovide | htag
  · obtain ⟨provideTLV, hprovide⟩ := Option.isSome_iff_exists.mp hprovide
    rw [dispatch_of_acknowledged hprovide hreply hack] at hreply
    have hno := (handleProvideEimPackageResult_of_unresolved hnone).2 reply hreply
    cases hno.symm.trans hack
  · rw [dispatch_of_transfer htag] at hreply
    have hempty := (handleTransferEimPackageResponse_of_unidentified htag hnone).2 reply hreply
    exact Option.some.inj (hack.symm.trans hempty)

/-- A message delivers one result, for one device. -/
theorem Delivers.unique {eid' : Bytes} {raw' : Tlv} (h : Delivers H s tlv eid raw)
    (h' : Delivers H s tlv eid' raw') : eid = eid' ∧ raw = raw' := by
  obtain rfl := Option.some.inj (h.payload.symm.trans h'.payload)
  refine ⟨?_, rfl⟩
  cases h with
  | provide hprovide hdecode hraw heid =>
      cases h' with
      | provide hprovide' hdecode' hraw' heid' =>
          obtain rfl := Option.some.inj (hprovide.symm.trans hprovide')
          obtain rfl := Except.ok.inj (hdecode.symm.trans hdecode')
          exact Except.ok.inj (Except.ok.inj (heid.symm.trans heid'))
      | transfer htag =>
          rcases tag_of_provideResultTLV hprovide with hnotify | hprovide
          · cases hnotify.symm.trans htag
          · cases hprovide.symm.trans htag
  | transfer htag hdecode hraw hfirst heid =>
      cases h' with
      | provide hprovide' =>
          rcases tag_of_provideResultTLV hprovide' with hnotify | hprovide
          · cases hnotify.symm.trans htag
          · cases hprovide.symm.trans htag
      | transfer htag' hdecode' hraw' hfirst' heid' =>
          obtain rfl := Option.some.inj (hfirst.symm.trans hfirst')
          exact Except.ok.inj (heid.symm.trans heid')

/-! ## The wire -/

/-- The effect of a message on the wire is that of the tree it is read as. -/
theorem handleEncodedResponse_of_decoded {data : Bytes} (h : decodeRequest H data = .ok tlv) :
    (handleEncodedResponse H data s).2 = (dispatch H tlv s).2 := by
  rw [handleEncodedResponse, ofExcept_bind_of_ok _ s h, bind_state_of_readOnly]
  · exact bind_state_of_readOnly (fun reply => keeps_ofExcept id _) s
  · intro response
    cases response with
    | none => exact keeps_pure id _
    | some response => exact (keeps_ofExcept id _).bind fun _ => keeps_pure id _

theorem handleEncodedResponse_cases (H : Handler) (s : Store) (payload : Bytes) :
    (handleEncodedResponse H payload s).2 = s ∨
      ∃ tlv, decodeRequest H payload = .ok tlv ∧
        (handleEncodedResponse H payload s).2 = (dispatch H tlv s).2 := by
  cases hdecode : decodeRequest H payload with
  | error e =>
      rw [handleEncodedResponse, ofExcept_bind_of_error _ s hdecode]
      exact .inl rfl
  | ok tlv => exact .inr ⟨tlv, rfl, handleEncodedResponse_of_decoded hdecode⟩

theorem keeps_handleEncodedResponse {γ : Type} {f : Store → γ}
    (h : ∀ tlv, Keeps f (dispatch H tlv)) (payload : Bytes) :
    Keeps f (handleEncodedResponse H payload) := by
  intro s
  rcases handleEncodedResponse_cases H s payload with hstate | ⟨tlv, -, hstate⟩
  · rw [hstate]
  · rw [hstate, h tlv s]

end OpenIotRsp.Esipa
