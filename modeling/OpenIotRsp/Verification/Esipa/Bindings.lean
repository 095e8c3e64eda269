import OpenIotRsp.Model.Esipa.GsmaJson
import OpenIotRsp.Verification.Esipa.PackageResults
import OpenIotRsp.Verification.Package.RoundTrip

/-!
# The ASN.1 and the JSON binding

A provided result leaves the same store behind and gets the same answer on both
bindings, as long as both bodies pass the size limit.
-/

namespace OpenIotRsp.Esipa

open Octets Ber Stateful Asn1 Storage Ipadata Outcome

/-! ## What the bindings have in common -/

/-- Packages outside the repository: what encodes a tree encodes its children, and what is written
is read back from JSON bodies as well. -/
structure Unmarshaler.Lawful (U : Unmarshaler) (B : Bertlv) : Prop where
  marshals_child : ∀ tag ts t w, B.marshalBinary (.constructed tag ts) = some w → t ∈ ts →
    ∃ v, B.marshalBinary t = some v
  unmarshalBinary_marshalBinary : ∀ t w, t.WellFormed → B.marshalBinary t = some w →
    U.unmarshalBinary w = some t

/-- A BF50 with the result, and with an EID where it is given. -/
def provideMessage (eid : Option Bytes) (result : Tlv) : Tlv :=
  .constructed tagProvideEimResult ((eid.map (octetTLV tagEID)).toList ++ [result])

/-- A BF3D with a BF50. -/
def notifyMessage (provideTLV : Tlv) : Tlv := .constructed tagHandleNotify [provideTLV]

/-- The JSON answer for a response. -/
def Stands (B : Bertlv) (answer : GsmaProvideResponse) : ProvideEimPackageResultResponse → Prop
  | .empty => answer = { }
  | .acknowledgements ack => ∃ octets, Asn1.encode B (ack.marshalBERTLV B) = .ok octets ∧
      answer = { eimAcknowledgements := Base64.encode octets }
  | .error code => answer = { eimPackageError := some code }

/-- Both fail with the same status, both have no content, or both carry the same response. -/
inductive SameAnswer (B : Bertlv) : HttpAnswer GsmaProvideResponse → HttpAnswer Bytes → Prop
  | failed (statusCode : Nat) (reason reason' : String) :
      SameAnswer B (.failed statusCode reason) (.failed statusCode reason')
  | noContent : SameAnswer B .noContent .noContent
  | content {answer : GsmaProvideResponse} {payload : Bytes} {tlv : Tlv}
      (response : ProvideEimPackageResultResponse)
      (hmarshal : response.marshalBERTLV B = .ok tlv) (hpayload : B.marshalBinary tlv = some payload)
      (hstands : Stands B answer response) : SameAnswer B (.content answer) (.content payload)

variable {H : Handler} {U : Unmarshaler} {s s' : Store} {eid : Option Bytes} {result message : Tlv}
  {payload : Bytes} {maxMessageSize : Nat} {B : Bertlv} {e : Bytes}

theorem provideMessage_wellFormed (hresult : result.WellFormed) :
    (provideMessage eid result).WellFormed := by
  refine ⟨by decide, by decide, Tlv.allWellFormed_iff.mpr fun t ht => ?_⟩
  rcases List.mem_append.mp ht with ht | ht
  · obtain ⟨e, -, rfl⟩ := Option.map_eq_some_iff.mp (Option.mem_toList.mp ht)
    exact ⟨by decide, by decide⟩
  · obtain rfl := List.mem_singleton.mp ht
    exact hresult

theorem notifyMessage_wellFormed {provideTLV : Tlv} (h : provideTLV.WellFormed) :
    (notifyMessage provideTLV).WellFormed :=
  ⟨by decide, by decide, h, trivial⟩

/-! ## Requests -/

theorem length_of_recoverFromIpaEuiccData {X : X509}
    (h : recoverEIDFromIpaEuiccDataTLV B X result = some e) : e.length = 16 := by
  rw [recoverEIDFromIpaEuiccDataTLV] at h
  split at h
  next child hfind =>
      obtain rfl := Option.some.inj h
      have hfound := List.find?_some hfind
      exact (of_decide_eq_true hfound).2
  next =>
      obtain ⟨child, -, hchild⟩ := List.exists_of_findSome?_eq_some h
      obtain ⟨eidHex, -, hfilter⟩ := Option.bind_eq_some_iff.mp hchild
      exact of_decide_eq_true (Option.filter_eq_some_iff.mp hfilter).2

/-- What is recovered from a result is an EID. -/
theorem length_of_recover {X : X509} (htag : result.tag ≠ tagProvideEimResult)
    (h : recoverEIDFromPackageResultTLV B X result = some e) : e.length = 16 := by
  cases result with
  | primitive tag value => cases h
  | constructed tag children =>
      rw [Tlv.tag_constructed] at htag
      rw [recoverEIDFromPackageResultTLV, if_neg htag] at h
      split at h
      next => exact length_of_recoverFromIpaEuiccData h
      next => cases h

theorem raw_of_unmarshal {decoded : EimPackageResult}
    (h : EimPackageResult.unmarshalBERTLV B result = .ok decoded) : decoded.raw = result := by
  rw [EimPackageResult.unmarshalBERTLV] at h
  split at h
  next =>
      obtain ⟨choice, -, hdecoded⟩ := bind_eq_ok.mp h
      obtain rfl := Except.ok.inj hdecoded
      rfl
  next => cases h

/-- The fields of a BF50. -/
theorem unmarshal_provideMessage (B : Bertlv) (htag : result.tag ≠ tagEID) :
    ProvideEimPackageResult.unmarshalBERTLV B (provideMessage eid result) =
      (do return ⟨eid, ← EimPackageResult.unmarshalBERTLV B result⟩) := by
  cases eid with
  | none =>
      simp [ProvideEimPackageResult.unmarshalBERTLV, provideMessage, expectTag, htag, Tlv.first]
  | some e =>
      simp [ProvideEimPackageResult.unmarshalBERTLV, provideMessage, expectTag, htag, Tlv.first,
        octetTLV, Tlv.value]

/-- A message is handled in the same way whether its EID is given or recovered from the result. -/
theorem handleProvide_recovered
    (hrecover : recoverEIDFromPackageResultTLV H.bertlv H.x509 result = some e)
    (hlen : e.length = 16) (htag : result.tag ≠ tagEID) {m m' : Tlv}
    (hm : provideResultTLV m = some (provideMessage (some e) result))
    (hm' : provideResultTLV m' = some (provideMessage none result)) :
    handleProvideEimPackageResult H m = handleProvideEimPackageResult H m' := by
  rw [handleProvideEimPackageResult, handleProvideEimPackageResult, hm, hm']
  dsimp only
  rw [unmarshal_provideMessage _ htag, unmarshal_provideMessage _ htag]
  cases hdecode : EimPackageResult.unmarshalBERTLV H.bertlv result with
  | error error => rfl
  | ok decoded =>
      have hraw := raw_of_unmarshal hdecode
      have hne : e ≠ [] := by
        rintro rfl
        cases hlen
      have hexplicit : resolveProvideResultEID H.bertlv H.x509 H.tenant (some e) decoded.raw =
          pure (eidKey e) := if_pos hne
      have hrecovered : resolveProvideResultEID H.bertlv H.x509 H.tenant none decoded.raw =
          pure (eidKey e) := by
        have hfilter : (some e).filter (fun eid => eid.length = 16) = some e := by simp [hlen]
        rw [resolveProvideResultEID, if_neg (by simp), hraw, hrecover, hfilter]
      simp only [ok_bind, pure_eq]
      funext s
      rw [ofExcept_bind_of_ok _ s rfl, ofExcept_bind_of_ok _ s rfl]
      dsimp only
      rw [hexplicit, hrecovered]

/-- The EID that the JSON binding puts into a message: the one that is given, else the one that can be
recovered. -/
def suppliedEID (H : Handler) (eid : Option Bytes) (result : Tlv) : Option Bytes :=
  eid.or (recoverEIDFromPackageResultTLV H.bertlv H.x509 result)

theorem handleProvide_supplied (hprovide : result.tag ≠ tagProvideEimResult)
    (htag : result.tag ≠ tagEID) {m m' : Tlv}
    (hm : provideResultTLV m = some (provideMessage (suppliedEID H eid result) result))
    (hm' : provideResultTLV m' = some (provideMessage eid result)) :
    handleProvideEimPackageResult H m = handleProvideEimPackageResult H m' := by
  have hsame (h : suppliedEID H eid result = eid) :
      handleProvideEimPackageResult H m = handleProvideEimPackageResult H m' := by
    rw [h] at hm
    rw [handleProvideEimPackageResult, handleProvideEimPackageResult, hm, hm']
  cases eid with
  | some e => exact hsame rfl
  | none =>
      cases hrecover : recoverEIDFromPackageResultTLV H.bertlv H.x509 result with
      | none => exact hsame (by rw [suppliedEID, hrecover]; rfl)
      | some e =>
          rw [suppliedEID, hrecover] at hm
          exact handleProvide_recovered hrecover (length_of_recover hprovide hrecover) htag hm hm'

theorem provideResultTLV_provideMessage (eid : Option Bytes) (result : Tlv) :
    provideResultTLV (provideMessage eid result) = some (provideMessage eid result) := rfl

theorem provideResultTLV_notifyMessage (eid : Option Bytes) (result : Tlv) :
    provideResultTLV (notifyMessage (provideMessage eid result)) =
      some (provideMessage eid result) := rfl

theorem handle_provideMessage (eid : Option Bytes) (result : Tlv) :
    handle H (provideMessage eid result) = (do
      let reply ← handleProvideEimPackageResult H (provideMessage eid result)
      Stateful.ofExcept (reply.marshalBERTLV H.bertlv)) := rfl

theorem handle_notifyMessage (eid : Option Bytes) (result : Tlv) :
    handle H (notifyMessage (provideMessage eid result)) = (do
      let reply ← (do
        let reply ← handleProvideEimPackageResult H (notifyMessage (provideMessage eid result))
        let _ ← Stateful.ofExcept (reply.marshalBERTLV H.bertlv)
        return Reply.noContent)
      Stateful.ofExcept (reply.marshalBERTLV H.bertlv)) := rfl

/-- What is written of a message is handled as the message. -/
theorem handleEncodedResponse_congr (hB : H.bertlv.Lawful) {m m' : Tlv} {w w' : Bytes}
    (hm : m.WellFormed) (hm' : m'.WellFormed) (hw : H.bertlv.marshalBinary m = some w)
    (hw' : H.bertlv.marshalBinary m' = some w')
    (htag : isAllowedTag m [57, 59, 58, 65, 61, 78, 79, 80])
    (htag' : isAllowedTag m' [57, 59, 58, 65, 61, 78, 79, 80]) (h : handle H m = handle H m') :
    handleEncodedResponse H w = handleEncodedResponse H w' := by
  have hdecode : decodeRequest H w = .ok m := by
    rw [decodeRequest, Asn1.decode, parseTLV_marshalBinary hB hm hw]
    exact if_pos htag
  have hdecode' : decodeRequest H w' = .ok m' := by
    rw [decodeRequest, Asn1.decode, parseTLV_marshalBinary hB hm' hw']
    exact if_pos htag'
  funext s
  rw [handleEncodedResponse, handleEncodedResponse, ofExcept_bind_of_ok _ s hdecode,
    ofExcept_bind_of_ok _ s hdecode', h]

/-! ## JSON requests -/

theorem encode_ne_nil {b : Bytes} (h : b ≠ []) : Base64.encode b ≠ [] := by
  intro hnil
  have hdecode := Base64.decode_encode b
  rw [hnil] at hdecode
  exact h (Option.some.inj hdecode).symm

/-- The text of octets is read as the octets. -/
theorem decodeGSMABase64_encode {b : Bytes} (h : b ≠ []) :
    decodeGSMABase64 (Base64.encode b) = .ok b := by
  rw [decodeGSMABase64, Text.trimSpace_of_visible (Base64.encode_visible b),
    if_neg (encode_ne_nil h), Base64.decode_encode]
  rfl

theorem parseGSMAEIDValue_encode (h : e.length = 16) :
    parseGSMAEIDValue (Hex.encode e) = .ok e := by
  have hne : Hex.encode e ≠ [] := by
    intro hnil
    have hdecode := Hex.decode_encode e
    rw [hnil] at hdecode
    obtain rfl := Option.some.inj hdecode
    cases h
  rw [parseGSMAEIDValue, Text.trimSpace_of_visible (Hex.encode_visible e), if_neg hne,
    Hex.decode_encode]
  exact if_neg (not_not.mpr h)

theorem parseRawTLV_marshalBinary (hU : U.Lawful B) {t : Tlv} {w : Bytes} (ht : t.WellFormed)
    (hw : B.marshalBinary t = some w) : parseRawTLV U w = .ok t := by
  rw [parseRawTLV, hU.unmarshalBinary_marshalBinary _ _ ht hw]

/-- A result becomes the BF50 with the EID that is supplied. -/
theorem parseGSMA_result (hU : U.Lawful H.bertlv) (hresult : result.WellFormed)
    (htag : result.tag ≠ tagProvideEimResult) (hlen : ∀ e ∈ eid, e.length = 16) {R : Bytes}
    (hR : H.bertlv.marshalBinary result = some R) :
    parseGSMAProvideOrResultTLV H U (eid.getD []) R =
      .ok (provideMessage (suppliedEID H eid result) result) := by
  rw [parseGSMAProvideOrResultTLV, parseRawTLV_marshalBinary hU hresult hR]
  simp only [ok_bind, pure_eq, if_neg htag]
  cases eid with
  | none =>
      cases hrecover : recoverEIDFromPackageResultTLV H.bertlv H.x509 result with
      | none => simp [provideMessage, suppliedEID, hrecover]
      | some r =>
          have hr : r ≠ [] := by
            rintro rfl
            cases length_of_recover htag hrecover
          simp [provideMessage, suppliedEID, hrecover, hr]
  | some e =>
      have he : e ≠ [] := by
        rintro rfl
        cases hlen [] rfl
      simp [provideMessage, suppliedEID, he]

/-- So does a BF50 with the result. -/
theorem parseGSMA_provideMessage (hU : U.Lawful H.bertlv) (hresult : result.WellFormed)
    (htag : result.tag ≠ tagProvideEimResult) (heid : result.tag ≠ tagEID)
    (hlen : ∀ e ∈ eid, e.length = 16) {P : Bytes}
    (hP : H.bertlv.marshalBinary (provideMessage eid result) = some P) :
    parseGSMAProvideOrResultTLV H U [] P =
      .ok (provideMessage (suppliedEID H eid result) result) := by
  rw [parseGSMAProvideOrResultTLV,
    parseRawTLV_marshalBinary hU (provideMessage_wellFormed hresult) hP]
  cases eid with
  | some e =>
      simp [provideMessage, suppliedEID, Tlv.first, octetTLV]
  | none =>
      have hnone : recoverEIDFromPackageResultTLV H.bertlv H.x509
            (.constructed tagProvideEimResult [result]) =
          recoverEIDFromPackageResultTLV H.bertlv H.x509 result := by
        simp [recoverEIDFromPackageResultTLV, provideResultEID, recoverEIDFromChildren, heid]
      cases hrecover : recoverEIDFromPackageResultTLV H.bertlv H.x509 result with
      | none => simp [hnone, provideMessage, suppliedEID, hrecover]
      | some r =>
          have hr : r ≠ [] := by
            rintro rfl
            cases length_of_recover htag hrecover
          simp [hnone, provideMessage, suppliedEID, hrecover, hr, Tlv.first, heid]

theorem provideTLVFromGSMA_encode (hB : H.bertlv.Lawful) (hU : U.Lawful H.bertlv)
    (hresult : result.WellFormed) (htag : result.tag ≠ tagProvideEimResult)
    (hlen : ∀ e ∈ eid, e.length = 16) {R : Bytes}
    (hR : H.bertlv.marshalBinary result = some R) :
    provideTLVFromGSMA H U ((eid.map Hex.encode).getD []) (Base64.encode R) =
      .ok (provideMessage (suppliedEID H eid result) result) := by
  have hparse := parseGSMA_result hU hresult htag hlen hR
  rw [provideTLVFromGSMA, decodeGSMABase64_encode (ne_nil_of_marshalBinary hB hresult hR), ok_bind]
  cases eid with
  | none => exact hparse
  | some e =>
      have hne : Text.trimSpace (Hex.encode e) ≠ [] := by
        intro hnil
        have hvalue := parseGSMAEIDValue_encode (hlen e rfl)
        rw [parseGSMAEIDValue, if_pos hnil] at hvalue
        cases hvalue
      rw [Option.map_some, Option.getD_some, if_neg hne, parseGSMAEIDValue_encode (hlen e rfl)]
      exact hparse

theorem notifyTLVFromGSMA_encode {D : Bytes} {provideTLV : Tlv} (hD : D ≠ [])
    (h : parseGSMAProvideOrResultTLV H U [] D = .ok provideTLV) :
    notifyTLVFromGSMA H U ⟨Base64.encode D, []⟩ = .ok (notifyMessage provideTLV) := by
  have hne : Text.trimSpace (Base64.encode D) ≠ [] := by
    rw [Text.trimSpace_of_visible (Base64.encode_visible D)]
    exact encode_ne_nil hD
  have hnil : Text.trimSpace [] = [] := by decide
  simp [notifyTLVFromGSMA, hne, hnil, decodeGSMABase64_encode hD, h, notifyMessage]

/-! ## Answers -/

theorem unmarshal_acknowledgements (hB : B.Lawful) {ack : EimAcknowledgements} {tlv : Tlv}
    (h : ack.marshalBERTLV B = .ok tlv) :
    tlv.tag = tagEimAck ∧ tlv.WellFormed ∧ EimAcknowledgements.unmarshalBERTLV B tlv = .ok ack := by
  obtain ⟨children, hchildren, htlv⟩ := bind_eq_ok.mp h
  obtain rfl := Except.ok.inj htlv
  have hread : children.mapM (fun child => do
      expectTag child (context 0)
      integerValue B child) = .ok ack.sequenceNumbers := by
    refine mapM_eq_ok.mpr ((mapM_eq_ok.mp hchildren).flip.imp fun child n hn => ?_)
    rw [expectTag_eq_ok.mpr (integerTLV_written ⟨by decide, by decide⟩ hn).1, ok_bind]
    exact integerValue_written hB hn
  refine ⟨rfl, ⟨by decide, by decide, Tlv.allWellFormed_iff.mpr fun child hchild => ?_⟩, ?_⟩
  · obtain ⟨n, -, hn⟩ := exists_source_of_mapM hchildren hchild
    exact (integerTLV_written ⟨by decide, by decide⟩ hn).2
  · rw [EimAcknowledgements.unmarshalBERTLV, expectTag_eq_ok.mpr (Tlv.tag_constructed _ _), ok_bind,
      Tlv.children_constructed, hread]
    rfl

/-- A response is read back. -/
theorem unmarshal_response (hB : B.Lawful) {response : ProvideEimPackageResultResponse} {tlv : Tlv}
    (h : response.marshalBERTLV B = .ok tlv) :
    tlv.tag = tagProvideEimResult ∧ tlv.WellFormed ∧
      ProvideEimPackageResultResponse.unmarshalBERTLV B tlv = .ok response := by
  cases response with
  | acknowledgements ack =>
      obtain ⟨child, hchild, htlv⟩ := bind_eq_ok.mp h
      obtain rfl := Except.ok.inj htlv
      obtain ⟨htag, hwf, hread⟩ := unmarshal_acknowledgements hB hchild
      refine ⟨rfl, ⟨by decide, by decide, hwf, trivial⟩, ?_⟩
      simp [ProvideEimPackageResultResponse.unmarshalBERTLV, expectTag, htag, hread]
  | empty =>
      obtain rfl := Except.ok.inj h
      exact ⟨rfl, ⟨by decide, by decide, ⟨by decide, by decide, trivial⟩, trivial⟩, rfl⟩
  | error code =>
      obtain ⟨child, hchild, htlv⟩ := bind_eq_ok.mp h
      obtain rfl := Except.ok.inj htlv
      obtain ⟨htag, hwf⟩ := integerTLV_written
        (by decide : tagInteger.Valid ∧ tagInteger.isConstructed = false) hchild
      refine ⟨rfl, ⟨by decide, by decide, hwf, trivial⟩, ?_⟩
      have hack : tagInteger ≠ tagEimAck := by decide
      have hsequence : tagInteger ≠ tagSequence := by decide
      simp [ProvideEimPackageResultResponse.unmarshalBERTLV, expectTag, htag, hack, hsequence,
        integerValue_written hB hchild]

/-- The JSON answer stands for the response. -/
theorem gsmaProvideResponseFromBER_stands (hB : B.Lawful) (hU : U.Lawful B)
    {response : ProvideEimPackageResultResponse} {tlv : Tlv}
    (hmarshal : response.marshalBERTLV B = .ok tlv) (hpayload : B.marshalBinary tlv = some payload) :
    ∃ answer, gsmaProvideResponseFromBER B payload = .ok answer ∧ Stands B answer response := by
  obtain ⟨htag, hwf, hread⟩ := unmarshal_response hB hmarshal
  have hmessage : Asn1.decode B ESipaMessageFromEimToIpa.unmarshalBERTLV payload = .ok tlv := by
    rw [Asn1.decode, parseTLV_marshalBinary hB hwf hpayload]
    exact if_pos (by rw [isAllowedTag, htag]; decide)
  rw [gsmaProvideResponseFromBER, hmessage, ok_bind, hread, ok_bind]
  cases response with
  | empty => exact ⟨{ }, rfl, rfl⟩
  | error code => exact ⟨{ eimPackageError := some code }, rfl, rfl⟩
  | acknowledgements ack =>
      obtain ⟨child, hchild, htlv⟩ := bind_eq_ok.mp hmarshal
      obtain rfl := Except.ok.inj htlv
      obtain ⟨octets, hoctets⟩ := hU.marshals_child _ _ child _ hpayload (List.mem_singleton.mpr rfl)
      have hencode : Asn1.encode B (ack.marshalBERTLV B) = .ok octets := by
        rw [Asn1.encode, show ack.marshalBERTLV B = .ok child from hchild, ok_bind, hoctets]
        rfl
      refine ⟨{ eimAcknowledgements := Base64.encode octets }, ?_, octets, hencode, rfl⟩
      simp only [hencode, ok_bind, pure_eq]

/-! ## Both endpoints -/

/-- The same store and the same answer. -/
def Agree (B : Bertlv) (json : HttpAnswer GsmaProvideResponse × Store)
    (asn1 : HttpAnswer Bytes × Store) : Prop :=
  json.2 = asn1.2 ∧ SameAnswer B json.1 asn1.1

/-- The octets of an answer are those of a response to a provided result. -/
def IsResponse (B : Bertlv) (payload : Bytes) : Prop :=
  ∃ response : ProvideEimPackageResultResponse, ∃ tlv, response.marshalBERTLV B = .ok tlv ∧
    B.marshalBinary tlv = some payload

theorem reply_of_handleProvide {reply : Reply}
    (h : handleProvideEimPackageResult H message s = (.ok reply, s')) :
    ∃ response, reply = .provideResult response := by
  rw [handleProvideEimPackageResult] at h
  cases hprovide : provideResultTLV message with
  | none =>
      rw [hprovide] at h
      cases h
  | some provideTLV =>
      rw [hprovide] at h
      obtain ⟨request, s₁, -, h₁⟩ := Stateful.bind_eq_ok h
      obtain ⟨resolved, s₂, -, h₂⟩ := Stateful.bind_eq_ok h₁
      cases resolved with
      | error code =>
          obtain rfl := Except.ok.inj (Prod.mk.inj h₂).1
          exact ⟨_, rfl⟩
      | ok eid =>
          obtain ⟨recorded, s₃, -, h₃⟩ := Stateful.bind_eq_ok h₂
          obtain rfl := Except.ok.inj (Prod.mk.inj h₃).1
          rcases recorded with _ | (_ | _)
          · exact ⟨_, rfl⟩
          · exact ⟨_, rfl⟩
          · exact ⟨_, rfl⟩

theorem isResponse_of_provideMessage (hB : H.bertlv.Lawful) (hresult : result.WellFormed)
    {P : Bytes} (hP : H.bertlv.marshalBinary (provideMessage eid result) = some P)
    (h : handleEncodedResponse H P s = (.ok (some payload), s')) :
    IsResponse H.bertlv payload := by
  have hdecode : decodeRequest H P = .ok (provideMessage eid result) := by
    rw [decodeRequest, Asn1.decode,
      parseTLV_marshalBinary hB (provideMessage_wellFormed hresult) hP]
    rfl
  rw [handleEncodedResponse, ofExcept_bind_of_ok _ s hdecode, handle_provideMessage] at h
  obtain ⟨answer, s₁, hanswer, h₁⟩ := Stateful.bind_eq_ok h
  obtain ⟨reply, s₂, hreply, h₂⟩ := Stateful.bind_eq_ok hanswer
  obtain ⟨response, rfl⟩ := reply_of_handleProvide hreply
  obtain ⟨hmarshal, rfl⟩ := Prod.mk.inj h₂
  obtain ⟨tlv, htlv, hsome⟩ := Outcome.bind_eq_ok.mp hmarshal
  obtain rfl := Except.ok.inj hsome
  obtain ⟨encoded, s₃, hencoded, h₃⟩ := Stateful.bind_eq_ok h₁
  obtain ⟨hsome', -⟩ := Prod.mk.inj h₃
  obtain rfl := Option.some.inj (Except.ok.inj hsome')
  obtain ⟨hmarshalBinary, -⟩ := Prod.mk.inj hencoded
  refine ⟨response, tlv, htlv, ?_⟩
  rw [marshalBinary] at hmarshalBinary
  split at hmarshalBinary
  next octets hoctets =>
      obtain rfl := Except.ok.inj hmarshalBinary
      exact hoctets
  next => cases hmarshalBinary

/-- A provided result that comes as a notification has no content in its answer. -/
theorem noContent_of_notifyMessage (hB : H.bertlv.Lawful) (hresult : result.WellFormed)
    {N : Bytes} (hN : H.bertlv.marshalBinary (notifyMessage (provideMessage eid result)) = some N)
    {answer : Option Bytes} (h : handleEncodedResponse H N s = (.ok answer, s')) :
    answer = none := by
  have hdecode : decodeRequest H N = .ok (notifyMessage (provideMessage eid result)) := by
    rw [decodeRequest, Asn1.decode,
      parseTLV_marshalBinary hB (notifyMessage_wellFormed (provideMessage_wellFormed hresult)) hN]
    rfl
  rw [handleEncodedResponse, ofExcept_bind_of_ok _ s hdecode, handle_notifyMessage] at h
  obtain ⟨response, s₁, hresponse, h₁⟩ := Stateful.bind_eq_ok h
  obtain ⟨reply, s₂, hreply, h₂⟩ := Stateful.bind_eq_ok hresponse
  obtain ⟨reply', s₃, -, h₃⟩ := Stateful.bind_eq_ok hreply
  obtain ⟨marshaled, s₄, -, h₄⟩ := Stateful.bind_eq_ok h₃
  obtain rfl := Except.ok.inj (Prod.mk.inj h₄).1
  obtain rfl := Except.ok.inj (Prod.mk.inj h₂).1
  exact (Except.ok.inj (Prod.mk.inj h₁).1).symm

/-- Octets that are handled alike are answered alike. -/
theorem handleGSMA_agree (hB : H.bertlv.Lawful) (hU : U.Lawful H.bertlv) (name : String)
    {isEmpty : Bytes → Bool} {w asn1 : Bytes} (hw : H.bertlv.marshalBinary message = some w)
    (hsame : handleEncodedResponse H w = handleEncodedResponse H asn1)
    (hsize : asn1.length ≤ maxMessageSize)
    (hanswer : ∀ payload s', handleEncodedResponse H asn1 s = (.ok (some payload), s') →
      isEmpty payload = false ∧ IsResponse H.bertlv payload) :
    Agree H.bertlv (handleGSMA H name isEmpty (.ok message) s)
      (serveHTTP H maxMessageSize true asn1 s) := by
  have hencode : Asn1.encode H.bertlv (.ok message) = .ok w := by
    rw [Asn1.encode, ok_bind, hw]
    rfl
  rw [handleGSMA, hencode, serveHTTP, if_neg (by simp), if_neg (by omega)]
  dsimp only
  rw [hsame]
  rcases hhandled : handleEncodedResponse H asn1 s with ⟨error | answer, s'⟩
  · exact ⟨rfl, .failed 400 _ _⟩
  · cases answer with
    | none => exact ⟨rfl, .noContent⟩
    | some payload =>
        obtain ⟨hempty, response, tlv, hmarshal, hpayload⟩ := hanswer payload s' hhandled
        obtain ⟨json, hjson, hstands⟩ := gsmaProvideResponseFromBER_stands hB hU hmarshal hpayload
        simp only [hempty, hjson]
        exact ⟨rfl, .content response hmarshal hpayload hstands⟩

/-- Bodies on the same side of the size limit: within it the requests decide, beyond it both are
refused. -/
theorem agree_of_size {serve : Bytes → Store → HttpAnswer GsmaProvideResponse × Store}
    {json asn1 : Bytes} (hsize : json.length ≤ maxMessageSize ↔ asn1.length ≤ maxMessageSize)
    (h : asn1.length ≤ maxMessageSize →
      Agree H.bertlv (serve json s) (serveHTTP H maxMessageSize true asn1 s)) :
    Agree H.bertlv (serveGSMAJSON maxMessageSize serve true json s)
      (serveHTTP H maxMessageSize true asn1 s) := by
  by_cases hasn1 : asn1.length ≤ maxMessageSize
  · have hjson := hsize.mpr hasn1
    rw [serveGSMAJSON, if_neg (by simp), if_neg (by omega)]
    exact h hasn1
  · have hjson : ¬ json.length ≤ maxMessageSize := fun hjson => hasn1 (hsize.mp hjson)
    rw [serveGSMAJSON, if_neg (by simp), if_pos (by omega), serveHTTP, if_neg (by simp),
      if_pos (by omega)]
    exact ⟨rfl, .failed 400 _ _⟩

/-- The messages of both bindings are written, with whatever EID is supplied. -/
theorem marshalBinary_supplied {f : Tlv → Tlv}
    (hprovide : result.tag ≠ tagProvideEimResult) {asn1 : Bytes}
    (hasn1 : H.bertlv.marshalBinary (f (provideMessage eid result)) = some asn1)
    (hwrites : ∀ e : Bytes, e.length = 16 →
      ∃ w, H.bertlv.marshalBinary (f (provideMessage (some e) result)) = some w) :
    ∃ w, H.bertlv.marshalBinary (f (provideMessage (suppliedEID H eid result) result)) =
      some w := by
  cases eid with
  | some e => exact ⟨asn1, hasn1⟩
  | none =>
      cases hrecover : recoverEIDFromPackageResultTLV H.bertlv H.x509 result with
      | none =>
          rw [suppliedEID, hrecover]
          exact ⟨asn1, hasn1⟩
      | some e =>
          rw [suppliedEID, hrecover]
          exact hwrites e (length_of_recover hprovide hrecover)

/-- A result with its EID or without one leaves the same store behind on both bindings and is
answered with the same response, also inside a notification, where the bodies are on the same side of
the size limit. -/
theorem bindings_agree (hB : H.bertlv.Lawful) (hU : U.Lawful H.bertlv)
    (hlen : ∀ e ∈ eid, e.length = 16) (hresult : result.WellFormed)
    (hprovide : result.tag ≠ tagProvideEimResult) (htag : result.tag ≠ tagEID)
    {R P N D : Bytes} (hR : H.bertlv.marshalBinary result = some R)
    (hP : H.bertlv.marshalBinary (provideMessage eid result) = some P)
    (hN : H.bertlv.marshalBinary (notifyMessage (provideMessage eid result)) = some N)
    (hD : D = P ∨ eid = none ∧ D = R)
    (hwrites : ∀ e : Bytes, e.length = 16 →
      (∃ w, H.bertlv.marshalBinary (provideMessage (some e) result) = some w) ∧
      ∃ w, H.bertlv.marshalBinary (notifyMessage (provideMessage (some e) result)) = some w)
    {json notification : Bytes}
    (hjson : U.provideEimPackageResult json =
      .ok ⟨(eid.map Hex.encode).getD [], Base64.encode R⟩)
    (hnotification : U.handleNotification notification = .ok ⟨Base64.encode D, []⟩)
    (hsize : json.length ≤ maxMessageSize ↔ P.length ≤ maxMessageSize)
    (hnotificationSize : notification.length ≤ maxMessageSize ↔ N.length ≤ maxMessageSize)
    (s : Store) :
    Agree H.bertlv
        (serveGSMAJSON maxMessageSize (serveGSMAProvideEimPackageResult H U) true json s)
        (serveHTTP H maxMessageSize true P s) ∧
      Agree H.bertlv
        (serveGSMAJSON maxMessageSize (serveGSMAHandleNotification H U) true notification s)
        (serveHTTP H maxMessageSize true N s) := by
  have hwf (eid : Option Bytes) : (provideMessage eid result).WellFormed :=
    provideMessage_wellFormed hresult
  constructor
  · refine agree_of_size hsize fun hlimit => ?_
    obtain ⟨w, hw⟩ := marshalBinary_supplied (f := id) hprovide hP fun e he => (hwrites e he).1
    have hhandle : handle H (provideMessage (suppliedEID H eid result) result) =
        handle H (provideMessage eid result) := by
      rw [handle_provideMessage, handle_provideMessage,
        handleProvide_supplied hprovide htag (provideResultTLV_provideMessage _ _)
          (provideResultTLV_provideMessage _ _)]
    rw [serveGSMAProvideEimPackageResult, hjson, ok_bind,
      provideTLVFromGSMA_encode hB hU hresult hprovide hlen hR]
    exact handleGSMA_agree hB hU _ hw
      (handleEncodedResponse_congr hB (hwf _) (hwf _) hw hP rfl rfl hhandle) hlimit
      fun payload s' h => ⟨rfl, isResponse_of_provideMessage hB hresult hP h⟩
  · refine agree_of_size hnotificationSize fun hlimit => ?_
    obtain ⟨w, hw⟩ :=
      marshalBinary_supplied (f := notifyMessage) hprovide hN fun e he => (hwrites e he).2
    have hhandle : handle H (notifyMessage (provideMessage (suppliedEID H eid result) result)) =
        handle H (notifyMessage (provideMessage eid result)) := by
      rw [handle_notifyMessage, handle_notifyMessage,
        handleProvide_supplied hprovide htag (provideResultTLV_notifyMessage _ _)
          (provideResultTLV_notifyMessage _ _)]
    have hparse : D ≠ [] ∧ parseGSMAProvideOrResultTLV H U [] D =
        .ok (provideMessage (suppliedEID H eid result) result) := by
      rcases hD with rfl | ⟨rfl, rfl⟩
      · exact ⟨ne_nil_of_marshalBinary hB (hwf _) hP,
          parseGSMA_provideMessage hU hresult hprovide htag hlen hP⟩
      · exact ⟨ne_nil_of_marshalBinary hB hresult hR,
          parseGSMA_result hU hresult hprovide hlen hR⟩
    rw [serveGSMAHandleNotification, hnotification, ok_bind,
      notifyTLVFromGSMA_encode hparse.1 hparse.2]
    refine handleGSMA_agree hB hU _ hw
      (handleEncodedResponse_congr hB (notifyMessage_wellFormed (hwf _))
        (notifyMessage_wellFormed (hwf _)) hw hN rfl rfl hhandle) hlimit fun payload s' h => ?_
    cases noContent_of_notifyMessage hB hresult hN h

/-! ## A signed result on both bindings -/

def sampleProvideASN1 : Bytes :=
  (encode (provideMessage (some sampleEID) (sampleSignedResult 1 3 0))).getD []

def sampleNotificationASN1 : Bytes :=
  (encode (notifyMessage (provideMessage (some sampleEID) (sampleSignedResult 1 3 0)))).getD []

def sampleResultText : Bytes := Base64.encode ((encode (sampleSignedResult 1 3 0)).getD [])

def sampleProvideJSON : Bytes :=
  text "\x7b\"eidValue\":\"" ++ Hex.encode sampleEID ++ text "\",\"eimPackageResult\":\"" ++
    sampleResultText ++ text "\"\x7d"

def sampleNotificationJSON : Bytes :=
  text "\x7b\"provideEimPackageResult\":\"" ++ Base64.encode sampleProvideASN1 ++ text "\"\x7d"

/-- The two sample bodies, and the reference codec. -/
def sampleUnmarshaler : Unmarshaler where
  provideEimPackageResult body :=
    if body = sampleProvideJSON then .ok ⟨Hex.encode sampleEID, sampleResultText⟩
    else .error (.message "json")
  handleNotification body :=
    if body = sampleNotificationJSON then .ok ⟨Base64.encode sampleProvideASN1, []⟩
    else .error (.message "json")
  unmarshalBinary data := (decode data).map (·.1)

theorem sampleUnmarshaler_lawful : sampleUnmarshaler.Lawful .reference where
  marshals_child tag ts t w h ht := by
    obtain ⟨header, body, -, -, hbody⟩ := encode_constructed h
    obtain ⟨v, hv, -⟩ := exists_encode_of_mem hbody ht
    exact ⟨v, hv⟩
  unmarshalBinary_marshalBinary t w ht hw := by
    have hdecode := decode_complete (encode_sound t w ht hw) []
    rw [List.append_nil] at hdecode
    simp [sampleUnmarshaler, hdecode]

theorem sampleSignedResult_wellFormed : (sampleSignedResult 1 3 0).WellFormed := by
  simp only [sampleSignedResult, Tlv.WellFormed, Tlv.AllWellFormed]
  decide

/-- A node with a short body is written. -/
theorem exists_encode_of_short (tag : Tag) {ts : List Tlv} {b : Bytes}
    (hts : encodeAll ts = some b) (hshort : b.length < 0x80) :
    ∃ w, Ber.encode (.constructed tag ts) = some w ∧
      w.length = tag.octets.length + 1 + b.length := by
  have hcount : octetCount b.length ≤ 126 :=
    (octetCount_le (k := 1) (Nat.lt_trans hshort (by decide)) (by decide)).trans (by decide)
  refine ⟨tag.octets ++ encodeLength b.length ++ b, ?_, by
    simp [encodeLength, hshort]
    omega⟩
  rw [Ber.encode, hts, Option.bind_some, encodeHeader, if_pos hcount, Option.map_some]

/-- Every EID fits into the sample messages. -/
theorem exists_encode_sample (he : e.length = 16) :
    (∃ w, Ber.encode (provideMessage (some e) (sampleSignedResult 1 3 0)) = some w) ∧
      ∃ w, Ber.encode (notifyMessage (provideMessage (some e) (sampleSignedResult 1 3 0))) =
        some w := by
  obtain ⟨R, hR, hlength⟩ : ∃ R, Ber.encode (sampleSignedResult 1 3 0) = some R ∧ R.length = 24 :=
    ⟨_, rfl, by decide +kernel⟩
  have heid : Ber.encode (octetTLV tagEID e) = some ([0x5a, 0x10] ++ e) := by
    rw [octetTLV, Ber.encode, he]
    rfl
  have hbody : encodeAll [octetTLV tagEID e, sampleSignedResult 1 3 0] =
      some ([0x5a, 0x10] ++ e ++ R) := by
    simp [encodeAll, heid, hR]
  obtain ⟨P, hP, hPlength⟩ := exists_encode_of_short tagProvideEimResult hbody
    (by simp only [List.length_append, List.length_cons, List.length_nil]; omega)
  have hbody' : encodeAll [provideMessage (some e) (sampleSignedResult 1 3 0)] = some P := by
    have hmessage : Ber.encode (provideMessage (some e) (sampleSignedResult 1 3 0)) = some P := hP
    simp [encodeAll, hmessage]
  obtain ⟨N, hN, -⟩ := exists_encode_of_short tagHandleNotify hbody' (by
    have htag : tagProvideEimResult.octets.length = 2 := by decide
    simp only [List.length_append, List.length_cons, List.length_nil] at hPlength
    omega)
  exact ⟨⟨P, hP⟩, N, hN⟩

theorem sampleProvideJSON_read : sampleUnmarshaler.provideEimPackageResult sampleProvideJSON =
    .ok ⟨Hex.encode sampleEID, sampleResultText⟩ := by
  simp [sampleUnmarshaler]

theorem sampleNotificationJSON_read : sampleUnmarshaler.handleNotification sampleNotificationJSON =
    .ok ⟨Base64.encode sampleProvideASN1, []⟩ := by
  simp [sampleUnmarshaler]

theorem bindings_agree_enable :
    Agree Bertlv.reference
        (serveGSMAJSON 4096 (serveGSMAProvideEimPackageResult sampleHandler sampleUnmarshaler) true
          sampleProvideJSON sampleEnableStore)
        (serveHTTP sampleHandler 4096 true sampleProvideASN1 sampleEnableStore) ∧
      Agree Bertlv.reference
        (serveGSMAJSON 4096 (serveGSMAHandleNotification sampleHandler sampleUnmarshaler) true
          sampleNotificationJSON sampleEnableStore)
        (serveHTTP sampleHandler 4096 true sampleNotificationASN1 sampleEnableStore) := by
  have hlen : ∀ e ∈ some sampleEID, e.length = 16 := by
    rintro e ⟨⟩
    rfl
  exact bindings_agree Bertlv.reference_lawful sampleUnmarshaler_lawful hlen
    sampleSignedResult_wellFormed (by decide) (by decide)
    (R := (Ber.encode (sampleSignedResult 1 3 0)).getD []) rfl rfl rfl
    (.inl rfl) (fun e he => exists_encode_sample he) sampleProvideJSON_read
    sampleNotificationJSON_read
    (by decide +kernel) (by decide +kernel) sampleEnableStore

/-- With a limit that the message has and its JSON text exceeds, the result is recorded from the one
endpoint and refused at the other. -/
theorem json_body_over_limit :
    sampleUnmarshaler.provideEimPackageResult sampleProvideJSON =
        .ok ⟨Hex.encode sampleEID,
          Base64.encode ((Ber.encode (sampleSignedResult 1 3 0)).getD [])⟩ ∧
      Ber.encode (provideMessage (some sampleEID) (sampleSignedResult 1 3 0)) =
        some sampleProvideASN1 ∧
      ¬ Agree Bertlv.reference
        (serveGSMAJSON sampleProvideASN1.length
          (serveGSMAProvideEimPackageResult sampleHandler sampleUnmarshaler) true sampleProvideJSON
          sampleEnableStore)
        (serveHTTP sampleHandler sampleProvideASN1.length true sampleProvideASN1 sampleEnableStore) := by
  refine ⟨sampleProvideJSON_read, rfl, fun hagree => ?_⟩
  have hjson : (serveGSMAJSON sampleProvideASN1.length
      (serveGSMAProvideEimPackageResult sampleHandler sampleUnmarshaler) true sampleProvideJSON
      sampleEnableStore).2.profileStates.entries.length = 0 := by decide +kernel
  have hasn1 : (serveHTTP sampleHandler sampleProvideASN1.length true sampleProvideASN1
      sampleEnableStore).2.profileStates.entries.length = 1 := by decide +kernel
  rw [hagree.1, hasn1] at hjson
  cases hjson

end OpenIotRsp.Esipa
