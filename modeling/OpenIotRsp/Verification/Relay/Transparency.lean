import OpenIotRsp.Verification.Relay.Framing

/-!
# Transparency of the relay

A relayed message reaches the SM-DP+ with the octets in which it came, inside
the wrapper of the ES9+ binding, and the answer goes back with the octets after the
length in the response. Those are the content of the wrapper unless the length wraps.
-/

namespace OpenIotRsp.Relay

open Octets Ber Reader Concurrent

/-! ## DER lengths -/

theorem octetCount_of_lt {n : Nat} (h : n < 256) : octetCount n = 1 := by
  have hlog : Nat.log2 n < 8 := by
    by_cases hn : n = 0
    · subst hn
      decide
    · exact (Nat.log2_lt hn).mpr h
  rw [octetCount]
  omega

theorem octetCount_div {n : Nat} (h : 256 ≤ n) : octetCount n = octetCount (n / 256) + 1 := by
  have hn : n / 256 ≠ 0 := by omega
  have hlow : 2 ^ Nat.log2 (n / 256) ≤ n / 256 := Nat.log2_self_le hn
  have hhigh : n / 256 < 2 ^ (Nat.log2 (n / 256) + 1) := Nat.lt_log2_self
  have hlog : Nat.log2 n = Nat.log2 (n / 256) + 8 := by
    refine (Nat.log2_eq_iff (by omega)).mpr ⟨?_, ?_⟩
    · rw [pow_add]
      omega
    · rw [show Nat.log2 (n / 256) + 8 + 1 = Nat.log2 (n / 256) + 1 + 8 by omega, pow_add _ _ 8]
      omega
  rw [octetCount, octetCount, hlog]
  omega

theorem octetCount_le_eight {n : Nat} (h : n < 2 ^ 63) : octetCount n ≤ 8 :=
  octetCount_le (h.trans (by decide)) (by decide)

theorem or_0x80 {k : Nat} (h : k ≤ 8) : 0x80 ||| UInt8.ofNat k = UInt8.ofNat (0x80 + k) := by
  interval_cases k <;> rfl

theorem reverse_reversedOctets {size n : Nat} (hpos : 0 < n) (hlt : n < 256 ^ size) :
    (reversedOctets size n).reverse = bigEndian (octetCount n) n := by
  induction size generalizing n with
  | zero => omega
  | succ size ih =>
      rw [reversedOctets, if_neg (by omega), List.reverse_cons]
      by_cases hn : n < 256
      · have hzero : n / 256 = 0 := by omega
        rw [octetCount_of_lt hn, hzero]
        cases size with
        | zero => rfl
        | succ size => rfl
      · have hdiv : n / 256 < 256 ^ size := by
          rw [pow_succ] at hlt
          omega
        rw [ih (by omega) hdiv, octetCount_div (Nat.le_of_not_lt hn), bigEndian]

/-- The length is encoded with the least number of octets. -/
theorem encodeDERLength_eq {n : Nat} (h : n < 2 ^ 63) : encodeDERLength n = encodeLength n := by
  rw [encodeDERLength, encodeLength]
  split
  next => rfl
  next hlong =>
      have hreverse : (reversedOctets 8 n).reverse = bigEndian (octetCount n) n :=
        reverse_reversedOctets (by omega) (by omega)
      have hlength : (reversedOctets 8 n).length = octetCount n := by
        simpa using congrArg List.length hreverse
      rw [hlength, hreverse, or_0x80 (octetCount_le_eight h)]

/-! ## The wrapper -/

/-- The message inside the wrapper: the tag, a minimal length and the octets of the message. -/
def wrapped (payload : Bytes) : Bytes :=
  tagRemoteProfileProvisioning :: (encodeLength payload.length ++ payload)

theorem wrapRemoteProfileProvisioning_eq {payload : Bytes} {t : Tlv} (h : Encodes t payload)
    (hlen : payload.length < 2 ^ 63) :
    wrapRemoteProfileProvisioning payload = .ok (wrapped payload) := by
  obtain ⟨header, content, rfl, hheader⟩ := h.exists_header
  have hcontent := tlvContent_of_header hheader (by rw [List.length_append] at hlen; omega)
  rw [wrapRemoteProfileProvisioning, hcontent, encodeDERLength_eq hlen]
  rfl

theorem unwrapRemoteProfileProvisioning_wrapped {payload : Bytes} {t : Tlv} (h : Encodes t payload)
    (hlen : payload.length < 2 ^ 63) :
    unwrapRemoteProfileProvisioning (wrapped payload) = .ok payload := by
  have hcount : octetCount payload.length ≤ 126 := (octetCount_le_eight hlen).trans (by decide)
  have hheader : Header ⟨[tagRemoteProfileProvisioning]⟩ payload.length
      ([tagRemoteProfileProvisioning] ++ encodeLength payload.length) :=
    encodeHeader_sound (by decide) (if_pos hcount)
  obtain ⟨header, content, rfl, hinner⟩ := h.exists_header
  have hcontent := tlvContent_of_header hinner (by rw [List.length_append] at hlen; omega)
  have houter := tlvContent_of_header hheader hlen
  rw [List.append_assoc, List.singleton_append] at houter
  rw [unwrapRemoteProfileProvisioning, wrapped, houter]
  simp [hcontent]

theorem tlvContent_of_unwrap {body content : Bytes}
    (h : unwrapRemoteProfileProvisioning body = .ok content) :
    tlvContent body = .ok ([tagRemoteProfileProvisioning], content) := by
  rw [unwrapRemoteProfileProvisioning] at h
  obtain ⟨⟨tag, content'⟩, hcontent, hguard⟩ := Outcome.bind_eq_ok.mp h
  obtain ⟨htag, hresult⟩ := Outcome.guard_eq_ok.mp hguard
  obtain rfl := not_not.mp htag
  cases hinner : tlvContent content' with
  | error e =>
      rw [hinner] at hresult
      cases hresult
  | ok inner =>
      rw [hinner] at hresult
      obtain rfl := Except.ok.inj hresult
      exact hcontent

/-! ## Calls -/

section

variable {Q R : Type} {rely : Q → R → Prop} {asks : Q → Prop} {returns : Response → Prop}
  {transport : Transport Q R} {payload : Bytes} {B : Bertlv}

theorem ensures_rememberTransaction (transactionID smdpAddress : Bytes) :
    (rememberTransaction transactionID smdpAddress : RelayM Q R Unit).Ensures rely asks
      fun _ => True := by
  rw [rememberTransaction]
  split
  · trivial
  · exact fun _ => trivial

theorem ensures_forgetTransaction (transactionID : Bytes) :
    (forgetTransaction transactionID : RelayM Q R Unit).Ensures rely asks fun _ => True := by
  rw [forgetTransaction]
  split
  · trivial
  · exact fun _ => trivial

theorem ensures_smdpForTransaction (transactionID : Bytes) :
    (smdpForTransaction transactionID : RelayM Q R Bytes).Ensures rely asks fun _ => True := by
  intro v
  cases v with
  | none => trivial
  | some smdpAddress => trivial

variable (h : ∀ smdpAddress endpoint,
  (transport smdpAddress endpoint payload).Ensures rely asks returns)

include h

theorem ensures_post (smdpAddress : Bytes) (endpoint : Endpoint) :
    (post (some transport) smdpAddress endpoint payload).Ensures rely asks returns := by
  rw [post]
  split
  · trivial
  · exact h smdpAddress endpoint

theorem ensures_initiateAuthentication :
    (initiateAuthentication B (some transport) payload).Ensures rely asks returns := by
  refine (Program.ensures_ofExcept fun _ _ => trivial).bind fun smdpAddress _ =>
    (ensures_post h smdpAddress _).bind fun response hresponse => ?_
  refine (ensures_rememberTransaction _ _).bind fun _ _ => ?_
  exact (ensures_rememberTransaction _ _).bind fun _ _ => hresponse

theorem ensures_relayInTransaction (endpoint : Endpoint) :
    (relayInTransaction B (some transport) endpoint payload).Ensures rely asks returns := by
  refine (ensures_smdpForTransaction _).bind fun smdpAddress _ =>
    (ensures_post h smdpAddress _).bind fun response hresponse => ?_
  exact (ensures_rememberTransaction _ _).bind fun _ _ => hresponse

theorem ensures_cancelSession :
    (cancelSession B (some transport) payload).Ensures rely asks returns := by
  refine (ensures_smdpForTransaction _).bind fun smdpAddress _ =>
    (ensures_post h smdpAddress _).bind fun response hresponse => ?_
  exact (ensures_forgetTransaction _).bind fun _ _ => hresponse

theorem ensures_handleNotification :
    (handleNotification B (some transport) payload).Ensures rely asks returns := by
  have hlast (smdpAddress : Bytes) :
      (if smdpAddress = [] then Program.fail errMissingSMDPAddress
        else post (some transport) smdpAddress .handleNotification payload).Ensures rely asks
          returns := by
    split
    · trivial
    · exact ensures_post h smdpAddress _
  rw [handleNotification]
  split
  · exact (ensures_smdpForTransaction _).bind fun smdpAddress _ => hlast smdpAddress
  · exact hlast _

end

/-- The transport posts the message in its wrapper and returns what it unwraps. -/
theorem HTTPTransport.ensures_post {rely : HttpRequest → Except Error HttpResponse → Prop}
    {payload : Bytes} {t : Tlv} (h : Encodes t payload) (hlen : payload.length < 2 ^ 63)
    (transport : HTTPTransport) (smdpAddress : Bytes) (endpoint : Endpoint) :
    (transport.post smdpAddress endpoint payload).Ensures rely
      (fun request => request.body = wrapped payload) fun response =>
        response.noContent = true ∨ ∃ request answer body, rely request (.ok answer) ∧
          answer.body = .ok body ∧ unwrapRemoteProfileProvisioning body = .ok response.payload := by
  refine (Program.ensures_ofExcept fun _ _ => trivial).bind fun target _ => ?_
  rw [wrapRemoteProfileProvisioning_eq h hlen]
  refine ⟨rfl, fun r hr => ?_⟩
  cases r with
  | error e => trivial
  | ok answer =>
      refine Program.ensures_ofExcept fun response hresponse => ?_
      rw [HTTPTransport.response] at hresponse
      split at hresponse
      next =>
          obtain rfl := Except.ok.inj hresponse
          exact .inl rfl
      next =>
          obtain ⟨body, hbody, hguard⟩ := Outcome.bind_eq_ok.mp hresponse
          obtain ⟨-, hresult⟩ := Outcome.guard_eq_ok.mp hguard
          obtain ⟨content, hcontent, hresult⟩ := Outcome.bind_eq_ok.mp hresult
          obtain rfl := Except.ok.inj hresult
          exact .inr ⟨_, answer, body, hr, hbody, hcontent⟩

end OpenIotRsp.Relay

namespace OpenIotRsp.Esipa

open Octets Ber Asn1 Concurrent Relay

section

variable {Q R : Type} {rely : Q → R → Prop} {asks : Q → Prop} {returns : Response → Prop}
  {transport : Transport Q R} {payload : Bytes} {B : Bertlv}

theorem ensures_shouldRelay (tlv : Tlv) :
    (shouldRelay B tlv : RelayM Q R Bool).Ensures rely asks fun _ => True := by
  rw [shouldRelay]
  split
  · trivial
  split
  · trivial
  split
  · trivial
  cases B.marshalBinary tlv with
  | none => trivial
  | some payload =>
      dsimp only
      rw [canHandleNotification]
      split
      · trivial
      split
      · trivial
      · exact fun _ => trivial

variable (h : ∀ smdpAddress endpoint,
  (transport smdpAddress endpoint payload).Ensures rely asks returns)

include h

theorem ensures_relayMessage (tlv : Tlv) :
    (relayMessage B (some transport) tlv payload).Ensures rely asks returns := by
  rw [relayMessage]
  split
  · exact ensures_initiateAuthentication h
  split
  · exact ensures_relayInTransaction h _
  split
  · exact ensures_relayInTransaction h _
  split
  · exact ensures_cancelSession h
  split
  · exact ensures_handleNotification h
  · trivial

/-- The answer has the octets that the transport returned. -/
theorem ensures_handleRelay (tlv : Tlv) :
    (handleRelay B (some transport) tlv payload).Ensures rely asks fun answer =>
      ∀ bytes ∈ answer, ∃ response, returns response ∧ response.noContent = false ∧
        response.payload = bytes := by
  refine (ensures_relayMessage h tlv).bind fun response hresponse => ?_
  split
  next => exact nofun
  next hcontent =>
      refine Program.ensures_ofExcept fun answer hanswer bytes hbytes => ?_
      obtain rfl := Option.mem_def.mp hbytes
      refine ⟨response, hresponse, by simpa using (not_or.mp hcontent).2, ?_⟩
      rw [relayResponse] at hanswer
      split at hanswer
      next => cases hanswer
      next =>
          obtain ⟨tlv, -, hbytes⟩ := Outcome.bind_eq_ok.mp hanswer
          exact Option.some.inj (Except.ok.inj hbytes)

theorem ensures_relayEncodedResponse :
    (relayEncodedResponse B (some transport) payload).Ensures rely asks fun handled =>
      ∀ bytes, handled = .relayed (some bytes) → ∃ response, returns response ∧
        response.noContent = false ∧ response.payload = bytes := by
  refine (Program.ensures_ofExcept fun _ _ => trivial).bind fun message _ =>
    (ensures_shouldRelay message).bind fun relayed _ => ?_
  split
  next =>
      refine (ensures_handleRelay h message).bind fun answer hanswer bytes hbytes => ?_
      obtain rfl := Handled.relayed.inj hbytes
      exact hanswer bytes rfl
  next => exact nofun

end

/-- A relayed message is posted inside the wrapper, with the octets in which it came and a minimal
length; and the answer of the eIM is the content of the wrapper in the body of the SM-DP+, if and
only if the length of that wrapper does not wrap. -/
theorem relay_transparent {B : Bertlv} (hB : B.Lawful) (transport : HTTPTransport)
    {payload : Bytes} {message : Tlv} (hlen : payload.length < 2 ^ 63)
    (hdecode : Asn1.decode B ESipaMessageFromIpaToEim.unmarshalBERTLV payload = .ok message) :
    wrapRemoteProfileProvisioning payload = .ok (wrapped payload) ∧
      unwrapRemoteProfileProvisioning (wrapped payload) = .ok payload ∧
      (∀ rely request next, (relayEncodedResponse B (some transport.post) payload).Reaches rely
        (.call request next) → request.body = wrapped payload) ∧
      ∀ reply bytes, (relayEncodedResponse B (some transport.post) payload).Reaches
        (fun _ r => r = reply) (.done (.ok (.relayed (some bytes)))) →
        ∃ answer body, reply = .ok answer ∧ answer.body = .ok body ∧
          unwrapRemoteProfileProvisioning body = .ok bytes ∧ (body.length < 2 ^ 63 →
            (Framed body [tagRemoteProfileProvisioning] bytes ↔ ¬ LengthWraps body)) := by
  have hencodes := parseTLV_encodes hB (parseTLV_of_decode hdecode)
  refine ⟨wrapRemoteProfileProvisioning_eq hencodes hlen,
    unwrapRemoteProfileProvisioning_wrapped hencodes hlen, ?_, ?_⟩
  · intro rely request next hreaches
    exact ((ensures_relayEncodedResponse fun smdpAddress endpoint =>
      transport.ensures_post hencodes hlen smdpAddress endpoint).reaches hreaches).1
  · intro reply bytes hreaches
    obtain ⟨response, hreturns, hcontent, rfl⟩ :=
      ((ensures_relayEncodedResponse fun smdpAddress endpoint =>
        transport.ensures_post hencodes hlen smdpAddress endpoint).reaches hreaches) bytes rfl
    rcases hreturns with hnone | ⟨request, answer, body, rfl, hbody, hunwrap⟩
    · cases hcontent.symm.trans hnone
    · exact ⟨answer, body, rfl, hbody, hunwrap, fun hsize =>
        framed_iff hsize (tlvContent_of_unwrap hunwrap)⟩

def sampleTransport : HTTPTransport where
  adminProtocolVersion := []
  parseURL raw := .ok (raw, raw)

/-- An InitiateAuthentication for `a`, with a length in two octets. -/
def samplePayload : Bytes := [0xbf, 0x39, 0x81, 0x03, 0x83, 0x01, 0x61]

def sampleAnswer : Bytes := [0xbf, 0x39, 0x03, 0x80, 0x01, 0x01]

/-- The answer in a wrapper with the given length octets. -/
def sampleBody (field : Bytes) : Bytes := tagRemoteProfileProvisioning :: (field ++ sampleAnswer)

theorem reaches_sampleAnswer {body : Bytes}
    (h : unwrapRemoteProfileProvisioning body = .ok sampleAnswer) :
    (relayEncodedResponse Bertlv.reference (some sampleTransport.post) samplePayload).Reaches
      (fun _ r => r = .ok ⟨200, .ok body⟩) (.done (.ok (.relayed (some sampleAnswer)))) := by
  have hresponse : HTTPTransport.response ⟨200, .ok body⟩ = .ok ⟨sampleAnswer, false⟩ := by
    simp [HTTPTransport.response, h]
  change Program.Reaches _ (.call _ _) _
  refine Program.reaches_call.mpr (.inr ⟨.ok ⟨200, .ok body⟩, rfl, ?_⟩)
  simp only [Program.ofExcept, Program.bind, hresponse]
  change Program.Reaches _ (.act _ _) _
  exact Program.reaches_act.mpr (.inr ⟨none, Program.reaches_done.mpr rfl⟩)

theorem relay_transparent_initiate :
    (relayEncodedResponse Bertlv.reference (some sampleTransport.post) samplePayload).Reaches
        (fun _ r => r = .ok ⟨200, .ok (sampleBody [0x81, 0x06])⟩)
        (.done (.ok (.relayed (some sampleAnswer)))) ∧
      unwrapRemoteProfileProvisioning (wrapped samplePayload) = .ok samplePayload ∧
      ¬ LengthWraps (sampleBody [0x81, 0x06]) := by
  have hreaches := @reaches_sampleAnswer (sampleBody [0x81, 0x06]) (by decide +kernel)
  have hdecode : Asn1.decode Bertlv.reference ESipaMessageFromIpaToEim.unmarshalBERTLV
      samplePayload = .ok (.constructed tagInitiateAuth [.primitive (context 3) [0x61]]) := by
    decide +kernel
  obtain ⟨-, hunwrap, -, hanswer⟩ :=
    relay_transparent Bertlv.reference_lawful sampleTransport (by decide) hdecode
  obtain ⟨answer, body, hreply, hbody, -, hiff⟩ := hanswer _ _ hreaches
  obtain rfl := Except.ok.inj hreply
  obtain rfl := Except.ok.inj hbody
  exact ⟨hreaches, hunwrap, (hiff (by decide)).mp
    ⟨[0x81, 0x06], rfl, by decide, .long rfl (List.cons_ne_nil _ _)⟩⟩

/-- Nine length octets that spell `2 ^ 64 + 6`. -/
def wrappedField : Bytes := [0x89, 1, 0, 0, 0, 0, 0, 0, 0, 6]

theorem wrapped_reply_relayed :
    (relayEncodedResponse Bertlv.reference (some sampleTransport.post) samplePayload).Reaches
        (fun _ r => r = .ok ⟨200, .ok (sampleBody wrappedField)⟩)
        (.done (.ok (.relayed (some sampleAnswer)))) ∧
      ¬ Framed (sampleBody wrappedField) [tagRemoteProfileProvisioning] sampleAnswer := by
  have hunwrap : unwrapRemoteProfileProvisioning (sampleBody wrappedField) = .ok sampleAnswer := by
    decide +kernel
  refine ⟨reaches_sampleAnswer hunwrap, fun hframed => ?_⟩
  have hfield : LengthField wrappedField (2 ^ 64 + 6) :=
    .long (b := 0x89) rfl (List.cons_ne_nil _ _)
  exact (framed_iff (by decide) (tlvContent_of_unwrap hunwrap)).mp hframed
    ⟨[tagRemoteProfileProvisioning], wrappedField, sampleAnswer, _, rfl, by decide, hfield,
      by decide, by decide⟩

end OpenIotRsp.Esipa
