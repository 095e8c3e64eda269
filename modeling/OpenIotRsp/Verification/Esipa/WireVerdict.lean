import OpenIotRsp.Verification.Esipa.Wire
import OpenIotRsp.Verification.PackageResult.Authentic

/-!
# Verification of results on the wire

The handler reads a message into a tree and verifies the package result on
octets that it writes from the tree.  The verdict is the one on the octets that
were received where those of the signed data have minimal lengths.
-/

namespace OpenIotRsp

open Octets Ber Stateful Asn1 Storage Euiccpkg

/-- Lengths are written in the minimal form, a TLV is read on its own as it is read inside another
one, and the association token zero can be written. -/
structure Bertlv.Canonical (B : Bertlv) : Prop where
  marshalBinary_minimal : ∀ t w, B.marshalBinary t = some w → Ber.encode t = some w
  readFrom_child : ∀ p t w c v, B.readFrom w = .ok (t, w.length) → FirstChildAt p t w c v →
    B.readFrom v = .ok (c, v.length)
  marshals_zero : ∃ token, associationTokenTLV B 0 = .ok token ∧ token ≠ []

theorem Bertlv.reference_canonical : Bertlv.reference.Canonical where
  marshalBinary_minimal t w hw := hw
  readFrom_child p t w c v hread hchild := by
    have hdecode := decode_complete hchild.encodes []
    rw [List.append_nil] at hdecode
    simp [reference, hdecode]
  marshals_zero := ⟨[0x84, 0x01, 0x00], by decide +kernel, by decide⟩

namespace Esipa

variable {B : Bertlv} {C : Crypto} {decoded : EuiccPackageResult}

/-! ## Verdicts -/

/-- What the handler makes of a verification: a domain result and a status, or a rejection. -/
def verdict (B : Bertlv) (C : Crypto) (input : ResultInput) :
    Option (Option Result × OperationStatus) :=
  (statusOf (verifyPackageResult B C input)).toOption

/-- The verdicts on two encodings of a result agree, whatever was asked for, whoever has signed and
whatever the signature scheme is. -/
def SameVerdicts (B : Bertlv) (resultDER resultDER' : Bytes) : Prop :=
  ∀ (C : Crypto) (input : ResultInput), verdict B C { input with resultDER := resultDER } =
    verdict B C { input with resultDER := resultDER' }

theorem statusOf_of_rejects {e : Error} (h : Rejects e) : statusOf (.error e) = .error e := by
  cases e with
  | resultNotFound operation => exact absurd rfl (h operation)
  | _ => rfl

theorem verdict_eq {input : ResultInput} {request : SignedRequest}
    (hrequest : input.request = some request)
    (hdecode : Asn1.decode B (EuiccPackageResult.unmarshalBERTLV B) input.resultDER =
      .ok decoded) :
    verdict B C input = (rawSignedDataFromResultDER input.resultDER).toOption.bind fun raw =>
      (statusOf (verifyResult B C decoded request input raw)).toOption := by
  rw [verdict, verifyPackageResult, hrequest]
  simp only [hdecode, Outcome.ok_bind]
  cases hraw : rawSignedDataFromResultDER input.resultDER with
  | ok raw => rfl
  | error e =>
      rw [Outcome.error_bind, statusOf_of_rejects (fails_rawSignedDataFromResultDER _ e hraw).2]
      rfl

/-- The octets of an unsigned result are not looked at. -/
theorem verifyResult_unsigned (error : EuiccPackageErrorUnsigned) (request : SignedRequest)
    (input : ResultInput) (raw raw' : Option Bytes) :
    verifyResult B C (.errorUnsigned error) request input raw =
      verifyResult B C (.errorUnsigned error) request input raw' := by
  rw [verifyResult, verifyResult, signatureInput, signatureInput]
  cases associationTokenTLV B (input.associationToken.getD 0) with
  | error e => rfl
  | ok token => rfl

/-- A request that the result is the answer to. -/
def requestOf : EuiccPackageResult → SignedRequest
  | .ok signed =>
      { eimID := signed.data.eimID, counterValue := signed.data.counterValue,
        eimTransactionID := signed.data.eimTransactionID, package := .psmo [] }
  | .errorSigned error =>
      { eimID := error.data.eimID, counterValue := error.data.counterValue,
        eimTransactionID := error.data.eimTransactionID, package := .psmo [] }
  | .errorUnsigned error =>
      { eimID := error.eimID, counterValue := 0, eimTransactionID := error.eimTransactionID,
        package := .psmo [] }

/-- An input that is accepted if its signature is. -/
def acceptableInput (decoded : EuiccPackageResult) : ResultInput where
  request := requestOf decoded
  resultDER := []
  euiccPublicKey := .ecdsa ⟨256, 0, 0⟩

theorem verifySignedBytes_acceptsOnly {accepted signedData : Bytes} (key : EcdsaPublicKey)
    (signature : Bytes) (hne : signedData ≠ []) :
    verifySignedBytes (acceptsOnly accepted) (.ecdsa key) signedData signature = .ok () ↔
      signedData = accepted := by
  rw [verifySignedBytes, if_neg hne]
  by_cases h : signedData = accepted
  · simp [acceptsOnly, h]
  · simp only [acceptsOnly, id_eq, h, decide_false, Bool.false_eq_true, if_false, iff_false,
      verifyECDSATR03111]
    split
    next hverify => split at hverify <;> cases hverify
    next => exact nofun

theorem isSome_statusOf_checked {accepted signedData signature : Bytes} {key : EcdsaPublicKey}
    {rest : Except Error Result} (hne : signedData ≠ [])
    (hrest : (statusOf rest).toOption.isSome) :
    (statusOf (verifySignedBytes (acceptsOnly accepted) (.ecdsa key) signedData signature >>=
      fun _ => rest)).toOption.isSome ↔ signedData = accepted := by
  rw [← verifySignedBytes_acceptsOnly key signature hne]
  cases hverify : verifySignedBytes (acceptsOnly accepted) (.ecdsa key) signedData signature with
  | error e =>
      rw [Outcome.error_bind, statusOf_of_rejects (fails_verifySignedBytes _ _ _ e hverify).2]
      simp [Except.toOption]
  | ok _ => simpa using hrest

theorem matchSignedResult_self (request : SignedRequest) (sequence : Int) :
    matchSignedResult request 0 request.eimID request.counterValue request.eimTransactionID
      sequence = .ok () := by
  simp [matchSignedResult, sameTransaction]

/-- If one octet string only can be signed, exactly the result with that signed data is accepted. -/
theorem isSome_verdict_iff {resultDER accepted token : Bytes} {raw : Option Bytes}
    (hdecode : Asn1.decode B (EuiccPackageResult.unmarshalBERTLV B) resultDER = .ok decoded)
    (hraw : rawSignedDataFromResultDER resultDER = .ok raw)
    (htoken : associationTokenTLV B 0 = .ok token) (hne : token ≠ []) :
    (verdict B (acceptsOnly accepted)
        { acceptableInput decoded with resultDER := resultDER }).isSome ↔
      (decoded.signature.isSome → raw.getD [] ++ token = accepted) := by
  have hrequest : ({ acceptableInput decoded with resultDER := resultDER } : ResultInput).request =
      some (requestOf decoded) := rfl
  have hinput : signatureInput B (raw.getD []) none = .ok (raw.getD [] ++ token) := by
    rw [signatureInput, Option.getD_none, htoken]
    rfl
  have hsigned : raw.getD [] ++ token ≠ [] := by simp [hne]
  rw [verdict_eq hrequest hdecode, hraw]
  show (statusOf (verifyResult B (acceptsOnly accepted) decoded (requestOf decoded)
    { acceptableInput decoded with resultDER := resultDER } raw)).toOption.isSome ↔ _
  simp only [verifyResult, acceptableInput, hinput, Outcome.ok_bind]
  cases decoded with
  | ok signed =>
      rw [isSome_statusOf_checked hsigned]
      · simp [EuiccPackageResult.signature]
      · have hmatch := matchSignedResult_self (requestOf (.ok signed)) signed.data.seqNumber
        simp only [requestOf] at hmatch ⊢
        rw [hmatch]
        rfl
  | errorSigned error =>
      rw [isSome_statusOf_checked hsigned]
      · simp [EuiccPackageResult.signature]
      · have hmatch := matchSignedResult_self (requestOf (.errorSigned error)) 0
        simp only [requestOf] at hmatch ⊢
        rw [hmatch]
        rfl
  | errorUnsigned error =>
      cases hcode : error.errorCode <;>
        simp [EuiccPackageResult.signature, requestOf, sameTransaction, hcode, statusOf,
          Except.toOption]

theorem verdict_of_no_request {input : ResultInput} (hrequest : input.request = none) :
    verdict B C input = none := by
  simp [verdict, verifyPackageResult, hrequest, statusOf, Except.toOption]

/-- Where the raw parser reads one encoding, it reads one with the same verdicts, and finds the same
signed data. -/
theorem SameVerdicts.raw_eq (hB : B.Canonical) {x y : Bytes} {raw : Option Bytes}
    (h : SameVerdicts B x y)
    (hx : Asn1.decode B (EuiccPackageResult.unmarshalBERTLV B) x = .ok decoded)
    (hy : Asn1.decode B (EuiccPackageResult.unmarshalBERTLV B) y = .ok decoded)
    (hraw : rawSignedDataFromResultDER x = .ok raw) :
    ∃ raw', rawSignedDataFromResultDER y = .ok raw' ∧
      (decoded.signature.isSome → raw'.getD [] = raw.getD []) := by
  obtain ⟨token, htoken, hne⟩ := hB.marshals_zero
  have haccept := (isSome_verdict_iff hx hraw htoken hne).mpr fun _ => rfl
  rw [h] at haccept
  cases hraw' : rawSignedDataFromResultDER y with
  | error e =>
      have hnone : verdict B (acceptsOnly (raw.getD [] ++ token))
          { acceptableInput decoded with resultDER := y } = none :=
        (verdict_eq rfl hy).trans (by rw [hraw']; rfl)
      rw [hnone] at haccept
      cases haccept
  | ok raw' =>
      refine ⟨raw', rfl, fun hsigned => ?_⟩
      exact List.append_cancel_right ((isSome_verdict_iff hy hraw' htoken hne).mp haccept hsigned)

theorem verifyResult_congr {raw raw' : Option Bytes}
    (h : decoded.signature.isSome → raw.getD [] = raw'.getD []) (request : SignedRequest)
    (input : ResultInput) :
    verifyResult B C decoded request input raw = verifyResult B C decoded request input raw' := by
  cases decoded with
  | errorUnsigned error => exact verifyResult_unsigned error request input raw raw'
  | ok signed => rw [verifyResult, verifyResult, h rfl]
  | errorSigned error => rw [verifyResult, verifyResult, h rfl]

/-- The verdicts agree exactly if the raw parser reads both encodings or neither, and finds the same
signed data. -/
theorem sameVerdicts_iff (hB : B.Canonical) {x y : Bytes}
    (hx : Asn1.decode B (EuiccPackageResult.unmarshalBERTLV B) x = .ok decoded)
    (hy : Asn1.decode B (EuiccPackageResult.unmarshalBERTLV B) y = .ok decoded) :
    SameVerdicts B x y ↔
      ((rawSignedDataFromResultDER x).isOk ↔ (rawSignedDataFromResultDER y).isOk) ∧
      ∀ raw raw', rawSignedDataFromResultDER x = .ok raw → rawSignedDataFromResultDER y = .ok raw' →
        decoded.signature.isSome → raw.getD [] = raw'.getD [] := by
  constructor
  · intro h
    have hsymm : SameVerdicts B y x := fun C input => (h C input).symm
    refine ⟨⟨fun hok => ?_, fun hok => ?_⟩, fun raw raw' hraw hraw' hsigned => ?_⟩
    · obtain ⟨raw, hraw⟩ := Outcome.isOk_iff.mp hok
      obtain ⟨raw', hraw', -⟩ := h.raw_eq hB hx hy hraw
      exact Outcome.isOk_iff.mpr ⟨raw', hraw'⟩
    · obtain ⟨raw, hraw⟩ := Outcome.isOk_iff.mp hok
      obtain ⟨raw', hraw', -⟩ := hsymm.raw_eq hB hy hx hraw
      exact Outcome.isOk_iff.mpr ⟨raw', hraw'⟩
    · obtain ⟨found, hfound, heq⟩ := h.raw_eq hB hx hy hraw
      obtain rfl := Except.ok.inj (hfound.symm.trans hraw')
      exact (heq hsigned).symm
  · rintro ⟨hok, heq⟩ C input
    cases hrequest : input.request with
    | none => exact (verdict_of_no_request rfl).trans (verdict_of_no_request rfl).symm
    | some request =>
        refine (verdict_eq rfl hx).trans (Eq.trans ?_ (verdict_eq rfl hy).symm)
        cases hraw : rawSignedDataFromResultDER x with
        | error e =>
            cases hraw' : rawSignedDataFromResultDER y with
            | error e' => rfl
            | ok raw' => simp [hraw, hraw'] at hok
        | ok raw =>
            cases hraw' : rawSignedDataFromResultDER y with
            | error e' => simp [hraw, hraw'] at hok
            | ok raw' =>
                have hverify := verifyResult_congr (B := B) (C := C) (heq raw raw' hraw hraw')
                  request { input with request := some request }
                exact congrArg (fun result => (statusOf result).toOption) hverify

/-! ## Signed data on the wire -/

theorem signedDataAt_unique {resultDER w w' : Bytes} {arm data : Tlv}
    (h : SignedDataAt resultDER arm data w) (h' : SignedDataAt resultDER arm data w') : w = w' := by
  obtain ⟨hencodes, hroot, harm, after, heq, hheader, hinner⟩ := h
  obtain ⟨hencodes', hroot', harm', after', heq', hheader', hinner'⟩ := h'
  rw [heq] at heq'
  obtain ⟨-, -, -, hrest⟩ := hheader.unique hheader' heq'
  obtain ⟨-, -, -, hrest⟩ := hinner.unique hinner' hrest
  -- one reader reads the first child off the same octets
  have hdecode := (decode_complete hencodes after).symm
  rw [hrest, decode_complete hencodes' after'] at hdecode
  exact List.append_inj_left hrest (Prod.mk.inj (Option.some.inj hdecode)).2

theorem exists_signedDataAt_encode {resultTLV arm data : Tlv} {rest : List Tlv} {resultDER : Bytes}
    (hwf : resultTLV.WellFormed) (htag : resultTLV.tag = tagEuiccPkg)
    (harm : resultTLV.children = [arm]) (hchildren : arm.children = data :: rest)
    (hencode : encode resultTLV = some resultDER) :
    ∃ w, SignedDataAt resultDER arm data w ∧ encode data = some w := by
  cases resultTLV with
  | primitive tag value => cases harm
  | constructed tag ts =>
      obtain rfl : ts = [arm] := harm
      obtain rfl : tag = tagEuiccPkg := htag
      obtain ⟨hroot, v, b, rfl, hheader, hv, hb⟩ := encode_first_child hencode
      obtain rfl : [] = b := Option.some.inj hb
      cases arm with
      | primitive tag value => cases hchildren
      | constructed tag ts =>
          obtain rfl : ts = data :: rest := hchildren
          obtain ⟨harm, w, after, rfl, hinner, hw, -⟩ := encode_first_child hv
          have hwfarm := hwf.2.2.1
          refine ⟨w, ⟨encode_sound data w hwfarm.2.2.1 hw, hroot, harm, after, by simp, ?_, ?_⟩, hw⟩
          · simpa using encodeHeader_sound hwf.1 hheader
          · exact encodeHeader_sound hwfarm.1 hinner

/-- The raw parser reads the received octets and the re-encoded ones or neither, and if the arm is
signed and ends with its signature, the received octets of the signed data have minimal lengths. -/
def SignedMinimally (resultTLV : Tlv) (resultDER wire : Bytes) : Prop :=
  ((rawSignedDataFromResultDER resultDER).isOk ↔ (rawSignedDataFromResultDER wire).isOk) ∧
  ∀ arm data w, resultTLV.children = [arm] → arm.children.head? = some data →
    SignatureLast arm → SignedDataAt wire arm data w → (rawSignedDataFromResultDER wire).isOk →
    encode data = some w

/-- An arm that ends with its signature decodes as signed. -/
theorem signature_of_signatureLast {arm : Tlv}
    (hdecode : EuiccPackageResult.unmarshalSelected B (unwrapEuiccPackageResultChoice arm) =
      .ok decoded) (hlast : SignatureLast arm) : decoded.signature.isSome := by
  obtain ⟨last, hmem, htag⟩ := Option.map_eq_some_iff.mp hlast.2
  have hfirst : ((unwrapEuiccPackageResultChoice arm).first tagSignature).isSome := by
    rw [Tlv.first, children_unwrapEuiccPackageResultChoice, List.find?_isSome]
    exact ⟨last, List.mem_of_getLast? hmem, by simp [htag]⟩
  rw [EuiccPackageResult.unmarshalSelected, if_pos hfirst] at hdecode
  split at hdecode
  next => cases hdecode
  next =>
      split at hdecode
      next =>
          obtain ⟨signed, -, heq⟩ := Outcome.bind_eq_ok.mp hdecode
          obtain rfl := Except.ok.inj heq
          rfl
      next =>
          obtain ⟨error, -, heq⟩ := Outcome.bind_eq_ok.mp hdecode
          obtain rfl := Except.ok.inj heq
          rfl

theorem exists_signedArm {resultTLV : Tlv}
    (hdecode : EuiccPackageResult.unmarshalBERTLV B resultTLV = .ok decoded)
    (hsigned : decoded.signature.isSome) :
    ∃ arm data rest, resultTLV.children = [arm] ∧ arm.children = data :: rest ∧
      (arm.tag = tagSequence ∨ arm.tag = contextConstructed 0 ∨ arm.tag = contextConstructed 1 ∨
        arm.tag = contextConstructed 2) := by
  obtain ⟨signature, hsignature⟩ := Option.isSome_iff_exists.mp hsigned
  obtain ⟨-, arm, harm, hselected⟩ := EuiccPackageResult.of_unmarshalBERTLV hdecode
  obtain ⟨htag, data, rest, hchildren, -⟩ :=
    EuiccPackageResult.of_unmarshalSelected hselected hsignature
  rw [children_unwrapEuiccPackageResultChoice] at hchildren
  exact ⟨arm, data, rest, harm, hchildren, tag_of_unwrapEuiccPackageResultChoice htag⟩

/-- The raw parser finds the octets of the signed data, or nothing, in an encoding of a signed
result. -/
theorem raw_of_encodes {resultTLV arm data : Tlv} {resultDER : Bytes} {raw : Option Bytes}
    (hencodes : Encodes resultTLV resultDER)
    (hdecode : EuiccPackageResult.unmarshalBERTLV B resultTLV = .ok decoded)
    (hsigned : decoded.signature.isSome) (harm : resultTLV.children = [arm])
    (hhead : arm.children.head? = some data) (hraw : rawSignedDataFromResultDER resultDER = .ok raw) :
    ∃ w, SignedDataAt resultDER arm data w ∧ raw = if SignatureLast arm then some w else none := by
  obtain ⟨htag, -⟩ := EuiccPackageResult.of_unmarshalBERTLV hdecode
  obtain ⟨arm', data', rest, harm', hchildren, harmTag⟩ := exists_signedArm hdecode hsigned
  obtain rfl : arm = arm' := by simpa using harm.symm.trans harm'
  obtain rfl : data' = data := by simpa [hchildren] using hhead
  obtain ⟨hroot, harmHeader, w, after, hder, hheader, hinner, hdata, hrest⟩ :=
    exists_signedDataAt hencodes htag harm hchildren
  exact ⟨w, ⟨hdata, hroot, harmHeader, after, hder, hheader, hinner⟩,
    rawSignedDataFromResultDER_eq hder hheader hinner hdata hrest hchildren harmTag hraw⟩

/-- The verdicts on an encoding of a result and on the minimal one agree exactly if the signed data
are encoded minimally. -/
theorem sameVerdicts_iff_minimal (hB : B.Canonical) {resultTLV : Tlv} {resultDER wire : Bytes}
    (hdecode : EuiccPackageResult.unmarshalBERTLV B resultTLV = .ok decoded)
    (hencode : encode resultTLV = some resultDER) (hwire : Encodes resultTLV wire)
    (hx : Asn1.decode B (EuiccPackageResult.unmarshalBERTLV B) resultDER = .ok decoded)
    (hy : Asn1.decode B (EuiccPackageResult.unmarshalBERTLV B) wire = .ok decoded) :
    SameVerdicts B resultDER wire ↔ SignedMinimally resultTLV resultDER wire := by
  have hwf := hwire.wellFormed
  have hreencoded := encode_sound resultTLV resultDER hwf hencode
  obtain ⟨htag, arm, harm, hselected⟩ := EuiccPackageResult.of_unmarshalBERTLV hdecode
  -- in the minimal encoding of the result the signed data are encoded minimally
  have hencodeData : ∀ {data w}, arm.children.head? = some data → SignedDataAt resultDER arm data w →
      encode data = some w := by
    intro data w hhead hat
    obtain ⟨rest, hchildren⟩ := List.head?_eq_some_iff.mp hhead
    obtain ⟨w', hat', hencode'⟩ := exists_signedDataAt_encode hwf htag harm hchildren hencode
    rwa [signedDataAt_unique hat hat']
  rw [sameVerdicts_iff hB hx hy]
  refine and_congr_right fun hok => ⟨fun heq => ?_, fun hminimal => ?_⟩
  · intro arm' data w harm' hhead hlast hat hread
    obtain rfl : arm = arm' := by simpa using harm.symm.trans harm'
    have hsigned := signature_of_signatureLast hselected hlast
    obtain ⟨raw', hraw'⟩ := Outcome.isOk_iff.mp hread
    obtain ⟨raw, hraw⟩ := Outcome.isOk_iff.mp (hok.mpr hread)
    obtain ⟨v, hv, hfound⟩ := raw_of_encodes hreencoded hdecode hsigned harm hhead hraw
    obtain ⟨v', hv', hfound'⟩ := raw_of_encodes hwire hdecode hsigned harm hhead hraw'
    have hsame := heq raw raw' hraw hraw' hsigned
    rw [hfound, hfound', if_pos hlast, if_pos hlast] at hsame
    rw [signedDataAt_unique hat hv', ← show v = v' from hsame]
    exact hencodeData hhead hv
  · intro raw raw' hraw hraw' hsigned
    obtain ⟨arm', data, rest, harm', hchildren, -⟩ := exists_signedArm hdecode hsigned
    obtain rfl : arm = arm' := by simpa using harm.symm.trans harm'
    have hhead : arm.children.head? = some data := by rw [hchildren, List.head?_cons]
    obtain ⟨v, hv, hfound⟩ := raw_of_encodes hreencoded hdecode hsigned harm hhead hraw
    obtain ⟨v', hv', hfound'⟩ := raw_of_encodes hwire hdecode hsigned harm hhead hraw'
    rw [hfound, hfound']
    by_cases hlast : SignatureLast arm
    · have hdata := hminimal arm data v' harm hhead hlast hv' (Outcome.isOk_iff.mpr ⟨raw', hraw'⟩)
      rw [hencodeData hhead hv] at hdata
      rw [Option.some.inj hdata]
    · rw [if_neg hlast, if_neg hlast]

/-! ## Messages -/

/-- The octets of a message that are the BF50 in it. -/
inductive ProvideAt (tlv : Tlv) (payload : Bytes) : Tlv → Bytes → Prop
  | bare (htag : tlv.tag = tagProvideEimResult) : ProvideAt tlv payload tlv payload
  | enveloped {child : Tlv} {w : Bytes} (htag : tlv.tag = tagHandleNotify)
      (hchild : FirstChildAt (fun _ => true) tlv payload child w)
      (hprovide : child.tag = tagProvideEimResult) : ProvideAt tlv payload child w

/-- The octets of a result that are the BF51 in it. -/
inductive PackageAt (raw : Tlv) (payload : Bytes) : Tlv → Bytes → Prop
  | bare (htag : raw.tag ≠ tagSequence) : PackageAt raw payload raw payload
  | withNotifications {child : Tlv} {w : Bytes} (htag : raw.tag = tagSequence)
      (hchild : FirstChildAt (fun t => t.tag = tagEuiccPkg) raw payload child w) :
      PackageAt raw payload child w

/-- The octets of a message that are the package result in it. -/
def PackageResultAt (tlv : Tlv) (payload : Bytes) (resultTLV : Tlv) (wire : Bytes) : Prop :=
  ∃ provideTLV w raw v, ProvideAt tlv payload provideTLV w ∧
    FirstChildAt (fun t => t.tag ≠ tagEID) provideTLV w raw v ∧ PackageAt raw v resultTLV wire

/-- The octets are read as the tree, all of them. -/
def Reads (B : Bertlv) (t : Tlv) (w : Bytes) : Prop :=
  Encodes t w ∧ B.readFrom w = .ok (t, w.length)

theorem Reads.firstChild (hB : B.Canonical) {t c : Tlv} {w v : Bytes} {p : Tlv → Bool}
    (h : Reads B t w) (hchild : FirstChildAt p t w c v) : Reads B c v :=
  ⟨hchild.encodes, hB.readFrom_child _ _ _ _ _ h.2 hchild⟩

theorem Reads.packageResult (hB : B.Canonical) {tlv resultTLV : Tlv} {payload wire : Bytes}
    (h : Reads B tlv payload) (hat : PackageResultAt tlv payload resultTLV wire) :
    Reads B resultTLV wire := by
  obtain ⟨provideTLV, w, raw, v, hprovide, hraw, hpackage⟩ := hat
  have hw : Reads B provideTLV w := by
    cases hprovide with
    | bare => exact h
    | enveloped _ hchild => exact h.firstChild hB hchild
  have hv : Reads B raw v := hw.firstChild hB hraw
  cases hpackage with
  | bare => exact hv
  | withNotifications _ hchild => exact hv.firstChild hB hchild

theorem Reads.parseTLV {t : Tlv} {w : Bytes} (h : Reads B t w) : Asn1.parseTLV B w = .ok t := by
  have hne : w ≠ [] := List.ne_nil_of_length_pos h.1.length_pos
  simp [Asn1.parseTLV, hne, h.2]

theorem reads_of_parseTLV (hB : B.Lawful) {t : Tlv} {w : Bytes} (h : Asn1.parseTLV B w = .ok t) :
    Reads B t w := by
  refine ⟨parseTLV_encodes hB h, ?_⟩
  rw [Asn1.parseTLV, Outcome.guard_eq_ok] at h
  cases hread : B.readFrom w with
  | error e => cases e <;> simp [hread] at h
  | ok x =>
      simp only [hread, Outcome.guard_eq_ok, not_not, Except.ok.injEq] at h
      rw [← h.2.1, ← h.2.2]

variable {H : Handler} {s : Store} {eid payload : Bytes} {tlv provideTLV : Tlv}
  {request : ProvideEimPackageResult}

theorem reads_of_decodeRequest (hB : H.bertlv.Lawful) (h : decodeRequest H payload = .ok tlv) :
    Reads H.bertlv tlv payload :=
  reads_of_parseTLV hB (parseTLV_of_decode h)

theorem exists_provideAt (hencodes : Encodes tlv payload)
    (h : provideResultTLV tlv = some provideTLV) : ∃ w, ProvideAt tlv payload provideTLV w := by
  rw [provideResultTLV] at h
  split at h
  next htag =>
      split at h
      next child hchildren =>
          split at h
          next hprovide =>
              obtain rfl := Option.some.inj h
              obtain ⟨w, hw⟩ := exists_firstChildAt (p := fun _ => true) (c := child) hencodes
                (by simp [hchildren])
              exact ⟨w, .enveloped htag hw hprovide⟩
          next => cases h
      next => cases h
  next =>
      split at h
      next htag =>
          obtain rfl := Option.some.inj h
          exact ⟨payload, .bare htag⟩
      next => cases h

theorem exists_packageAt {raw resultTLV : Tlv} {notificationList : Option Tlv} {v : Bytes}
    (hencodes : Encodes raw v) (h : splitResult raw = .ok (resultTLV, notificationList)) :
    ∃ wire, PackageAt raw v resultTLV wire := by
  rw [splitResult] at h
  split at h
  next htag =>
      split at h
      next => cases h
      next child hfirst =>
          obtain ⟨rfl, -⟩ := Prod.mk.inj (Except.ok.inj h)
          obtain ⟨w, hw⟩ := exists_firstChildAt hencodes hfirst
          exact ⟨w, .withNotifications htag hw⟩
  next htag =>
      obtain ⟨rfl, -⟩ := Prod.mk.inj (Except.ok.inj h)
      exact ⟨v, .bare htag⟩

theorem exists_packageResultAt (hencodes : Encodes tlv payload)
    (hprovide : provideResultTLV tlv = some provideTLV)
    (hrequest : ProvideEimPackageResult.unmarshalBERTLV H.bertlv provideTLV = .ok request)
    (r : PackageReading H s eid request.eimPackageResult.raw) :
    ∃ wire, PackageResultAt tlv payload r.resultTLV wire := by
  obtain ⟨w, hw⟩ := exists_provideAt hencodes hprovide
  have hencodesProvide : Encodes provideTLV w := by
    cases hw with
    | bare => exact hencodes
    | enveloped _ hchild => exact hchild.encodes
  obtain ⟨-, -, hrequest⟩ := Outcome.bind_eq_ok.mp hrequest
  split at hrequest
  next child hfind =>
      obtain ⟨result, hresult, hrequest⟩ := Outcome.bind_eq_ok.mp hrequest
      obtain rfl := Except.ok.inj hrequest
      have hraw : result.raw = child := raw_of_unmarshalBERTLV hresult
      obtain ⟨v, hv⟩ := exists_firstChildAt hencodesProvide hfind
      obtain ⟨wire, hwire⟩ := exists_packageAt (hraw ▸ hv.encodes) r.split_eq
      exact ⟨wire, provideTLV, w, child, v, hw, hv, hraw ▸ hwire⟩
  next => cases hrequest

/-- What the handler makes of the verification is the verdict. -/
theorem SameVerdicts.verifiedOperationResult {x y : Bytes} (h : SameVerdicts H.bertlv x y)
    (operation : Operation) (publicKey : PublicKey) :
    (Esipa.verifiedOperationResult H operation eid x publicKey s).1.toOption =
      (Esipa.verifiedOperationResult H operation eid y publicKey s).1.toOption := by
  rw [Esipa.verifiedOperationResult, Esipa.verifiedOperationResult]
  cases hrequest : signedRequestFromOperation H eid operation with
  | error e => rfl
  | ok request =>
      rw [ofExcept_bind_of_ok _ s rfl, ofExcept_bind_of_ok _ s rfl]
      cases htoken : associationTokenForEIM H.bertlv H.tenant eid request.eimID s with
      | mk token s' =>
          cases token with
          | error e => rw [bind_of_error htoken, bind_of_error htoken]
          | ok token =>
              rw [bind_of_ok htoken, bind_of_ok htoken]
              exact h H.crypto ⟨request, x, publicKey, token, 0, 0⟩

/-- The package result in a provided message has octets on the wire, and the verdicts of the handler
are those on these octets exactly if the signed data in them have minimal lengths. -/
theorem wire_verdict_iff (hB : H.bertlv.Lawful) (hC : H.bertlv.Canonical)
    (hdecode : decodeRequest H payload = .ok tlv)
    (hprovide : provideResultTLV tlv = some provideTLV)
    (hrequest : ProvideEimPackageResult.unmarshalBERTLV H.bertlv provideTLV = .ok request)
    (r : PackageReading H s eid request.eimPackageResult.raw) :
    (∃ wire, PackageResultAt tlv payload r.resultTLV wire) ∧
    ∀ wire, PackageResultAt tlv payload r.resultTLV wire →
      (SameVerdicts H.bertlv r.resultDER wire ↔ SignedMinimally r.resultTLV r.resultDER wire) ∧
      (SignedMinimally r.resultTLV r.resultDER wire → ∀ publicKey,
        (verifiedOperationResult H r.operation eid r.resultDER publicKey s).1.toOption =
          (verifiedOperationResult H r.operation eid wire publicKey s).1.toOption) := by
  have hreads := reads_of_decodeRequest hB hdecode
  refine ⟨exists_packageResultAt hreads.1 hprovide hrequest r, fun wire hat => ?_⟩
  have hwire := hreads.packageResult hC hat
  have hencode : encode r.resultTLV = some r.resultDER := by
    have hmarshal := r.marshal_eq
    rw [marshalBinary] at hmarshal
    split at hmarshal
    next octets hoctets =>
        obtain rfl := Except.ok.inj hmarshal
        exact hC.marshalBinary_minimal _ _ hoctets
    next => cases hmarshal
  have hreencoded : Asn1.decode H.bertlv (EuiccPackageResult.unmarshalBERTLV H.bertlv) r.resultDER =
      .ok r.result := (decode_marshalBinary hB _ hwire.1.wellFormed r.marshal_eq).trans r.decode_eq
  have hreceived : Asn1.decode H.bertlv (EuiccPackageResult.unmarshalBERTLV H.bertlv) wire =
      .ok r.result := by
    rw [Asn1.decode, hwire.parseTLV]
    exact r.decode_eq
  have hiff := sameVerdicts_iff_minimal hC r.decode_eq hencode hwire.1 hreencoded hreceived
  exact ⟨hiff, fun hminimal publicKey => (hiff.mpr hminimal).verifiedOperationResult _ publicKey⟩

/-! A signed result for counter 1, and the message that provides it, with the length of the signed
data in the short or in the long form. -/

def sampleSignedData (length : Bytes) : Bytes :=
  [0x30] ++ length ++ [0x80, 0x01, 0x65, 0x81, 0x01, 0x01, 0x83, 0x01, 0x05, 0x30, 0x03, 0x83, 0x01,
    0x00]

def sampleResultOctets (length : Bytes) : Bytes :=
  [0xbf, 0x51, UInt8.ofNat (20 + length.length), 0xa0, UInt8.ofNat (18 + length.length)] ++
    sampleSignedData length ++ [0x5f, 0x37, 0x00]

def sampleProvided (length : Bytes) : Bytes :=
  [0xbf, 0x50, UInt8.ofNat (41 + length.length), 0x5a, 0x10] ++ sampleEID ++
    sampleResultOctets length

/-- A handler for an eUICC that has signed nothing but the signed data with that length. -/
def sampleVerifier (length : Bytes) : Handler :=
  { sampleHandler with crypto := acceptsOnly (sampleSignedData length ++ [0x84, 0x01, 0x00]) }

theorem decodeRequest_sampleProvided :
    ∀ length ∈ [[0x0e], [0x81, 0x0e]], decodeRequest (sampleVerifier length) (sampleProvided length) =
      .ok (sampleMessage (sampleSignedResult 1 3 0)) := by
  decide +kernel

theorem packageResultAt_sampleProvided {length : Bytes} (hlength : length ∈ [[0x0e], [0x81, 0x0e]]) :
    PackageResultAt (sampleMessage (sampleSignedResult 1 3 0)) (sampleProvided length)
      (sampleSignedResult 1 3 0) (sampleResultOctets length) := by
  have heid : EncodesAll [.primitive tagEID sampleEID] (([0x5a, 0x10] ++ sampleEID) ++ []) :=
    .cons (.primitive rfl fun _ => rfl) .nil
  have hread : ∀ length ∈ [[0x0e], [0x81, 0x0e]],
      Bertlv.reference.readFrom (sampleResultOctets length) =
        .ok (sampleSignedResult 1 3 0, (sampleResultOctets length).length) := by
    decide +kernel
  have hresult := encodes_of_readFrom Bertlv.reference_lawful (hread length hlength)
  refine ⟨_, _, _, _, .bare rfl, ?_, .bare (by decide)⟩
  have hoctets : sampleProvided length = [0xbf, 0x50, UInt8.ofNat (41 + length.length)] ++
      ((([0x5a, 0x10] ++ sampleEID) ++ []) ++ (sampleResultOctets length ++ [])) := by
    simp [sampleProvided]
  rw [hoctets]
  show FirstChildAt _ (.constructed tagProvideEimResult
    ([.primitive tagEID sampleEID] ++ sampleSignedResult 1 3 0 :: [])) _ _ _
  refine .intro rfl ?_ heid hresult .nil (by decide) (by decide)
  rcases List.mem_pair.mp hlength with rfl | rfl
  · exact fun _ => rfl
  · exact fun _ => rfl

def sampleProvidedReading (length : Bytes) :
    PackageReading (sampleVerifier length) sampleEnableStore (Hex.encode sampleEID)
      (sampleSignedResult 1 3 0) where
  resultTLV := sampleSignedResult 1 3 0
  notificationList := none
  result := .ok ⟨⟨text "e", 1, none, 5, [⟨.primitive (context 3) [0x00]⟩]⟩, []⟩
  resultDER := sampleResultOctets [0x0e]
  publicKey := some (.ecdsa ⟨256, 0, 0⟩)
  operation := ⟨1, Hex.encode sampleEID, 1, .euiccPackage,
    (samplePackage (.enable [0x89] false) 1).payload, .pending⟩
  split_eq := rfl
  decode_eq := rfl
  marshal_eq := rfl
  key_eq := rfl
  match_eq := by
    have hmatch : (matchingEUICCPackageOperation sampleHandler (Hex.encode sampleEID)
        (.ok ⟨⟨text "e", 1, none, 5, [⟨.primitive (context 3) [0x00]⟩]⟩, []⟩) sampleEnableStore).1 =
        .ok ⟨1, Hex.encode sampleEID, 1, .euiccPackage,
          (samplePackage (.enable [0x89] false) 1).payload, .pending⟩ := by
      decide +kernel
    exact hmatch

theorem wire_verdict_iff_short_form :
    SameVerdicts .reference (sampleResultOctets [0x0e]) (sampleResultOctets [0x0e]) ↔
      SignedMinimally (sampleSignedResult 1 3 0) (sampleResultOctets [0x0e])
        (sampleResultOctets [0x0e]) :=
  ((wire_verdict_iff Bertlv.reference_lawful Bertlv.reference_canonical
    (decodeRequest_sampleProvided [0x0e] (by simp)) rfl rfl (sampleProvidedReading [0x0e])).2 _
      (packageResultAt_sampleProvided (by simp))).1

/-- A result whose signed data have a length in the long form is valid on the octets that were
received, and the handler rejects it. -/
theorem long_form_rejected :
    PackageResultAt (sampleMessage (sampleSignedResult 1 3 0)) (sampleProvided [0x81, 0x0e])
      (sampleSignedResult 1 3 0) (sampleResultOctets [0x81, 0x0e]) ∧
    ((verifiedOperationResult (sampleVerifier [0x81, 0x0e])
      (sampleProvidedReading [0x81, 0x0e]).operation (Hex.encode sampleEID)
      (sampleResultOctets [0x81, 0x0e]) (.ecdsa ⟨256, 0, 0⟩) sampleEnableStore).1.map
        Prod.snd).toOption = some .done ∧
    (handleEncodedResponse (sampleVerifier [0x81, 0x0e]) (sampleProvided [0x81, 0x0e])
      sampleEnableStore).1 = .error .signatureInvalid :=
  ⟨packageResultAt_sampleProvided (by simp), by decide +kernel, by decide +kernel⟩

end Esipa

end OpenIotRsp
