import OpenIotRsp.Verification.PackageResult.Authentic
import OpenIotRsp.Verification.PackageResult.RawGrammar

/-!
# Decodable and verifiable results

The verification of a signed result fails with a structural error exactly when
the raw parser does not accept its octets, which is not the same as that they
do not decode.
-/

namespace OpenIotRsp.Euiccpkg

open Octets Ber Asn1 Outcome

variable {decoded : EuiccPackageResult} {input : ResultInput}

/-! ## Errors behind the raw parser -/

/-- The error is none about the structure of the octets. -/
def IsContent (e : Error) : Prop := ¬ IsStructural e

theorem fails_content {α : Type} {text : String} (h : text ∉ structuralMessages) :
    FailsWith IsContent (.error (.message text) : Except Error α) := by
  refine failsWith_error ?_
  rintro ⟨text', hmem, heq⟩
  exact h (Error.message.inj heq ▸ hmem)

theorem fails_tag {α : Type} {e : Error} (h : ∀ text, e ≠ .message text) :
    FailsWith IsContent (.error e : Except Error α) := by
  refine failsWith_error ?_
  rintro ⟨text, -, rfl⟩
  exact h text rfl

variable {B : Bertlv} {C : Crypto} {results : List EuiccResultData} {operation : OperationKind}

theorem content_signatureInput (signedDER : Bytes) (token : Option Int) :
    FailsWith IsContent (signatureInput B signedDER token) := by
  refine FailsWith.bind ?_ fun _ => failsWith_ok _
  rw [associationTokenTLV]
  split
  next => exact fails_content (by decide)
  next =>
      split
      next => exact fails_content (by decide)
      next => exact failsWith_ok _

theorem content_verifySignedBytes (publicKey : PublicKey) (signedData signature : Bytes) :
    FailsWith IsContent (verifySignedBytes C publicKey signedData signature) := by
  cases publicKey with
  | unsupported => exact fails_content (by decide)
  | ecdsa key =>
      refine FailsWith.ite (fails_content (by decide)) (FailsWith.ite (failsWith_ok _) ?_)
      split
      next => exact failsWith_ok _
      next => exact fails_tag (by simp)

theorem content_matchSignedResult (request : SignedRequest) (wantSequence : Int) (eimID : Bytes)
    (counter : Int) (transactionID : Option Bytes) (sequence : Int) :
    FailsWith IsContent
      (matchSignedResult request wantSequence eimID counter transactionID sequence) := by
  refine FailsWith.ite (fails_tag (by simp)) (FailsWith.ite (fails_tag (by simp)) ?_)
  exact FailsWith.ite (fails_tag (by simp)) (failsWith_ok _)

/-! ## Errors of the results -/

theorem isContent_message {text : String} (h : text ∉ structuralMessages) :
    IsContent (.message text) := fails_content (α := Unit) h _ rfl

theorem content_expectTag (tlv : Tlv) (tag : Tag) : FailsWith IsContent (expectTag tlv tag) := by
  refine failsWith_expectTag (fun got want => ?_) tlv tag
  rintro ⟨text, -, heq⟩
  cases heq

theorem content_integerValue (child : Option Tlv) : FailsWith IsContent (integerValue B child) :=
  failsWith_integerValue B (isContent_message (by decide)) (isContent_message (by decide)) child

theorem content_integerResult (raw : Tlv) : FailsWith IsContent (integerResult B raw) := by
  rw [integerResult]
  split
  next => exact failsWith_ok _
  next => exact fails_content (by decide)

theorem content_profileInfo (tlv : Tlv) :
    FailsWith IsContent (Asn1.ProfileInfo.unmarshalBERTLV B tlv) := by
  have hboolean : ∀ child, FailsWith IsContent (booleanValue B child) := by
    intro child
    cases child with
    | none => exact fails_content (by decide)
    | some tlv =>
        rw [booleanValue]
        split
        next => exact failsWith_ok _
        next => exact fails_content (by decide)
  refine (content_expectTag tlv _).bind fun _ => ?_
  refine (fails_optionalValue (fun c => content_integerValue (some c)) _).bind fun _ => ?_
  exact (fails_optionalValue (fun c => hboolean (some c)) _).bind fun _ => failsWith_ok _

theorem content_listProfileInfoResult (raw : Tlv) :
    FailsWith IsContent (listProfileInfoResult B raw) := by
  refine FailsWith.bind ?_ fun decoded => ?_
  · refine (content_expectTag raw _).bind fun _ => ?_
    split
    next =>
        split
        next => exact (content_integerValue _).bind fun _ => failsWith_ok _
        next =>
            refine (content_expectTag _ _).bind fun _ => ?_
            exact (FailsWith.mapM content_profileInfo _).bind fun _ => failsWith_ok _
    next => exact fails_content (by decide)
  · split
    next => exact failsWith_ok _
    next => exact failsWith_ok _

theorem content_setDefaultDPAddressResult (raw : Tlv) :
    FailsWith IsContent (setDefaultDPAddressResult B raw) := by
  refine FailsWith.bind ?_ fun _ => failsWith_ok _
  refine (content_expectTag raw _).bind fun _ => ?_
  split
  next => exact (content_integerValue _).bind fun _ => failsWith_ok _
  next => exact fails_content (by decide)

/-- The arm was found by its tag, so that the tag is not refused any more. -/
theorem content_explicitResultChild {raw : Tlv} {number : Nat}
    (h : raw.tag.isContextSpecific ∧ raw.tag.number = number) :
    FailsWith IsContent (explicitResultChild raw number) := by
  rw [explicitResultChild, if_pos h]
  split
  next => exact failsWith_ok _
  next => exact fails_content (by decide)

theorem content_addEIMResult {raw : Tlv} (h : raw.tag.isContextSpecific ∧ raw.tag.number = 8) :
    FailsWith IsContent (addEIMResult B raw) := by
  refine (content_explicitResultChild h).bind fun child => FailsWith.bind ?_ fun decoded => ?_
  · refine FailsWith.ite ((content_integerValue _).bind fun _ => failsWith_ok _) ?_
    exact FailsWith.ite ((content_integerValue _).bind fun _ => failsWith_ok _)
      (fails_tag (by simp))
  · cases decoded with
    | associationToken token => exact failsWith_ok _
    | code value => exact failsWith_ok _

theorem content_listEIMResult {raw : Tlv} (h : raw.tag.isContextSpecific ∧ raw.tag.number = 11) :
    FailsWith IsContent (listEIMResult B raw) := by
  have hinfo : ∀ tlv, FailsWith IsContent (EimIDInfo.unmarshalBERTLV B tlv) := by
    intro tlv
    refine (content_expectTag tlv _).bind fun _ => FailsWith.bind ?_ fun _ => ?_
    · cases tlv.first (context 0) with
      | none => exact fails_content (by decide)
      | some _ => exact failsWith_ok _
    · exact (fails_optionalValue (fun c => content_integerValue (some c)) _).bind fun _ =>
        failsWith_ok _
  refine (content_explicitResultChild h).bind fun child => FailsWith.bind ?_ fun decoded => ?_
  · refine FailsWith.ite ((content_integerValue _).bind fun _ => failsWith_ok _) ?_
    refine (content_expectTag child _).bind fun _ => ?_
    exact (FailsWith.mapM hinfo _).bind fun _ => failsWith_ok _
  · cases decoded with
    | eimIDList list => exact failsWith_ok _
    | error value => exact failsWith_ok _

theorem tag_of_resultDataByTag {wantTag : Nat} {raw : Tlv}
    (h : resultDataByTag results wantTag = some raw) :
    raw.tag.isContextSpecific ∧ raw.tag.number = wantTag := by
  obtain ⟨data, hfind, rfl⟩ := Option.map_eq_some_iff.mp h
  have hfound := List.find?_some hfind
  exact of_decide_eq_true hfound

theorem content_integerOperationResult (raw : Tlv) :
    FailsWith IsContent (integerOperationResult B operation raw) :=
  (content_integerResult raw).bind fun _ => failsWith_ok _

theorem content_psmoOperationResult :
    FailsWith IsContent (psmoOperationResult B operation results) := by
  rw [psmoOperationResult]
  cases resultDataByTag results operation.resultTag with
  | some raw =>
      cases operation with
      | listProfileInfo => exact content_listProfileInfoResult raw
      | getRAT => exact failsWith_ok _
      | setDefaultDPAddress => exact content_setDefaultDPAddressResult raw
      | _ => exact content_integerOperationResult raw
  | none =>
      cases baseTypeIntegerResult operation results with
      | some raw => exact content_integerOperationResult raw
      | none => exact fails_tag (by simp)

theorem content_ecoOperationResult :
    FailsWith IsContent (ecoOperationResult B operation results) := by
  rw [ecoOperationResult]
  cases hdata : resultDataByTag results operation.resultTag with
  | none => exact fails_tag (by simp)
  | some raw =>
      have htag := tag_of_resultDataByTag hdata
      cases operation with
      | addEIM => exact content_addEIMResult htag
      | deleteEIM => exact (content_integerResult raw).bind fun _ => failsWith_ok _
      | updateEIM => exact (content_integerResult raw).bind fun _ => failsWith_ok _
      | listEIM => exact content_listEIMResult htag
      | _ => exact fails_content (by decide)

theorem content_operationResult (pkg : EuiccPackage) :
    FailsWith IsContent (operationResult B pkg results) :=
  FailsWith.ite content_psmoOperationResult
    (FailsWith.ite content_ecoOperationResult (failsWith_ok _))

/-- Behind the raw parser no structural error arises any more. -/
theorem content_verifyResult (decoded : EuiccPackageResult) (request : SignedRequest)
    (input : ResultInput) (raw : Option Bytes) :
    FailsWith IsContent (verifyResult B C decoded request input raw) := by
  refine (content_signatureInput _ _).bind fun signedInput => ?_
  cases decoded with
  | ok signed =>
      refine (content_verifySignedBytes _ _ _).bind fun _ => ?_
      exact (content_matchSignedResult _ _ _ _ _ _).bind fun _ => content_operationResult _
  | errorSigned error =>
      refine (content_verifySignedBytes _ _ _).bind fun _ => ?_
      exact (content_matchSignedResult _ _ _ _ _ _).bind fun _ => failsWith_ok _
  | errorUnsigned data =>
      refine FailsWith.ite (fails_tag (by simp)) ?_
      dsimp only
      split
      next => exact failsWith_ok _
      next => exact failsWith_ok _

/-! ## Signed results -/

/-- What a signed result says, once it is verified. -/
def reading (B : Bertlv) (request : SignedRequest) : EuiccPackageResult → Except Error Result
  | .ok signed => operationResult B request.package signed.data.results
  | .errorSigned error => .ok {
      packageError := mapPackageError error.data.errorCode
      rawPackageError := error.data.errorCode }
  | .errorUnsigned _ => .error .signatureInvalid

/-- The identifiers of a signed result are those of the request, and its sequence number is the
expected one where there is one. -/
def Answers (input : ResultInput) (request : SignedRequest) : EuiccPackageResult → Prop
  | .ok signed => matchSignedResult request input.sequenceNumber signed.data.eimID
      signed.data.counterValue signed.data.eimTransactionID signed.data.seqNumber = .ok ()
  | .errorSigned error => matchSignedResult request 0 error.data.eimID error.data.counterValue
      error.data.eimTransactionID 0 = .ok ()
  | .errorUnsigned _ => False

theorem verifyResult_eq_reading {request : SignedRequest} {raw : Option Bytes}
    {checked signature : Bytes}
    (hinput : signatureInput B (raw.getD []) input.associationToken = .ok checked)
    (hsigned : decoded.signature = some signature)
    (hverify : verifySignedBytes C input.euiccPublicKey checked signature = .ok ())
    (hanswers : Answers input request decoded) :
    verifyResult B C decoded request input raw = reading B request decoded := by
  rw [verifyResult, hinput, ok_bind]
  cases decoded with
  | ok signed =>
      obtain rfl := Option.some.inj hsigned
      dsimp only
      rw [hverify, ok_bind, hanswers]
      rfl
  | errorSigned error =>
      obtain rfl := Option.some.inj hsigned
      dsimp only
      rw [hverify, ok_bind, hanswers]
      rfl
  | errorUnsigned error => cases hanswers

theorem sequence_of_decodedFrom {t : Tlv} (h : decoded.DecodedFrom B t) : t.tag = tagSequence := by
  cases decoded with
  | ok signed => exact expectTag_eq_ok.mp (unit_bind_eq_ok.mp h).1
  | errorSigned error => exact expectTag_eq_ok.mp (unit_bind_eq_ok.mp h).1
  | errorUnsigned error => cases h

theorem exists_fields {data : Tlv} {w : Bytes} (h : Encodes data w) (htag : data.tag = tagSequence) :
    ∃ header fields, w = header ++ fields ∧ Header data.tag fields.length header ∧
      EncodesAll data.children fields := by
  cases h with
  | primitive hform _ =>
      obtain rfl := htag
      cases hform
  | constructed _ hheader hbody => exact ⟨_, _, rfl, hheader, hbody⟩

/-- The verification fails with a structural error just where the raw parser does. -/
theorem structural_iff {request : SignedRequest} (hrequest : input.request = some request)
    (hdecoded : Asn1.decode B (EuiccPackageResult.unmarshalBERTLV B) input.resultDER =
      .ok decoded) :
    (∀ e, verifyPackageResult B C input = .error e → ¬ IsStructural e) ↔
      (rawSignedDataFromResultDER input.resultDER).isOk := by
  rw [verifyPackageResult, hrequest]
  simp only [hdecoded, ok_bind]
  cases hraw : rawSignedDataFromResultDER input.resultDER with
  | error e =>
      refine iff_of_false (fun h => ?_) (by simp)
      exact h e rfl (structural_of_rawSignedDataFromResultDER _ e hraw)
  | ok raw => exact iff_of_true (fun e h => content_verifyResult _ _ _ _ e h) rfl

/-- A signed result that decodes is verified without a structural error just when the raw parser
accepts its octets; where its signature stands last, the verification then has the outcome that the
decoded result says. -/
theorem no_structural_error_iff (hB : B.Lawful) {input : ResultInput} {request : SignedRequest}
    {decoded : EuiccPackageResult} {signature : Bytes} (hrequest : input.request = some request)
    (hdecoded : Asn1.decode B (EuiccPackageResult.unmarshalBERTLV B) input.resultDER =
      .ok decoded)
    (hsigned : decoded.signature = some signature) :
    ∃ arm data w, selectedArm B input.resultDER = some arm ∧ arm.children.head? = some data ∧
      decoded.DecodedFrom B data ∧ SignedDataAt input.resultDER arm data w ∧
      ((∀ e, verifyPackageResult B C input = .error e → ¬ IsStructural e) ↔
        RawReadable input.resultDER arm data w) ∧
      ∀ token, associationTokenTLV B (input.associationToken.getD 0) = .ok token →
        verifySignedBytes C input.euiccPublicKey (w ++ token) signature = .ok () →
        Answers input request decoded → RawReadable input.resultDER arm data w →
        SignatureLast arm → verifyPackageResult B C input = reading B request decoded := by
  obtain ⟨root, hparse, hunmarshal⟩ := bind_eq_ok.mp hdecoded
  obtain ⟨htag, arm, harm, hselected⟩ := EuiccPackageResult.of_unmarshalBERTLV hunmarshal
  obtain ⟨hseq, data, rest, hchildren, hfrom⟩ :=
    EuiccPackageResult.of_unmarshalSelected hselected hsigned
  rw [children_unwrapEuiccPackageResultChoice] at hchildren
  obtain ⟨hroot, harmHeader, w, after, hder, hheader, hinner, hdata, hrest⟩ :=
    exists_signedDataAt (parseTLV_encodes hB hparse) htag harm hchildren
  have harmTag := tag_of_unwrapEuiccPackageResultChoice hseq
  have hsequence := sequence_of_decodedFrom hfrom
  obtain ⟨h, b, rfl, hdataHeader, hfields⟩ := exists_fields hdata hsequence
  have hreadable := rawSignedData_isOk_iff hheader hinner hdataHeader hfields hdata hrest hchildren
    hsequence harmTag
  rw [← hder] at hreadable
  refine ⟨arm, data, h ++ b, ?_, ?_, hfrom, ⟨hdata, hroot, harmHeader, after, hder, hheader, hinner⟩,
    (structural_iff hrequest hdecoded).trans hreadable, ?_⟩
  · simp [selectedArm, hparse, Except.toOption, harm]
  · rw [hchildren, List.head?_cons]
  · intro token htoken hverify hanswers hok hlast
    obtain ⟨raw, hraw⟩ := isOk_iff.mp (hreadable.mpr hok)
    obtain rfl := rawSignedDataFromResultDER_eq hder hheader hinner hdata hrest hchildren harmTag hraw
    rw [if_pos hlast] at hraw
    have hinput : signatureInput B (h ++ b) input.associationToken = .ok (h ++ b ++ token) := by
      rw [signatureInput, htoken]
      rfl
    rw [verifyPackageResult, hrequest]
    simp only [hdecoded, hraw, ok_bind]
    exact verifyResult_eq_reading hinput hsigned hverify hanswers

theorem no_structural_error_iff_sample :
    ∃ arm data w, selectedArm .reference (sampleResultInput 0xa0).resultDER = some arm ∧
      arm.children.head? = some data ∧ sampleDecoded.DecodedFrom .reference data ∧
      SignedDataAt (sampleResultInput 0xa0).resultDER arm data w ∧
      ((∀ e, verifyPackageResult .reference (acceptsOnly (sampleSignedData ++ [0x84, 0x01, 0x00]))
          (sampleResultInput 0xa0) = .error e → ¬ IsStructural e) ↔
        RawReadable (sampleResultInput 0xa0).resultDER arm data w) := by
  obtain ⟨arm, data, w, harm, hdata, hfrom, hat, hiff, -⟩ :=
    @no_structural_error_iff .reference (acceptsOnly (sampleSignedData ++ [0x84, 0x01, 0x00]))
      Bertlv.reference_lawful (sampleResultInput 0xa0)
      { eimID := [0x65], counterValue := 7, eimTransactionID := none, package := .eco [] }
      sampleDecoded [] rfl (by decide +kernel) rfl
  exact ⟨arm, data, w, harm, hdata, hfrom, hat, hiff⟩

/-- Signed data with the arm of its only result in place of the list. -/
def sampleDirectArm : Bytes :=
  [0x30, 0x0c, 0x80, 0x01, 0x65, 0x81, 0x01, 0x07, 0x83, 0x01, 0x01, 0x84, 0x01, 0x00]

def sampleDirectInput : ResultInput where
  request := some
    { eimID := [0x65], counterValue := 7, eimTransactionID := none, package := .psmo [.disable []] }
  resultDER := [0xbf, 0x51, 0x13, 0xa0, 0x11] ++ sampleDirectArm ++ [0x5f, 0x37, 0x00]
  euiccPublicKey := .ecdsa ⟨256, 0, 0⟩

/-- A result with its only arm in place of the list decodes, its signature is valid and its
identifiers match, and it is refused for its structure. -/
theorem direct_arm_refused :
    Asn1.decode .reference (EuiccPackageResult.unmarshalBERTLV .reference)
        sampleDirectInput.resultDER =
      .ok (.ok ⟨⟨[0x65], 7, none, 1, [⟨.primitive (context 4) [0x00]⟩]⟩, []⟩) ∧
    verifySignedBytes (acceptsOnly (sampleDirectArm ++ [0x84, 0x01, 0x00])) (.ecdsa ⟨256, 0, 0⟩)
      (sampleDirectArm ++ [0x84, 0x01, 0x00]) [] = .ok () ∧
    associationTokenTLV .reference 0 = .ok [0x84, 0x01, 0x00] ∧
    ∃ e, verifyPackageResult .reference (acceptsOnly (sampleDirectArm ++ [0x84, 0x01, 0x00]))
        sampleDirectInput = .error e ∧ IsStructural e :=
  ⟨by decide +kernel, by decide +kernel, by decide +kernel,
    .message "euiccpkg: signed data is not an SGP.32 eUICC package result payload",
    by decide +kernel, _, by decide, rfl⟩

end OpenIotRsp.Euiccpkg
