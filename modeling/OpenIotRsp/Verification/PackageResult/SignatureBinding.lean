import OpenIotRsp.Model.Euiccpkg.Verify
import OpenIotRsp.Verification.Package.Parse
import OpenIotRsp.Verification.PackageResult.RawSpans

/-!
# What the eUICC signature of a package result covers

Two parsers read a package result: `asn1` decides that it is signed, and the
raw parser delivers the octets that were signed.  They agree where the arm is
not A2 and ends with the signature; elsewhere an accepted signature covers the
association token alone.
-/

namespace OpenIotRsp

open Octets Ber Asn1 Euiccpkg

variable {decoded : EuiccPackageResult} {input : ResultInput}

/-! ## The decoded side -/

namespace Asn1

variable {B : Bertlv}

/-- The signature of a signed kind. -/
def EuiccPackageResult.signature : EuiccPackageResult → Option Bytes
  | .ok signed => some signed.euiccSignEPR
  | .errorSigned error => some error.euiccSignEPE
  | .errorUnsigned _ => none

/-- The TLV is the one that was decoded into the signed data. -/
def EuiccPackageResult.DecodedFrom (B : Bertlv) (t : Tlv) : EuiccPackageResult → Prop
  | .ok signed => EuiccPackageResultDataSigned.unmarshalBERTLV B t = .ok signed.data
  | .errorSigned error => EuiccPackageErrorDataSigned.unmarshalBERTLV B t = .ok error.data
  | .errorUnsigned _ => False

/-- The selected alternative under BF51. -/
def selectedArm (B : Bertlv) (resultDER : Bytes) : Option Tlv :=
  match (parseTLV B resultDER).toOption.map Tlv.children with
  | some [arm] => some arm
  | _ => none

@[simp]
theorem children_unwrapEuiccPackageResultChoice (t : Tlv) :
    (unwrapEuiccPackageResultChoice t).children = t.children := by
  rw [unwrapEuiccPackageResultChoice]
  split <;> rfl

theorem tag_of_unwrapEuiccPackageResultChoice {t : Tlv}
    (htag : (unwrapEuiccPackageResultChoice t).tag = tagSequence) :
    t.tag = tagSequence ∨ t.tag = contextConstructed 0 ∨ t.tag = contextConstructed 1 ∨
      t.tag = contextConstructed 2 := by
  rw [unwrapEuiccPackageResultChoice] at htag
  split at htag
  next h => exact .inr h
  next => exact .inl htag

theorem EuiccPackageResultSigned.of_unmarshalBERTLV {t : Tlv} {signed : EuiccPackageResultSigned}
    (hdecode : EuiccPackageResultSigned.unmarshalBERTLV B t = .ok signed) :
    t.tag = tagSequence ∧ ∃ data rest, t.children = data :: rest ∧
      EuiccPackageResultDataSigned.unmarshalBERTLV B data = .ok signed.data := by
  obtain ⟨_, htag, hdecode⟩ := Outcome.bind_eq_ok.mp hdecode
  split at hdecode
  next data second rest hchildren =>
      obtain ⟨decoded, hdata, hdecode⟩ := Outcome.bind_eq_ok.mp hdecode
      obtain ⟨_, -, hdecode⟩ := Outcome.bind_eq_ok.mp hdecode
      obtain rfl := Except.ok.inj hdecode
      exact ⟨expectTag_eq_ok.mp htag, data, second :: rest, hchildren, hdata⟩
  next => cases hdecode

theorem EuiccPackageErrorSigned.of_unmarshalBERTLV {t : Tlv} {error : EuiccPackageErrorSigned}
    (hdecode : EuiccPackageErrorSigned.unmarshalBERTLV B t = .ok error) :
    t.tag = tagSequence ∧ ∃ data rest, t.children = data :: rest ∧
      EuiccPackageErrorDataSigned.unmarshalBERTLV B data = .ok error.data := by
  obtain ⟨_, htag, hdecode⟩ := Outcome.bind_eq_ok.mp hdecode
  split at hdecode
  next data second rest hchildren =>
      obtain ⟨decoded, hdata, hdecode⟩ := Outcome.bind_eq_ok.mp hdecode
      obtain ⟨_, -, hdecode⟩ := Outcome.bind_eq_ok.mp hdecode
      obtain rfl := Except.ok.inj hdecode
      exact ⟨expectTag_eq_ok.mp htag, data, second :: rest, hchildren, hdata⟩
  next => cases hdecode

/-- A signed kind comes from a SEQUENCE with the signed data as its first child. -/
theorem EuiccPackageResult.of_unmarshalSelected {t : Tlv} {signature : Bytes}
    (hdecode : EuiccPackageResult.unmarshalSelected B t = .ok decoded)
    (hsigned : decoded.signature = some signature) :
    t.tag = tagSequence ∧ ∃ data rest, t.children = data :: rest ∧ decoded.DecodedFrom B data := by
  rw [EuiccPackageResult.unmarshalSelected] at hdecode
  split at hdecode
  next =>
      split at hdecode
      next => cases hdecode
      next =>
          split at hdecode
          next =>
              obtain ⟨signed, hsub, heq⟩ := Outcome.bind_eq_ok.mp hdecode
              obtain rfl := Except.ok.inj heq
              exact EuiccPackageResultSigned.of_unmarshalBERTLV hsub
          next =>
              obtain ⟨error, hsub, heq⟩ := Outcome.bind_eq_ok.mp hdecode
              obtain rfl := Except.ok.inj heq
              exact EuiccPackageErrorSigned.of_unmarshalBERTLV hsub
  next =>
      obtain ⟨error, -, heq⟩ := Outcome.bind_eq_ok.mp hdecode
      obtain rfl := Except.ok.inj heq
      cases hsigned

theorem EuiccPackageResult.of_unmarshalBERTLV {t : Tlv}
    (hdecode : EuiccPackageResult.unmarshalBERTLV B t = .ok decoded) :
    t.tag = tagEuiccPkg ∧ ∃ arm, t.children = [arm] ∧
      EuiccPackageResult.unmarshalSelected B (unwrapEuiccPackageResultChoice arm) =
        .ok decoded := by
  obtain ⟨_, htag, hdecode⟩ := Outcome.bind_eq_ok.mp hdecode
  split at hdecode
  next arm hchildren => exact ⟨expectTag_eq_ok.mp htag, arm, hchildren, hdecode⟩
  next => cases hdecode

end Asn1

/-! ## The raw side -/

namespace Euiccpkg

/-- The wire octets `w` of the first child of the selected arm, inside a package result. -/
structure SignedDataAt (resultDER : Bytes) (arm data : Tlv) (w : Bytes) : Prop where
  encodes : Encodes data w
  located : ∃ hroot harm after, resultDER = hroot ++ (harm ++ (w ++ after)) ∧
    Header tagEuiccPkg (harm ++ (w ++ after)).length hroot ∧
    Header arm.tag (w ++ after).length harm

/-- The arm is not A2 and its last child is the signature. -/
def SignatureLast (arm : Tlv) : Prop :=
  arm.tag ≠ contextConstructed 2 ∧ arm.children.getLast?.map Tlv.tag = some tagSignature

instance (arm : Tlv) : Decidable (SignatureLast arm) :=
  inferInstanceAs (Decidable (_ ∧ _))

theorem tag_eq_iff_octets {a b : Tag} : a = b ↔ a.octets = b.octets := by
  cases a
  cases b
  simp

/-- The tag of the last span is the tag of the last child. -/
theorem last_span_tag {data : Tlv} {rest : List Tlv} {span : TlvSpan} {spans : List TlvSpan}
    (htags : (span :: spans).map TlvSpan.tag = (data :: rest).map fun t => t.tag.octets) :
    (spans.getLastD span).tag = Raw.tagSignature ↔
      (data :: rest).getLast?.map Tlv.tag = some tagSignature := by
  have hlast := congrArg List.getLast? htags
  rw [List.getLast?_map, List.getLast?_map, List.getLast?_cons] at hlast
  have hoctets : tagSignature.octets = Raw.tagSignature := by decide
  cases hget : (data :: rest).getLast? with
  | none => simp at hget
  | some t =>
      rw [hget] at hlast
      simp only [Option.map_some, Option.some.injEq] at hlast ⊢
      rw [← List.getLastD_eq_getLast?] at hlast
      rw [hlast, tag_eq_iff_octets, hoctets]

/-- The children of an arm, as the raw parser sees them. -/
theorem signedData_of_children {data w after r : Bytes} {arm first : Tlv} {rest : List Tlv}
    {offset : Nat} {harm : Bytes} {spans : List TlvSpan} {raw : Option Bytes}
    (hfirst : Encodes first w) (hrest : EncodesAll rest after)
    (hdrop : data.drop (offset + harm.length) = w ++ after ++ r)
    (hspans : children data (headerSpan offset harm arm.tag (w ++ after).length) = .ok spans)
    (hraw : signedDataOfSpans data spans = .ok raw) :
    raw = if (first :: rest).getLast?.map Tlv.tag = some tagSignature then some w else none := by
  have hpos := hfirst.length_pos
  simp only [children, headerSpan, Nat.add_sub_cancel_left] at hspans
  have htags := childrenFrom_tags (.cons hfirst hrest) hdrop le_rfl hspans
  obtain ⟨h, v, rfl, hheader⟩ := hfirst.exists_header
  rw [List.append_assoc] at hdrop
  have hdrop' := hdrop
  rw [List.append_assoc] at hdrop'
  obtain ⟨others, rfl⟩ := childrenFrom_head hheader hdrop'
    (by rw [List.length_append]; omega) (by rw [List.length_append]; omega) hspans
  rw [signedDataOfSpans_eq (wire_headerSpan hdrop) hraw]
  simp only [last_span_tag htags]

/-- The raw parser returns the signed data for an arm that ends with its signature and is not A2,
and nothing for any other arm that decodes as signed. -/
theorem rawSignedDataFromResultDER_eq {resultDER hroot harm w after : Bytes} {arm first : Tlv}
    {rest : List Tlv} {raw : Option Bytes}
    (hder : resultDER = hroot ++ (harm ++ (w ++ after)))
    (hheader : Header tagEuiccPkg (harm ++ (w ++ after)).length hroot)
    (harmHeader : Header arm.tag (w ++ after).length harm)
    (hfirst : Encodes first w) (hrest : EncodesAll rest after)
    (hchildren : arm.children = first :: rest)
    (htag : arm.tag = tagSequence ∨ arm.tag = contextConstructed 0 ∨
      arm.tag = contextConstructed 1 ∨ arm.tag = contextConstructed 2)
    (hraw : rawSignedDataFromResultDER resultDER = .ok raw) :
    raw = if SignatureLast arm then some w else none := by
  obtain ⟨root, hparse, hraw⟩ := Outcome.bind_eq_ok.mp hraw
  have hstart : resultDER.drop 0 = hroot ++ (harm ++ (w ++ after)) := by rw [List.drop_zero, hder]
  obtain rfl := parseTLVSpan_eq hheader hstart hparse
  simp only [Outcome.throw_eq, Outcome.error_bind, Outcome.guard_eq_ok] at hraw
  obtain ⟨-, -, hraw⟩ := hraw
  obtain ⟨selected, honly, hraw⟩ := Outcome.bind_eq_ok.mp hraw
  obtain ⟨child, hchild, honly⟩ := Outcome.bind_eq_ok.mp honly
  simp only [Outcome.throw_eq, Outcome.error_bind, Outcome.guard_eq_ok] at honly
  obtain rfl := Except.ok.inj honly.2
  have hdrop : resultDER.drop (0 + hroot.length) = harm ++ (w ++ after) := by
    rw [hder, Nat.zero_add, List.drop_left]
  have hselected := parseTLVSpan_eq harmHeader hdrop hchild
  have hselectedTag : child.tag = arm.tag.octets := by rw [hselected]; rfl
  have hinner : resultDER.drop (0 + hroot.length + harm.length) = w ++ after ++ [] := by
    rw [← List.drop_drop, hdrop, List.drop_left, List.append_nil]
  by_cases h2 : arm.tag = contextConstructed 2
  · -- A2 counts as unsigned, whatever its children are
    have hcond : isContextConstructedTag child.tag 2 = true := by
      rw [hselectedTag, h2]
      decide
    rw [if_pos hcond] at hraw
    rw [if_neg (fun h => h.1 h2)]
    exact (Except.ok.inj hraw).symm
  · have hcases : arm.tag ∈ [tagSequence, contextConstructed 0, contextConstructed 1] := by
      simpa [h2] using htag
    have hskip : ∀ tag ∈ [tagSequence, contextConstructed 0, contextConstructed 1],
        isContextConstructedTag tag.octets 2 = false ∧
          ¬(tag.octets ≠ Raw.tagSequence ∧ !isContextConstructedTag tag.octets 0 ∧
            !isContextConstructedTag tag.octets 1) := by
      decide
    obtain ⟨hnot2, hsigned⟩ := hskip _ hcases
    rw [← hselectedTag] at hnot2 hsigned
    rw [if_neg (by simp [hnot2]), if_neg hsigned] at hraw
    obtain ⟨spans, hspans, hraw⟩ := Outcome.bind_eq_ok.mp hraw
    rw [hselected] at hspans
    rw [signedData_of_children hfirst hrest hinner hspans hraw]
    simp [SignatureLast, h2, hchildren]

/-! ## Agreement of the two -/

variable {B : Bertlv} {C : Crypto}

/-- The octets that the signature of a result is checked on. -/
def checkedOctets (B : Bertlv) (input : ResultInput) : Except Error Bytes := do
  let rawSignedData ← rawSignedDataFromResultDER input.resultDER
  signatureInput B (rawSignedData.getD []) input.associationToken

/-- An accepted result of a signed kind has passed the signature check. -/
theorem checked_of_verifyPackageResult {result : Result} {signature : Bytes}
    (haccept : verifyPackageResult B C input = .ok result)
    (hdecoded : Asn1.decode B (EuiccPackageResult.unmarshalBERTLV B) input.resultDER =
      .ok decoded) (hsigned : decoded.signature = some signature) :
    ∃ raw checked, rawSignedDataFromResultDER input.resultDER = .ok raw ∧
      signatureInput B (raw.getD []) input.associationToken = .ok checked ∧
      verifySignedBytes C input.euiccPublicKey checked signature = .ok () := by
  rw [verifyPackageResult] at haccept
  split at haccept
  next => cases haccept
  next request _ =>
      obtain ⟨decoded', hdecoded', haccept⟩ := Outcome.bind_eq_ok.mp haccept
      obtain rfl := Except.ok.inj (hdecoded'.symm.trans hdecoded)
      obtain ⟨raw, hraw, haccept⟩ := Outcome.bind_eq_ok.mp haccept
      obtain ⟨checked, hchecked, haccept⟩ := Outcome.bind_eq_ok.mp haccept
      refine ⟨raw, checked, hraw, hchecked, ?_⟩
      cases decoded' with
      | ok signed =>
          obtain ⟨⟨⟩, hverify, -⟩ := Outcome.bind_eq_ok.mp haccept
          exact Option.some.inj hsigned ▸ hverify
      | errorSigned error =>
          obtain ⟨⟨⟩, hverify, -⟩ := Outcome.bind_eq_ok.mp haccept
          exact Option.some.inj hsigned ▸ hverify
      | errorUnsigned error => cases hsigned

theorem matchSignedResult_eq_ok {request : SignedRequest} {wantSequence counter sequence : Int}
    {eimID : Bytes} {transactionID : Option Bytes}
    (h : matchSignedResult request wantSequence eimID counter transactionID sequence = .ok ()) :
    eimID = request.eimID ∧ counter = request.counterValue ∧
      transactionID.getD [] = request.eimTransactionID.getD [] := by
  rw [matchSignedResult] at h
  split at h
  next => cases h
  next hidentifiers =>
      split at h
      next => cases h
      next hcounter =>
          simp only [not_or, not_not, sameTransaction, Bool.not_eq_true', decide_eq_false_iff_not]
            at hidentifiers hcounter
          exact ⟨hidentifiers.1, hcounter, hidentifiers.2⟩

/-- A result that is accepted as a success is of the signed successful kind, carries the signature
that was checked and the identifiers of the request. -/
theorem signed_of_accepted {B : Bertlv} {C : Crypto} {request : SignedRequest} {result : Result}
    (hrequest : input.request = some request) (haccept : verifyPackageResult B C input = .ok result)
    (hok : result.ok = true) :
    ∃ signed checked,
      Asn1.decode B (EuiccPackageResult.unmarshalBERTLV B) input.resultDER = .ok (.ok signed) ∧
      checkedOctets B input = .ok checked ∧
      verifySignedBytes C input.euiccPublicKey checked signed.euiccSignEPR = .ok () ∧
      signed.data.eimID = request.eimID ∧ signed.data.counterValue = request.counterValue ∧
      signed.data.eimTransactionID.getD [] = request.eimTransactionID.getD [] ∧
      operationResult B request.package signed.data.results = .ok result := by
  rw [verifyPackageResult, hrequest] at haccept
  obtain ⟨decoded, hdecode, haccept⟩ := Outcome.bind_eq_ok.mp haccept
  obtain ⟨raw, hraw, haccept⟩ := Outcome.bind_eq_ok.mp haccept
  obtain ⟨checked, hchecked, haccept⟩ := Outcome.bind_eq_ok.mp haccept
  cases decoded with
  | ok signed =>
      obtain ⟨⟨⟩, hverify, haccept⟩ := Outcome.bind_eq_ok.mp haccept
      obtain ⟨⟨⟩, hmatch, haccept⟩ := Outcome.bind_eq_ok.mp haccept
      obtain ⟨heimID, hcounter, htransaction⟩ := matchSignedResult_eq_ok hmatch
      have hinput : checkedOctets B input = .ok checked :=
        Outcome.bind_eq_ok.mpr ⟨raw, hraw, hchecked⟩
      exact ⟨signed, checked, hdecode, hinput, hverify, heimID, hcounter, htransaction, haccept⟩
  | errorSigned error =>
      obtain ⟨⟨⟩, -, haccept⟩ := Outcome.bind_eq_ok.mp haccept
      obtain ⟨⟨⟩, -, haccept⟩ := Outcome.bind_eq_ok.mp haccept
      obtain rfl := Except.ok.inj haccept
      cases hok
  | errorUnsigned error =>
      dsimp only at haccept
      split at haccept
      next => cases haccept
      next =>
          split at haccept
          all_goals
            obtain rfl := Except.ok.inj haccept
            cases hok

/-- Where the signed data of an encoded package result stands. -/
theorem exists_signedDataAt {resultDER : Bytes} {root arm data : Tlv} {rest : List Tlv}
    (hroot : Encodes root resultDER) (htag : root.tag = tagEuiccPkg)
    (harm : root.children = [arm]) (hchildren : arm.children = data :: rest) :
    ∃ hroot harm w after, resultDER = hroot ++ (harm ++ (w ++ after)) ∧
      Header tagEuiccPkg (harm ++ (w ++ after)).length hroot ∧
      Header arm.tag (w ++ after).length harm ∧ Encodes data w ∧ EncodesAll rest after := by
  cases hroot with
  | primitive _ _ => cases harm
  | constructed _ hheader hbody =>
      obtain rfl : _ = [arm] := harm
      cases hbody with
      | cons harmEnc htail =>
      cases htail
      rw [List.append_nil] at hheader ⊢
      cases harmEnc with
      | primitive _ _ => cases hchildren
      | constructed _ hinner hinnerBody =>
          obtain rfl : _ = data :: rest := hchildren
          cases hinnerBody with
          | cons hdata hrest =>
              obtain rfl : _ = tagEuiccPkg := htag
              exact ⟨_, _, _, _, rfl, hheader, hinner, hdata, hrest⟩

/-- The signature of an accepted result covers the wire octets of the signed data and the token
exactly when the arm is not A2 and ends with the signature. -/
theorem checkedOctets_eq_signedData_iff (hB : B.Lawful) {input : ResultInput} {result : Result}
    {decoded : EuiccPackageResult} {signature : Bytes}
    (haccept : verifyPackageResult B C input = .ok result)
    (hdecoded : Asn1.decode B (EuiccPackageResult.unmarshalBERTLV B) input.resultDER =
      .ok decoded)
    (hsigned : decoded.signature = some signature) :
    ∃ arm data w token checked,
      selectedArm B input.resultDER = some arm ∧ arm.children.head? = some data ∧
      decoded.DecodedFrom B data ∧ SignedDataAt input.resultDER arm data w ∧
      associationTokenTLV B (input.associationToken.getD 0) = .ok token ∧
      checkedOctets B input = .ok checked ∧
      verifySignedBytes C input.euiccPublicKey checked signature = .ok () ∧
      (checked = w ++ token ↔ SignatureLast arm) := by
  obtain ⟨raw, checked, hraw, hchecked, hverify⟩ :=
    checked_of_verifyPackageResult haccept hdecoded hsigned
  obtain ⟨root, hparse, hunmarshal⟩ := Outcome.bind_eq_ok.mp hdecoded
  obtain ⟨htag, arm, harm, hselected⟩ := EuiccPackageResult.of_unmarshalBERTLV hunmarshal
  obtain ⟨hseq, data, rest, hchildren, hfrom⟩ :=
    EuiccPackageResult.of_unmarshalSelected hselected hsigned
  rw [children_unwrapEuiccPackageResultChoice] at hchildren
  obtain ⟨hroot, harmHeader, w, after, hder, hheader, hinner, hdata, hrest⟩ :=
    exists_signedDataAt (parseTLV_encodes hB hparse) htag harm hchildren
  have hrawEq := rawSignedDataFromResultDER_eq hder hheader hinner hdata hrest hchildren
    (tag_of_unwrapEuiccPackageResultChoice hseq) hraw
  obtain ⟨token, htoken, hconcat⟩ := Outcome.bind_eq_ok.mp hchecked
  obtain rfl := Except.ok.inj hconcat
  refine ⟨arm, data, w, token, _, ?_, ?_, hfrom, ⟨hdata, hroot, harmHeader, after, hder, hheader,
    hinner⟩, htoken, ?_, hverify, ?_⟩
  · simp [selectedArm, hparse, Except.toOption, harm]
  · rw [hchildren, List.head?_cons]
  · rw [checkedOctets, hraw]
    exact hchecked
  · rw [List.append_left_inj, hrawEq]
    by_cases hlast : SignatureLast arm
    · simp [hlast]
    · -- nothing was extracted, and a TLV is never empty
      have hpos := hdata.length_pos
      simp only [hlast, if_false, Option.getD_none, iff_false]
      rintro rfl
      exact absurd hpos (by simp)

/-- A cryptography under which one octet string only carries a valid signature. -/
def acceptsOnly (signed : Bytes) : Crypto where
  sha256 := id
  verifyASN1 _ digest _ := digest = signed
  verify _ _ _ _ := false

/-- A package result for eIM "e" and counter 7, under a given arm. -/
def sampleSignedData : Bytes :=
  [0x30, 0x0d, 0x80, 0x01, 0x65, 0x81, 0x01, 0x07, 0x83, 0x01, 0x01, 0x30, 0x02, 0x05, 0x00]

def sampleResultInput (arm : UInt8) : ResultInput where
  request := some
    { eimID := [0x65], counterValue := 7, eimTransactionID := none, package := .eco [] }
  resultDER := [0xbf, 0x51, 0x14, arm, 0x12] ++ sampleSignedData ++ [0x5f, 0x37, 0x00]
  euiccPublicKey := .ecdsa ⟨256, 0, 0⟩

def sampleDecoded : EuiccPackageResult :=
  .ok ⟨⟨[0x65], 7, none, 1, [⟨.primitive tagNull []⟩]⟩, []⟩

theorem checkedOctets_eq_signedData_iff_sample :
    ∃ arm data w token checked,
      selectedArm .reference (sampleResultInput 0xa0).resultDER = some arm ∧
      arm.children.head? = some data ∧ sampleDecoded.DecodedFrom .reference data ∧
      SignedDataAt (sampleResultInput 0xa0).resultDER arm data w ∧
      associationTokenTLV .reference 0 = .ok token ∧
      checkedOctets .reference (sampleResultInput 0xa0) = .ok checked ∧
      verifySignedBytes (acceptsOnly (sampleSignedData ++ [0x84, 0x01, 0x00]))
        (.ecdsa ⟨256, 0, 0⟩) checked [] = .ok () ∧
      (checked = w ++ token ↔ SignatureLast arm) :=
  @checkedOctets_eq_signedData_iff .reference
    (acceptsOnly (sampleSignedData ++ [0x84, 0x01, 0x00])) Bertlv.reference_lawful
    (sampleResultInput 0xa0) { ok := true, operation := .none, resultCode := ResultCode.ok }
    sampleDecoded [] (by decide +kernel) (by decide +kernel) rfl

/-- Under arm A2 a signature over the association token alone is accepted. -/
theorem checkedOctets_eq_token_of_arm2 :
    verifyPackageResult .reference (acceptsOnly [0x84, 0x01, 0x00]) (sampleResultInput 0xa2) =
        .ok { ok := true, operation := .none, resultCode := ResultCode.ok } ∧
      Asn1.decode .reference (EuiccPackageResult.unmarshalBERTLV .reference)
        (sampleResultInput 0xa2).resultDER = .ok sampleDecoded ∧
      checkedOctets .reference (sampleResultInput 0xa2) = .ok [0x84, 0x01, 0x00] ∧
      associationTokenTLV .reference 0 = .ok [0x84, 0x01, 0x00] := by
  decide +kernel

end Euiccpkg

end OpenIotRsp
