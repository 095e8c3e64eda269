import OpenIotRsp.Verification.Package.RoundTrip
import OpenIotRsp.Verification.PackageResult.RawGrammar

/-!
# Package results that are written and read

A package result is read as it was written, and the raw parser finds in its
octets the encoding of the signed data.
-/

namespace OpenIotRsp

open Octets Ber Outcome Euiccpkg

variable {B : Bertlv} {t : Tlv}

namespace Asn1

/-! ## The trees -/

/-- The fields that both kinds of signed data start with. -/
def signedFields (eimID counter : Bytes) (tx : Option Bytes) (rest : List Tlv) : List Tlv :=
  [utf8TLV (context 0) eimID, .primitive (context 1) counter] ++
    tx.toList.map (octetTLV (context 2)) ++ rest

section

variable (eimID counter : Bytes) (tx : Option Bytes) (rest : List Tlv)

theorem first_eimID :
    Tlv.first (.constructed tagSequence (signedFields eimID counter tx rest)) (context 0) =
      some (.primitive (context 0) eimID) := rfl

theorem first_counter :
    Tlv.first (.constructed tagSequence (signedFields eimID counter tx rest)) (context 1) =
      some (.primitive (context 1) counter) := rfl

theorem first_transaction (hrest : rest.find? (fun t => t.tag = context 2) = none) :
    (Tlv.first (.constructed tagSequence (signedFields eimID counter tx rest)) (context 2)).map
      Tlv.value = tx := by
  cases tx with
  | none => exact congrArg (Option.map Tlv.value) hrest
  | some tx => rfl

theorem first_rest {tag : Tag} (h : tag ∉ [context 0, context 1, context 2]) :
    Tlv.first (.constructed tagSequence (signedFields eimID counter tx rest)) tag =
      rest.find? fun t => t.tag = tag := by
  simp only [List.mem_cons, List.not_mem_nil, or_false, not_or] at h
  obtain ⟨h0, h1, h2⟩ := h
  cases tx <;>
    simp [signedFields, Tlv.first, utf8TLV, octetTLV, Ne.symm h0, Ne.symm h1, Ne.symm h2]

theorem wellFormed_signedFields (hrest : Tlv.AllWellFormed rest) :
    Tlv.WellFormed (.constructed tagSequence (signedFields eimID counter tx rest)) := by
  refine ⟨by decide, by decide, Tlv.allWellFormed_iff.mpr fun t ht => ?_⟩
  simp only [signedFields, List.mem_append, List.mem_cons, List.not_mem_nil, or_false,
    List.mem_map, Option.mem_toList] at ht
  obtain ((rfl | rfl) | ⟨tx, -, rfl⟩) | ht := ht
  · exact ⟨by decide, by decide⟩
  · exact ⟨by decide, by decide⟩
  · exact ⟨by decide, by decide⟩
  · exact Tlv.allWellFormed_iff.mp hrest t ht

theorem tags_signedFields :
    (signedFields eimID counter tx rest).map Tlv.tag =
      [context 0, context 1] ++ tx.toList.map (fun _ => context 2) ++ rest.map Tlv.tag := by
  cases tx <;> rfl

theorem getLast?_signedFields (hrest : rest ≠ []) :
    (signedFields eimID counter tx rest).getLast? = rest.getLast? := by
  rw [signedFields, List.getLast?_append_of_ne_nil _ hrest]

end

/-- Signed data as a tree: well formed, with its fields in order, and read as it was written. -/
structure DataWritten {α : Type} (unmarshal : Tlv → Except Error α) (value : α) (t : Tlv) :
    Prop where
  tag_eq : t.tag = tagSequence
  wellFormed : t.WellFormed
  fields : t.children.map Tlv.tag ∈ fieldOrders
  read : unmarshal t = .ok value

theorem EuiccPackageResultDataSigned.written (hB : B.Lawful) {d : EuiccPackageResultDataSigned}
    (hresults : ∀ r ∈ d.results, r.raw.WellFormed) (h : d.marshalBERTLV B = .ok t) :
    DataWritten (EuiccPackageResultDataSigned.unmarshalBERTLV B) d t ∧
      (t.first (context 3)).isSome := by
  obtain ⟨counter, hcounter, hrest⟩ := bind_eq_ok.mp h
  obtain ⟨seq, hseq, ht⟩ := bind_eq_ok.mp hrest
  obtain ⟨c, hc, rfl⟩ := integerTLV_eq_ok hcounter
  obtain ⟨q, hq, rfl⟩ := integerTLV_eq_ok hseq
  obtain ⟨eimID, counterValue, tx, seqNumber, results⟩ := d
  obtain rfl : .constructed tagSequence (signedFields eimID c tx [.primitive (context 3) q,
    .constructed tagSequence (results.map EuiccResultData.raw)]) = t := Except.ok.inj ht
  have hseqNumber := first_rest eimID c tx [.primitive (context 3) q,
    .constructed tagSequence (results.map EuiccResultData.raw)] (by decide : context 3 ∉ _)
  refine ⟨⟨rfl, ?_, ?_, ?_⟩, by rw [hseqNumber]; rfl⟩
  · refine wellFormed_signedFields _ _ _ _ ⟨⟨by decide, by decide⟩, ⟨by decide, by decide, ?_⟩, trivial⟩
    refine Tlv.allWellFormed_iff.mpr fun t ht => ?_
    obtain ⟨r, hr, rfl⟩ := List.mem_map.mp ht
    exact hresults r hr
  · rw [Tlv.children_constructed, tags_signedFields]
    cases tx with
    | none => exact (by decide : [context 0, context 1, context 3, tagSequence] ∈ fieldOrders)
    | some tx =>
        exact (by decide : [context 0, context 1, context 2, context 3, tagSequence] ∈ fieldOrders)
  · rw [EuiccPackageResultDataSigned.unmarshalBERTLV,
      expectTag_eq_ok.mpr (Tlv.tag_constructed tagSequence _), ok_bind, first_eimID, first_counter,
      first_transaction _ _ _ _ rfl, hseqNumber, Tlv.children_constructed,
      getLast?_signedFields _ _ _ _ (by simp)]
    have hraw : (results.map EuiccResultData.raw).map EuiccResultData.mk = results := by
      rw [List.map_map]
      exact List.map_id results
    have hlast : integerValue B (some (.primitive (context 3) q)) = .ok seqNumber :=
      integerValue_marshalInt hB hq
    simp [integerValue_marshalInt hB hc, hlast, hraw]

theorem EuiccPackageErrorDataSigned.written (hB : B.Lawful) {d : EuiccPackageErrorDataSigned}
    (h : d.marshalBERTLV B = .ok t) :
    DataWritten (EuiccPackageErrorDataSigned.unmarshalBERTLV B) d t ∧
      t.first (context 3) = none := by
  obtain ⟨counter, hcounter, hrest⟩ := bind_eq_ok.mp h
  obtain ⟨code, hcode, ht⟩ := bind_eq_ok.mp hrest
  obtain ⟨c, hc, rfl⟩ := integerTLV_eq_ok hcounter
  obtain ⟨q, hq, rfl⟩ := integerTLV_eq_ok hcode
  obtain ⟨eimID, counterValue, tx, errorCode⟩ := d
  obtain rfl : .constructed tagSequence (signedFields eimID c tx [.primitive tagInteger q]) = t :=
    Except.ok.inj ht
  have hother {tag : Tag} (htag : tag ∉ [context 0, context 1, context 2]) :=
    first_rest eimID c tx [.primitive tagInteger q] htag
  refine ⟨⟨rfl, ?_, ?_, ?_⟩, hother (by decide)⟩
  · exact wellFormed_signedFields _ _ _ _ ⟨⟨by decide, by decide⟩, trivial⟩
  · rw [Tlv.children_constructed, tags_signedFields]
    cases tx with
    | none => exact (by decide : [context 0, context 1, tagInteger] ∈ fieldOrders)
    | some tx => exact (by decide : [context 0, context 1, context 2, tagInteger] ∈ fieldOrders)
  · have hinteger : Tlv.first (.constructed tagSequence
        (signedFields eimID c tx [.primitive tagInteger q])) tagInteger =
        some (.primitive tagInteger q) := hother (by decide)
    rw [EuiccPackageErrorDataSigned.unmarshalBERTLV,
      expectTag_eq_ok.mpr (Tlv.tag_constructed tagSequence _), ok_bind, first_eimID, first_counter,
      first_transaction _ _ _ _ rfl, hinteger]
    simp [integerValue_marshalInt hB hc, integerValue_marshalInt hB hq]

/-! ## What the encoder writes -/

theorem shortHeader_of_encodeHeader {tag : Tag} {n : Nat} {h : Bytes}
    (hencode : encodeHeader tag n = some h) (hn : n < 2 ^ 32) : ShortHeader tag h := by
  have hcount : octetCount n ≤ 4 := octetCount_le hn (by decide)
  have hlength := length_encodeLength n
  obtain rfl : tag.octets ++ encodeLength n = h := by
    simpa [encodeHeader, hcount.trans (by decide : 4 ≤ 126)] using hencode
  rw [ShortHeader, List.length_append]
  omega

theorem encode_header {w : Bytes} (h : Ber.encode t = some w) :
    ∃ header v, w = header ++ v ∧ encodeHeader t.tag v.length = some header := by
  cases t with
  | primitive tag value =>
      obtain ⟨header, hheader, rfl⟩ := Option.map_eq_some_iff.mp h
      exact ⟨header, value, rfl, hheader⟩
  | constructed tag ts =>
      obtain ⟨header, b, rfl, hheader, -⟩ := encode_constructed h
      exact ⟨header, b, rfl, hheader⟩

theorem encode_children {w : Bytes} (htag : t.tag = tagSequence) (ht : t.WellFormed)
    (h : Ber.encode t = some w) :
    ∃ header b, w = header ++ b ∧ encodeHeader t.tag b.length = some header ∧
      encodeAll t.children = some b := by
  cases t with
  | primitive tag value =>
      obtain rfl : tag = tagSequence := htag
      exact absurd ht.2 (by decide)
  | constructed tag ts => exact encode_constructed h

theorem shortHeaders_of_encodeAll {ts : List Tlv} {b : Bytes} (hts : Tlv.AllWellFormed ts)
    (h : encodeAll ts = some b) (hlength : b.length < 2 ^ 32) : ShortHeaders ts b := by
  induction ts generalizing b with
  | nil =>
      obtain rfl : [] = b := by simpa [encodeAll] using h
      exact .nil
  | cons t ts ih =>
      obtain ⟨w, rest, rfl, hw, hrest⟩ := encodeAll_cons h
      obtain ⟨header, v, rfl, hheader⟩ := encode_header hw
      simp only [List.length_append] at hlength
      exact .cons (encodeHeader_sound hts.1.tag_valid hheader)
        (shortHeader_of_encodeHeader hheader (by omega)) (ih hts.2 hrest (by omega))

/-- The alternative that carries signed data. -/
def signedArm (data : Tlv) (signature : Bytes) : Tlv :=
  .constructed tagSequence [data, octetTLV tagSignature signature]

theorem tag_signedArm (data : Tlv) (signature : Bytes) :
    (signedArm data signature).tag = tagSequence := rfl

theorem signatureLast_signedArm (data : Tlv) (signature : Bytes) :
    SignatureLast (signedArm data signature) :=
  ⟨(by decide : tagSequence ≠ contextConstructed 2), rfl⟩

/-- The raw parser returns the octets of the signed data. -/
theorem rawSignedData_of_encode {data : Tlv} {signature w : Bytes} (htag : data.tag = tagSequence)
    (hdata : data.WellFormed) (horder : data.children.map Tlv.tag ∈ fieldOrders)
    (h : Ber.encode (.constructed tagEuiccPkg [signedArm data signature]) = some w)
    (hlength : w.length < 2 ^ 32) :
    ∃ d, Ber.encode data = some d ∧ rawSignedDataFromResultDER w = .ok (some d) := by
  obtain ⟨hroot, root, rfl, hrootEncode, hrootBody⟩ := encode_constructed h
  obtain ⟨arm, nothing, rfl, harm, hnothing⟩ := encodeAll_cons hrootBody
  obtain rfl : [] = nothing := Option.some.inj hnothing
  obtain ⟨hselected, d, after, rfl, hselectedEncode, hd, hafter⟩ := encode_first_child harm
  obtain ⟨hfirst, fields, rfl, hfirstEncode, hfields⟩ := encode_children htag hdata hd
  have hsignature : Tlv.AllWellFormed [octetTLV tagSignature signature] :=
    ⟨⟨by decide, by decide⟩, trivial⟩
  rw [List.append_nil] at hrootEncode hlength ⊢
  have hrootHeader := encodeHeader_sound (by decide) hrootEncode
  have hselectedHeader : Header (signedArm data signature).tag _ hselected :=
    encodeHeader_sound (by decide : tagSequence.Valid) hselectedEncode
  have hfirstHeader := encodeHeader_sound hdata.tag_valid hfirstEncode
  have hchildren : (signedArm data signature).children = data :: [octetTLV tagSignature signature] :=
    rfl
  have hencodes := encode_sound data _ hdata hd
  have hrest := encodeAll_sound _ after hsignature hafter
  simp only [List.length_append] at hlength
  -- every header that the raw parser reads is short, so it accepts the octets
  have hreadable : RawReadable (hroot ++ (hselected ++ (hfirst ++ fields ++ after)))
      (signedArm data signature) data (hfirst ++ fields) := by
    refine ⟨hroot, hselected, hfirst ++ fields ++ after, rfl, hrootHeader,
      shortHeader_of_encodeHeader hrootEncode ?_, hselectedHeader,
      shortHeader_of_encodeHeader hselectedEncode ?_, fun _ => ⟨.cons hfirstHeader
        (shortHeader_of_encodeHeader hfirstEncode (by omega))
        (shortHeaders_of_encodeAll hsignature hafter (by omega)), fun _ => ⟨rfl, horder, hfirst,
          fields, rfl, hfirstHeader, shortHeaders_of_encodeAll hdata.children hfields (by omega)⟩⟩⟩
    · simp only [List.length_append]
      omega
    · simp only [List.length_append]
      omega
  obtain ⟨raw, hraw⟩ := isOk_iff.mp ((rawSignedData_isOk_iff hrootHeader hselectedHeader hfirstHeader
    (encodeAll_sound _ fields hdata.children hfields) hencodes hrest hchildren htag (.inl rfl)).mpr
    hreadable)
  have hsigned := rawSignedDataFromResultDER_eq rfl hrootHeader hselectedHeader hencodes hrest
    hchildren (.inl rfl) hraw
  rw [if_pos (signatureLast_signedArm data signature)] at hsigned
  exact ⟨hfirst ++ fields, hd, by rw [hraw, hsigned]⟩

/-! ## Package results -/

theorem transaction_field (tx : Option Bytes) :
    ∃ f : Field (context 2), tx.toList.map (octetTLV (context 2)) = f.children ∧
      f.tlv.map Tlv.value = tx := by
  cases tx with
  | none => exact ⟨⟨none, by simp, by simp⟩, rfl, rfl⟩
  | some tx => exact ⟨.primitive (context 2) (by decide) tx, rfl, rfl⟩

theorem EuiccPackageErrorUnsigned.written (hB : B.Lawful) {e : EuiccPackageErrorUnsigned}
    (h : e.marshalBERTLV B = .ok t) :
    t.tag = tagSequence ∧ t.WellFormed ∧ t.first tagSignature = none ∧
      EuiccPackageErrorUnsigned.unmarshalBERTLV B t = .ok e := by
  obtain ⟨token, htoken, hrest⟩ := bind_eq_ok.mp h
  obtain ⟨code, hcode, ht⟩ := bind_eq_ok.mp hrest
  obtain ⟨tokenField, rfl, hreadToken⟩ := integer_field hB (by decide) htoken
  obtain ⟨codeField, rfl, hreadCode⟩ := integer_field hB (by decide) hcode
  obtain ⟨txField, htx, hreadTx⟩ := transaction_field e.eimTransactionID
  obtain rfl := Except.ok.inj ht
  have hid : [utf8TLV (context 0) e.eimID] =
      (Field.primitive (context 0) (by decide) e.eimID).children := rfl
  rw [htx, hid]
  refine ⟨rfl, ⟨by decide, by decide, Tlv.allWellFormed_iff.mpr fun t ht => ?_⟩, ?_, ?_⟩
  · simp only [List.mem_append] at ht
    obtain ((ht | ht) | ht) | ht := ht
    all_goals exact Field.wellFormed_of_mem ht
  · simp (disch := decide) only [Tlv.first, Tlv.children_constructed, List.find?_append,
      Field.find_ne, Option.none_or]
  · have hsequence : tagSequence ≠ tagInteger ∧ tagSequence ≠ context 15 ∧
        tagSequence ≠ contextConstructed 2 := by decide
    simp (disch := decide) only [unmarshalBERTLV, isEuiccPackageUnsignedErrorCodeTLV, expectTag,
      Tlv.tag_constructed, Tlv.first, Tlv.children_constructed, List.find?_append, Field.find_self,
      Field.find_ne, Option.none_or, Option.or_none, Field.tlv_primitive, hsequence, hreadToken,
      hreadCode, hreadTx, if_true, if_false, or_self, decide_false, Bool.false_eq_true, ok_bind,
      Option.map_some, Option.getD_some, pure_eq]
    rfl

theorem signedArm_wellFormed {data : Tlv} (hdata : data.WellFormed) (signature : Bytes) :
    (signedArm data signature).WellFormed :=
  ⟨by decide, by decide, hdata, ⟨by decide, by decide⟩, trivial⟩

theorem first_signature {data : Tlv} (htag : data.tag = tagSequence) (signature : Bytes) :
    (signedArm data signature).first tagSignature = some (.primitive tagSignature signature) := by
  have hne : tagSequence ≠ tagSignature := by decide
  simp [signedArm, Tlv.first, htag, hne, octetTLV]

theorem EuiccPackageResultSigned.read_signedArm {d : EuiccPackageResultDataSigned}
    (h : DataWritten (EuiccPackageResultDataSigned.unmarshalBERTLV B) d t)
    (hseq : (t.first (context 3)).isSome) (signature : Bytes) :
    EuiccPackageResult.unmarshalSelected B (signedArm t signature) = .ok (.ok ⟨d, signature⟩) := by
  have hsignature := first_signature h.tag_eq signature
  have hread : EuiccPackageResultSigned.unmarshalBERTLV B (signedArm t signature) =
      .ok ⟨d, signature⟩ := by
    rw [EuiccPackageResultSigned.unmarshalBERTLV, expectTag_eq_ok.mpr (tag_signedArm t signature),
      ok_bind, hsignature]
    simp [signedArm, h.read]
  rw [EuiccPackageResult.unmarshalSelected, hsignature, hread]
  simp [signedArm, hseq]

theorem EuiccPackageErrorSigned.read_signedArm {d : EuiccPackageErrorDataSigned}
    (h : DataWritten (EuiccPackageErrorDataSigned.unmarshalBERTLV B) d t)
    (hseq : t.first (context 3) = none) (signature : Bytes) :
    EuiccPackageResult.unmarshalSelected B (signedArm t signature) =
      .ok (.errorSigned ⟨d, signature⟩) := by
  have hsignature := first_signature h.tag_eq signature
  have hread : EuiccPackageErrorSigned.unmarshalBERTLV B (signedArm t signature) =
      .ok ⟨d, signature⟩ := by
    rw [EuiccPackageErrorSigned.unmarshalBERTLV, expectTag_eq_ok.mpr (tag_signedArm t signature),
      ok_bind, hsignature]
    simp [signedArm, h.read]
  rw [EuiccPackageResult.unmarshalSelected, hsignature, hread]
  simp [signedArm, hseq]

namespace EuiccPackageResult

/-- The result TLVs that a package result carries. -/
def results : EuiccPackageResult → List EuiccResultData
  | .ok signed => signed.data.results
  | .errorSigned _ => []
  | .errorUnsigned _ => []

/-- The signed data, as it is marshaled on its own. -/
def signedData (B : Bertlv) : EuiccPackageResult → Option (Except Error Tlv)
  | .ok signed => some (signed.data.marshalBERTLV B)
  | .errorSigned error => some (error.data.marshalBERTLV B)
  | .errorUnsigned _ => none

/-- The tree of a package result: the selected alternative is read as it was written, and in the
signed kinds it is the signed data under its signature. -/
structure Written (B : Bertlv) (r : EuiccPackageResult) (arm : Tlv) : Prop where
  tag_eq : arm.tag = tagSequence
  wellFormed : arm.WellFormed
  read : unmarshalSelected B arm = .ok r
  signed : ∀ marshaled, r.signedData B = some marshaled → ∃ data signature,
    marshaled = .ok data ∧ arm = signedArm data signature ∧ data.tag = tagSequence ∧
      data.WellFormed ∧ data.children.map Tlv.tag ∈ fieldOrders

theorem exists_written (hB : B.Lawful) {r : EuiccPackageResult}
    (hresults : ∀ result ∈ r.results, result.raw.WellFormed) (h : r.marshalBERTLV B = .ok t) :
    ∃ arm, t = .constructed tagEuiccPkg [arm] ∧ Written B r arm := by
  cases r with
  | ok signed =>
      obtain ⟨arm, harm, ht⟩ := bind_eq_ok.mp h
      refine ⟨arm, (Except.ok.inj ht).symm, ?_⟩
      obtain ⟨data, hdata, harm⟩ := bind_eq_ok.mp harm
      obtain rfl : signedArm data signed.euiccSignEPR = arm := Except.ok.inj harm
      obtain ⟨hwritten, hseq⟩ := EuiccPackageResultDataSigned.written hB hresults hdata
      refine ⟨rfl, signedArm_wellFormed hwritten.wellFormed _,
        EuiccPackageResultSigned.read_signedArm hwritten hseq _, ?_⟩
      rintro - ⟨⟩
      exact ⟨data, _, hdata, rfl, hwritten.tag_eq, hwritten.wellFormed, hwritten.fields⟩
  | errorSigned error =>
      obtain ⟨arm, harm, ht⟩ := bind_eq_ok.mp h
      refine ⟨arm, (Except.ok.inj ht).symm, ?_⟩
      obtain ⟨data, hdata, harm⟩ := bind_eq_ok.mp harm
      obtain rfl : signedArm data error.euiccSignEPE = arm := Except.ok.inj harm
      obtain ⟨hwritten, hseq⟩ := EuiccPackageErrorDataSigned.written hB hdata
      refine ⟨rfl, signedArm_wellFormed hwritten.wellFormed _,
        EuiccPackageErrorSigned.read_signedArm hwritten hseq _, ?_⟩
      rintro - ⟨⟩
      exact ⟨data, _, hdata, rfl, hwritten.tag_eq, hwritten.wellFormed, hwritten.fields⟩
  | errorUnsigned error =>
      obtain ⟨arm, harm, ht⟩ := bind_eq_ok.mp h
      refine ⟨arm, (Except.ok.inj ht).symm, ?_⟩
      obtain ⟨htag, hwf, hsignature, hread⟩ := EuiccPackageErrorUnsigned.written hB harm
      refine ⟨htag, hwf, ?_, fun marshaled hmarshaled => by cases hmarshaled⟩
      rw [unmarshalSelected, hsignature, hread]
      rfl

theorem unmarshalBERTLV_written {r : EuiccPackageResult} {arm : Tlv} (h : Written B r arm) :
    unmarshalBERTLV B (.constructed tagEuiccPkg [arm]) = .ok r := by
  have hunwrap : unwrapEuiccPackageResultChoice arm = arm := by
    rw [unwrapEuiccPackageResultChoice, h.tag_eq, if_neg (by decide)]
  rw [unmarshalBERTLV, expectTag_eq_ok.mpr (Tlv.tag_constructed tagEuiccPkg _), ok_bind,
    Tlv.children_constructed]
  simp only [hunwrap, h.read]

end EuiccPackageResult

end Asn1

/-- Lengths are written in the minimal form, and what is written of a tree is written of its
children. -/
structure Bertlv.Minimal (B : Bertlv) : Prop where
  marshalBinary_minimal : ∀ t w, B.marshalBinary t = some w → Ber.encode t = some w
  marshals_child : ∀ tag ts t w, B.marshalBinary (.constructed tag ts) = some w → t ∈ ts →
    ∃ v, B.marshalBinary t = some v

theorem Bertlv.Minimal.child {B : Bertlv} (hB : B.Minimal) {tag : Tag} {ts : List Tlv} {w : Bytes}
    (hw : B.marshalBinary (.constructed tag ts) = some w) (ht : t ∈ ts) :
    ∃ v, B.marshalBinary t = some v ∧ v.length ≤ w.length := by
  obtain ⟨v, hv⟩ := hB.marshals_child _ _ _ _ hw ht
  obtain ⟨header, b, rfl, -, hb⟩ := encode_constructed (hB.marshalBinary_minimal _ _ hw)
  obtain ⟨v', hv', hle⟩ := exists_encode_of_mem hb ht
  obtain rfl := Option.some.inj (hv'.symm.trans (hB.marshalBinary_minimal _ _ hv))
  exact ⟨v', hv, by rw [List.length_append]; exact Nat.le_add_left_of_le hle⟩

theorem Bertlv.reference_minimal : Bertlv.reference.Minimal where
  marshalBinary_minimal t w hw := hw
  marshals_child tag ts t w hw ht := by
    obtain ⟨header, body, -, -, hbody⟩ := encode_constructed hw
    obtain ⟨v, hv, -⟩ := exists_encode_of_mem hbody ht
    exact ⟨v, hv⟩

namespace Asn1

/-- **Package results.**  What is written of a package result of any kind is decoded as that result,
and in the signed kinds the raw parser finds in it what is written of the signed data. -/
theorem package_result_round_trip (hB : B.Lawful) (hminimal : B.Minimal) {r : EuiccPackageResult}
    {w : Bytes} (hresults : ∀ result ∈ r.results, result.raw.WellFormed)
    (hencode : encode B (r.marshalBERTLV B) = .ok w) (hlength : w.length < 2 ^ 32) :
    decode B (EuiccPackageResult.unmarshalBERTLV B) w = .ok r ∧
      ∀ marshaled, r.signedData B = some marshaled → ∃ d, encode B marshaled = .ok d ∧
        rawSignedDataFromResultDER w = .ok (some d) := by
  obtain ⟨t, ht, hw⟩ := encode_eq_ok.mp hencode
  obtain ⟨arm, rfl, hwritten⟩ := EuiccPackageResult.exists_written hB hresults ht
  have hwf : Tlv.WellFormed (.constructed tagEuiccPkg [arm]) :=
    ⟨by decide, by decide, hwritten.wellFormed, trivial⟩
  constructor
  · rw [decode, parseTLV_marshalBinary hB hwf hw, ok_bind]
    exact EuiccPackageResult.unmarshalBERTLV_written hwritten
  · intro marshaled hmarshaled
    obtain ⟨data, signature, rfl, rfl, htag, hdata, horder⟩ := hwritten.signed marshaled hmarshaled
    obtain ⟨d, hd, hraw⟩ := rawSignedData_of_encode htag hdata horder
      (hminimal.marshalBinary_minimal _ w hw) hlength
    obtain ⟨v, hv⟩ := hminimal.marshals_child _ _ _ w hw (List.mem_singleton.mpr rfl)
    obtain ⟨d', hd'⟩ := hminimal.marshals_child _ _ data v hv (List.mem_cons_self ..)
    -- the octets are the same on their own and inside the result
    obtain rfl : d' = d := Option.some.inj ((hminimal.marshalBinary_minimal _ d' hd').symm.trans hd)
    exact ⟨d', encode_eq_ok.mpr ⟨data, rfl, hd'⟩, hraw⟩

/-- An enabled profile, reported with a transaction identifier. -/
def sampleEnableResult : EuiccPackageResult :=
  .ok ⟨⟨text "eim", 7, some [0x01, 0x02], 300, [⟨.primitive (context 3) [0x00]⟩]⟩, [0xaa, 0xbb]⟩

def sampleEnableOctets : Bytes :=
  [0xbf, 0x51, 0x1e, 0x30, 0x1c, 0x30, 0x15, 0x80, 0x03, 0x65, 0x69, 0x6d, 0x81, 0x01, 0x07, 0x82,
    0x02, 0x01, 0x02, 0x83, 0x02, 0x01, 0x2c, 0x30, 0x03, 0x83, 0x01, 0x00, 0x5f, 0x37, 0x02, 0xaa,
    0xbb]

theorem package_result_round_trip_enable :
    encode .reference (sampleEnableResult.marshalBERTLV .reference) = .ok sampleEnableOctets ∧
      decode .reference (EuiccPackageResult.unmarshalBERTLV .reference) sampleEnableOctets =
        .ok sampleEnableResult ∧
      ∀ marshaled, sampleEnableResult.signedData .reference = some marshaled →
        ∃ d, encode .reference marshaled = .ok d ∧
          rawSignedDataFromResultDER sampleEnableOctets = .ok (some d) := by
  have hencode : encode .reference (sampleEnableResult.marshalBERTLV .reference) =
      .ok sampleEnableOctets := by decide +kernel
  refine ⟨hencode, package_result_round_trip Bertlv.reference_lawful Bertlv.reference_minimal ?_
    hencode (by decide)⟩
  intro result hresult
  obtain rfl := List.mem_singleton.mp hresult
  exact ⟨by decide, by decide⟩

end Asn1

end OpenIotRsp
