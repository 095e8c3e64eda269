import OpenIotRsp.Library.Outcome
import OpenIotRsp.Model.Asn1.EuiccPackage

/-!
# Errors of the decoders

The handlers test errors for two sentinels: a missing row and a missing result.
No decoder fails with one of them, so a payload that does not decode is never
taken for an unknown device.
-/

namespace OpenIotRsp

open Octets Ber Outcome

variable {α : Type} {P : Error → Prop}

/-- The error is none of the sentinels that the handlers answer. -/
def Error.IsPlain (e : Error) : Prop := e ≠ .notFound ∧ ∀ operation, e ≠ .resultNotFound operation

theorem isPlain_message (text : String) : (Error.message text).IsPlain := ⟨nofun, fun _ => nofun⟩

namespace Asn1

theorem fails_message (text : String) :
    FailsWith Error.IsPlain (.error (.message text) : Except Error α) :=
  failsWith_error (isPlain_message text)

theorem fails_unknownTag (choice : String) (got : Tag) :
    FailsWith Error.IsPlain (.error (.unknownTag choice got) : Except Error α) :=
  failsWith_error ⟨nofun, fun _ => nofun⟩

/-! ## Codec helpers -/

theorem failsWith_expectTag (h : ∀ got want, P (.unexpectedTag got want)) (tlv : Tlv) (tag : Tag) :
    FailsWith P (expectTag tlv tag) :=
  FailsWith.ite (failsWith_ok _) (failsWith_error (h _ _))

theorem fails_expectTag (tlv : Tlv) (tag : Tag) : FailsWith Error.IsPlain (expectTag tlv tag) :=
  failsWith_expectTag (fun _ _ => ⟨nofun, fun _ => nofun⟩) tlv tag

theorem fails_parseTLV (B : Bertlv) (data : Bytes) : FailsWith Error.IsPlain (parseTLV B data) := by
  refine FailsWith.ite (fails_message _) ?_
  split
  next => exact fails_message _
  next => exact fails_message _
  next => exact FailsWith.ite (fails_message _) (failsWith_ok _)

theorem fails_decode (B : Bertlv) {unmarshal : Tlv → Except Error α}
    (h : ∀ tlv, FailsWith Error.IsPlain (unmarshal tlv)) (data : Bytes) :
    FailsWith Error.IsPlain (decode B unmarshal data) :=
  (fails_parseTLV B data).bind h

theorem failsWith_integerValue (B : Bertlv) (hmissing : P (.message "asn1: missing INTEGER"))
    (hdecode : P (.message "asn1: decode INTEGER")) (child : Option Tlv) :
    FailsWith P (integerValue B child) := by
  cases child with
  | none => exact failsWith_error hmissing
  | some tlv =>
      rw [integerValue]
      split
      next => exact failsWith_ok _
      next => exact failsWith_error hdecode

theorem fails_integerValue (B : Bertlv) (child : Option Tlv) :
    FailsWith Error.IsPlain (integerValue B child) :=
  failsWith_integerValue B (isPlain_message _) (isPlain_message _) child

theorem fails_utf8Value (child : Option Tlv) : FailsWith Error.IsPlain (utf8Value child) := by
  cases child with
  | none => exact fails_message _
  | some tlv => exact failsWith_ok _

theorem fails_octetValue (child : Option Tlv) : FailsWith Error.IsPlain (octetValue child) := by
  cases child with
  | none => exact fails_message _
  | some tlv => exact failsWith_ok _

theorem fails_bitStringValue (child : Option Tlv) :
    FailsWith Error.IsPlain (bitStringValue child) := by
  cases child with
  | none => exact fails_message _
  | some tlv =>
      rw [bitStringValue, unmarshalBitString.eq_def]
      split
      next => exact fails_message _
      next =>
          exact FailsWith.ite (fails_message _) (FailsWith.ite (fails_message _) (failsWith_ok _))

theorem fails_oidValue (child : Option Tlv) : FailsWith Error.IsPlain (oidValue child) := by
  cases child with
  | none => exact fails_message _
  | some tlv =>
      rw [oidValue]
      split
      next => exact fails_message _
      next => exact failsWith_ok _
      next => exact fails_message _

theorem fails_optionalValue {value : Tlv → Except Error α} (h : ∀ tlv, FailsWith P (value tlv))
    (child : Option Tlv) : FailsWith P (optionalValue child value) := by
  cases child with
  | none => exact failsWith_ok _
  | some tlv => exact (h tlv).bind fun _ => failsWith_ok _

theorem fails_integerTLV (B : Bertlv) (tag : Tag) (value : Int) :
    FailsWith Error.IsPlain (integerTLV B tag value) := by
  rw [integerTLV]
  split
  next => exact failsWith_ok _
  next => exact fails_message _

theorem fails_optionalChild {marshal : α → Except Error Tlv}
    (h : ∀ value, FailsWith Error.IsPlain (marshal value)) (field : Option α) :
    FailsWith Error.IsPlain (optionalChild field marshal) := by
  cases field with
  | none => exact failsWith_ok _
  | some value => exact (h value).bind fun _ => failsWith_ok _

/-! ## Packages -/

theorem fails_unmarshalX509Choice (tlv : Tlv) :
    FailsWith Error.IsPlain (unmarshalX509Choice tlv) := by
  have hobject : ∀ arm, FailsWith Error.IsPlain (x509ChoiceArmObject arm) := by
    intro arm
    rw [x509ChoiceArmObject]
    split
    next => exact fails_message _
    next => exact FailsWith.ite (failsWith_ok _) (fails_message _)
    next => exact failsWith_ok _
  rw [unmarshalX509Choice]
  split
  next arm _ =>
      refine FailsWith.ite ((hobject arm).bind fun _ => failsWith_ok _) ?_
      exact FailsWith.ite ((hobject arm).bind fun _ => failsWith_ok _) (fails_message _)
  next => exact fails_message _

variable (B : Bertlv)

theorem fails_eimConfigurationData (tlv : Tlv) :
    FailsWith Error.IsPlain (EimConfigurationData.unmarshalBERTLV B tlv) := by
  have htext := fails_optionalValue fun c => fails_utf8Value (some c)
  have hinteger := fails_optionalValue fun c => fails_integerValue B (some c)
  have hchoice := fails_optionalValue fails_unmarshalX509Choice
  have hbits := fails_optionalValue fun c => fails_bitStringValue (some c)
  have hoctets := fails_optionalValue fun c => fails_octetValue (some c)
  refine (fails_expectTag tlv _).bind fun _ => (fails_utf8Value _).bind fun _ => ?_
  refine (htext _).bind fun _ => (hinteger _).bind fun _ => (hinteger _).bind fun _ => ?_
  refine (hinteger _).bind fun _ => (hchoice _).bind fun _ => (hchoice _).bind fun _ => ?_
  exact (hbits _).bind fun _ => (hoctets _).bind fun _ => failsWith_ok _

theorem fails_encodeConfig (config : EimConfigurationData) :
    FailsWith Error.IsPlain (encode B (config.marshalBERTLV B)) := by
  have hinteger (tag : Tag) := fails_optionalChild (fails_integerTLV B tag)
  have hplain {α : Type} (write : α → Tlv) :=
    fails_optionalChild fun value => failsWith_ok (P := Error.IsPlain) (write value)
  have hchildren : FailsWith Error.IsPlain (config.marshalChildren B) := by
    refine (hplain _ _).bind fun _ => (hinteger _ _).bind fun _ => (hinteger _ _).bind fun _ => ?_
    refine (hinteger _ _).bind fun _ => (hplain _ _).bind fun _ => (hplain _ _).bind fun _ => ?_
    refine (hplain _ _).bind fun _ => (hplain _ _).bind fun _ => (hplain _ _).bind fun _ => ?_
    exact failsWith_ok _
  refine (hchildren.bind fun _ => failsWith_ok _).bind fun tlv => ?_
  split
  next => exact failsWith_ok _
  next => exact fails_message _

theorem fails_eco (tlv : Tlv) : FailsWith Error.IsPlain (Eco.unmarshalBERTLV B tlv) := by
  have hconfig := fails_eimConfigurationData B (.constructed tagSequence tlv.children)
  refine FailsWith.ite (hconfig.bind fun _ => failsWith_ok _) ?_
  refine FailsWith.ite ((fails_utf8Value _).bind fun _ => failsWith_ok _) ?_
  refine FailsWith.ite (hconfig.bind fun _ => failsWith_ok _) ?_
  exact FailsWith.ite (failsWith_ok _) (fails_unknownTag _ _)

theorem fails_setDefaultDPAddressRequest (tlv : Tlv) :
    FailsWith Error.IsPlain (SetDefaultDPAddressRequest.unmarshalBERTLV tlv) := by
  refine (fails_expectTag tlv _).bind fun _ => ?_
  split
  next => exact (fails_utf8Value _).bind fun _ => failsWith_ok _
  next => exact fails_message _

theorem fails_psmo (tlv : Tlv) : FailsWith Error.IsPlain (Psmo.unmarshalBERTLV tlv) := by
  have hiccid : ∀ psmo : Bytes → Psmo, FailsWith Error.IsPlain (do
      return psmo (← octetValue (tlv.first tagEID))) :=
    fun _ => (fails_octetValue _).bind fun _ => failsWith_ok _
  have hconfigure : FailsWith Error.IsPlain (unmarshalConfigureImmediateEnable tlv) := by
    refine (fails_optionalValue (fun c => fails_oidValue (some c)) _).bind fun _ => ?_
    exact (fails_optionalValue (fun c => fails_utf8Value (some c)) _).bind fun _ => failsWith_ok _
  refine FailsWith.ite (hiccid _) (FailsWith.ite (hiccid _) (FailsWith.ite (hiccid _) ?_))
  refine FailsWith.ite (failsWith_ok _) (FailsWith.ite (failsWith_ok _) ?_)
  refine FailsWith.ite (hconfigure.bind fun _ => failsWith_ok _) ?_
  refine FailsWith.ite (hiccid _) (FailsWith.ite (failsWith_ok _) ?_)
  refine FailsWith.ite ?_ (fails_unknownTag _ _)
  exact (fails_setDefaultDPAddressRequest tlv).bind fun _ => failsWith_ok _

theorem fails_euiccPackage (child : Option Tlv) :
    FailsWith Error.IsPlain (EuiccPackage.unmarshalBERTLV B child) := by
  cases child with
  | none => exact fails_message _
  | some tlv =>
      refine FailsWith.ite ?_ (FailsWith.ite ?_ (fails_unknownTag _ _))
      · exact (FailsWith.mapM fails_psmo _).bind fun _ => failsWith_ok _
      · exact (FailsWith.mapM (fails_eco B) _).bind fun _ => failsWith_ok _

theorem fails_euiccPackageSigned (tlv : Tlv) :
    FailsWith Error.IsPlain (EuiccPackageSigned.unmarshalBERTLV B tlv) := by
  refine (fails_expectTag tlv _).bind fun _ => (fails_utf8Value _).bind fun _ => ?_
  refine (fails_octetValue _).bind fun _ => (fails_integerValue B _).bind fun _ => ?_
  exact (fails_euiccPackage B _).bind fun _ => failsWith_ok _

theorem fails_euiccPackageRequest (tlv : Tlv) :
    FailsWith Error.IsPlain (EuiccPackageRequest.unmarshalBERTLV B tlv) := by
  refine (fails_expectTag tlv _).bind fun _ => ?_
  split
  next signed _ _ _ =>
      refine (fails_euiccPackageSigned B signed).bind fun _ => ?_
      exact (fails_octetValue _).bind fun _ => failsWith_ok _
  next => exact fails_message _

end Asn1

end OpenIotRsp
