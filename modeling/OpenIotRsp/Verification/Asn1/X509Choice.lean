import OpenIotRsp.Verification.Package.RoundTrip

/-!
# Shapes of X.509 objects

A CHOICE arm carries an X.509 object nested as one SEQUENCE, or its fields as
siblings.  The readers take both shapes to the nested one.
-/

namespace OpenIotRsp.Asn1

open Octets Ber

/-! ## CHOICE arms -/

theorem x509ChoiceArmObject_nested (tag : Tag) {object : Tlv} (h : object.tag = tagSequence) :
    x509ChoiceArmObject (.constructed tag [object]) = .ok object :=
  if_pos h

theorem x509ChoiceArmObject_siblings (tag : Tag) {fields : List Tlv} (h : 2 ≤ fields.length) :
    x509ChoiceArmObject (.constructed tag fields) = .ok (.constructed tagSequence fields) := by
  cases fields with
  | nil => simp at h
  | cons first rest =>
      cases rest with
      | nil => simp at h
      | cons second rest => rfl

theorem tag_of_x509ChoiceArmObject {arm object : Tlv} (h : x509ChoiceArmObject arm = .ok object) :
    object.tag = tagSequence := by
  unfold x509ChoiceArmObject at h
  split at h
  next => cases h
  next child _ =>
      split at h
      next htag =>
          cases h
          exact htag
      next => cases h
  next =>
      cases h
      rfl

/-- A choice is read from a lone arm, whose tag gives the kind. -/
theorem unmarshalX509Choice_eq_ok {tlv : Tlv} {choice : X509Choice} :
    unmarshalX509Choice tlv = .ok choice ↔ ∃ arm, tlv.children = [arm] ∧
      arm.tag = x509ChoiceArmTag choice.kind ∧ x509ChoiceArmObject arm = .ok choice.data := by
  have harms : contextConstructed 1 ≠ contextConstructed 0 := by decide
  obtain ⟨kind, data⟩ := choice
  constructor
  · intro h
    unfold unmarshalX509Choice at h
    split at h
    next arm hchildren =>
        refine ⟨arm, hchildren, ?_⟩
        split at h
        next htag =>
            obtain ⟨object, hobject, h⟩ := Outcome.bind_eq_ok.mp h
            cases h
            exact ⟨htag, hobject⟩
        next =>
            split at h
            next htag =>
                obtain ⟨object, hobject, h⟩ := Outcome.bind_eq_ok.mp h
                cases h
                exact ⟨htag, hobject⟩
            next => cases h
    next => cases h
  · rintro ⟨arm, hchildren, htag, hobject⟩
    cases kind with
    | subjectPublicKeyInfo =>
        simp [unmarshalX509Choice, hchildren, htag, x509ChoiceArmTag, hobject]
    | certificate =>
        simp [unmarshalX509Choice, hchildren, htag, x509ChoiceArmTag, hobject, harms]

/-- What has been read is read again from its own encoding. -/
theorem unmarshalX509Choice_again {tlv : Tlv} {choice : X509Choice}
    (h : unmarshalX509Choice tlv = .ok choice) (tag : Tag) :
    unmarshalX509Choice (marshalX509Choice tag choice) = .ok choice := by
  obtain ⟨arm, -, -, hobject⟩ := unmarshalX509Choice_eq_ok.mp h
  rw [unmarshalX509Choice_marshal, if_pos (tag_of_x509ChoiceArmObject hobject)]

/-! ## Tagged certificates -/

theorem certificateTLV_nested (tag : Tag) {certificate : Tlv}
    (h : certificate.tag = tagSequence) :
    certificateTLV (.constructed tag [certificate]) = some certificate :=
  if_pos h

theorem certificateTLV_siblings (tag : Tag) {tbs algorithm signature : Tlv}
    (htbs : tbs.tag = tagSequence) (halgorithm : algorithm.tag = tagSequence)
    (hsignature : signature.tag = tagBitString) :
    certificateTLV (.constructed tag [tbs, algorithm, signature]) =
      some (.constructed tagSequence [tbs, algorithm, signature]) :=
  if_pos ⟨htbs, halgorithm, hsignature⟩

/-! ## Both shapes -/

/-- The nested and the implicit shape of an X.509 object are read as the same SEQUENCE, which is
read again from its encoding; the three fields of a Certificate give one DER in both shapes. -/
theorem x509_shapes (B : Bertlv) (fields : List Tlv) (hfields : 2 ≤ fields.length) :
    let object := Tlv.constructed tagSequence fields
    (∀ wrapper kind,
      let arm := fun children =>
        Tlv.constructed wrapper [.constructed (x509ChoiceArmTag kind) children]
      unmarshalX509Choice (arm [object]) = .ok ⟨kind, object⟩ ∧
        unmarshalX509Choice (arm fields) = .ok ⟨kind, object⟩ ∧
        unmarshalX509Choice (marshalX509Choice wrapper ⟨kind, object⟩) = .ok ⟨kind, object⟩) ∧
      ∀ tbs algorithm signature, fields = [tbs, algorithm, signature] →
        tbs.tag = tagSequence → algorithm.tag = tagSequence → signature.tag = tagBitString →
        ∀ wrapper,
          certificateDERFromTagged B (some (.constructed wrapper [object])) =
              B.marshalBinary object ∧
            certificateDERFromTagged B (some (.constructed wrapper fields)) =
              B.marshalBinary object := by
  intro object
  refine ⟨fun wrapper kind => ?_, ?_⟩
  · have hnested : unmarshalX509Choice
        (.constructed wrapper [.constructed (x509ChoiceArmTag kind) [object]]) =
          .ok ⟨kind, object⟩ :=
      unmarshalX509Choice_eq_ok.mpr ⟨_, rfl, rfl, x509ChoiceArmObject_nested _ rfl⟩
    refine ⟨hnested, ?_, unmarshalX509Choice_again hnested wrapper⟩
    exact unmarshalX509Choice_eq_ok.mpr
      ⟨_, rfl, rfl, x509ChoiceArmObject_siblings _ hfields⟩
  · rintro tbs algorithm signature rfl htbs halgorithm hsignature wrapper
    refine ⟨?_, ?_⟩
    · have hobject : object.tag = tagSequence := rfl
      exact congrArg (·.bind B.marshalBinary) (certificateTLV_nested wrapper hobject)
    · exact congrArg (·.bind B.marshalBinary)
        (certificateTLV_siblings wrapper htbs halgorithm hsignature)

theorem x509_shapes_certificate :
    let tbs := Tlv.constructed tagSequence [.primitive tagInteger [1]]
    let algorithm := Tlv.constructed tagSequence []
    let signature := Tlv.primitive tagBitString [0]
    let certificate := Tlv.constructed tagSequence [tbs, algorithm, signature]
    unmarshalX509Choice (.constructed (contextConstructed 5)
        [.constructed (contextConstructed 1) [tbs, algorithm, signature]]) =
        .ok ⟨.certificate, certificate⟩ ∧
      certificateDERFromTagged .reference (some (.constructed (contextConstructed 6)
          [tbs, algorithm, signature])) =
        Bertlv.reference.marshalBinary certificate := by
  intro tbs algorithm signature certificate
  have h := x509_shapes .reference [tbs, algorithm, signature] (by decide)
  exact ⟨(h.1 (contextConstructed 5) .certificate).2.1,
    (h.2 _ _ _ rfl rfl rfl rfl (contextConstructed 6)).2⟩

end OpenIotRsp.Asn1
