import OpenIotRsp.Verification.Api.Signing

/-!
# Queued packages reach the IPA unchanged

Delivery decodes a queued package and encodes it again.  Which requests of the
API queue a package that survives this: all but those with an object identifier
that is written and not read, and those with an X.509 object that is no SEQUENCE.
-/

namespace OpenIotRsp.Api

open Octets Ber Stateful Asn1 Storage Euiccpkg Text

variable {B : Bertlv} {S : Service}

/-! ## Payloads -/

/-- The payload decodes, and what is decoded encodes to the payload. -/
def Redelivers (B : Bertlv) (payload : Bytes) : Prop :=
  ∃ request, Asn1.decode B (EuiccPackageRequest.unmarshalBERTLV B) payload = .ok request ∧
    Asn1.encode B (request.marshalBERTLV B) = .ok payload

theorem redelivers_iff (hB : B.Lawful) {r : EuiccPackageRequest}
    (hplain : r.euiccPackageSigned.euiccPackage.Plain) {payload : Bytes}
    (h : Asn1.encode B (r.marshalBERTLV B) = .ok payload) :
    Redelivers B payload ↔ r.euiccPackageSigned.euiccPackage.Deliverable := by
  obtain ⟨t, ht, hw⟩ := encode_eq_ok.mp h
  have hwritten := EuiccPackageRequest.written hB hplain ht
  have hdecode : Asn1.decode B (EuiccPackageRequest.unmarshalBERTLV B) payload =
      EuiccPackageRequest.unmarshalBERTLV B t := by
    rw [Asn1.decode, parseTLV_marshalBinary hB hwritten.wellFormed hw]
    rfl
  constructor
  · rintro ⟨request, hread, -⟩
    by_contra hnot
    exact hwritten.unread hnot request (hdecode.symm.trans hread)
  · intro hdeliverable
    obtain ⟨read, hread, hagain⟩ := hwritten.rereads hdeliverable
    exact ⟨read, hdecode.trans hread, encode_eq_ok.mpr ⟨t, hagain, hw⟩⟩

/-! ## X.509 objects -/

/-- The octets of an X.509 object start as those of a SEQUENCE. -/
def SequenceDER (der : Bytes) : Prop := der.head? = some 0x30

theorem tag_eq_tagSequence_iff {t : Tlv} {der : Bytes} (ht : Encodes t der) :
    t.tag = tagSequence ↔ SequenceDER der := by
  obtain ⟨h, body, rfl, hheader⟩ := ht.exists_header
  obtain ⟨hvalid, rest, rfl⟩ := hheader.tag_valid
  have hsequence : tagSequence.octets = [0x30] := by decide
  rw [Tag.Valid] at hvalid
  constructor
  · intro htag
    simp [SequenceDER, htag, hsequence]
  · intro hhead
    cases hoctets : t.tag.octets with
    | nil => simp [hoctets, readIdentifier] at hvalid
    | cons b bs =>
        obtain rfl : b = 0x30 := by simpa [SequenceDER, hoctets] using hhead
        have hone : readIdentifier (0x30 :: bs) = some ([0x30], bs) := by
          rw [readIdentifier, if_neg (by decide)]
        rw [hoctets, hone] at hvalid
        rw [tag_eq_iff_octets, hoctets, hsequence, (Prod.mk.inj (Option.some.inj hvalid)).2]

theorem parseSingleTLV_encodes (hB : B.Lawful) {data : Bytes} {t : Tlv}
    (h : parseSingleTLV B data = .ok t) : Encodes t data := by
  rw [parseSingleTLV] at h
  split at h
  next => cases h
  next => cases h
  next t' n hread =>
      rw [Outcome.guard_eq_ok, not_not] at h
      obtain ⟨rfl, rfl⟩ := (⟨h.1, Except.ok.inj h.2⟩ : n = data.length ∧ t' = t)
      exact encodes_of_readFrom hB hread

namespace EimConfigRequest

/-- The X.509 octets that the request leads to, its own or the service's, are a SEQUENCE's. -/
def CarriesSequence (S : Service) (r : EimConfigRequest) (pathEIMID : Bytes) : Prop :=
  ∀ eimID kind der, r.target S pathEIMID = .ok eimID → r.x509 S eimID = .ok (kind, der) →
    SequenceDER der

/-- The optional fields are none of those that delivery depends on. -/
theorem withOptions_eq_ok {r : EimConfigRequest} {base config : EimConfigurationData}
    (h : r.withOptions base = .ok config) :
    ∃ idType token cipkid, config = { base with
      eimIDType := idType, associationToken := token, euiccCIPKID := cipkid } := by
  unfold withOptions at h
  simp only [Outcome.throw_eq, Outcome.error_bind, Outcome.pure_eq, Outcome.guard_eq_ok] at h
  obtain ⟨-, h⟩ := h
  split at h
  next => exact ⟨_, _, _, (Except.ok.inj h).symm⟩
  next =>
      obtain ⟨cipkid, -, h⟩ := Outcome.bind_eq_ok.mp h
      exact ⟨_, _, _, (Except.ok.inj h).symm⟩

theorem newEIMConfigurationData_eq_ok {eimID fqdn der : Bytes} {counter : Int}
    {kind : X509ChoiceKind} {base : EimConfigurationData}
    (h : newEIMConfigurationData B eimID fqdn counter kind der = .ok base) :
    ∃ t, parseSingleTLV B der = .ok t ∧ base.eimPublicKeyData = some ⟨kind, t⟩ ∧
      base.trustedPublicKeyDataTLS = none ∧ base.eimSupportedProtocol = none ∧
      base.esipaProprietaryProtocolInformation = none := by
  unfold newEIMConfigurationData at h
  simp only [Outcome.throw_eq, Outcome.error_bind, Outcome.guard_eq_ok] at h
  obtain ⟨t, ht, h⟩ := Outcome.bind_eq_ok.mp h.2.2
  obtain rfl := Except.ok.inj h
  exact ⟨t, ht, rfl, rfl, rfl, rfl⟩

/-- An accepted configuration is one of the constructor's, around the X.509 octets. -/
theorem config_eq_ok (hB : B.Lawful) {r : EimConfigRequest} {pathEIMID : Bytes}
    {config : EimConfigurationData} (h : r.config B S pathEIMID = .ok config) :
    config.Plain ∧ (config.CarriesSequence ↔ r.CarriesSequence S pathEIMID) := by
  unfold EimConfigRequest.config at h
  obtain ⟨eimID, htarget, h⟩ := Outcome.bind_eq_ok.mp h
  simp only [Outcome.throw_eq, Outcome.error_bind, Outcome.guard_eq_ok] at h
  obtain ⟨⟨kind, der⟩, hx509, h⟩ := Outcome.bind_eq_ok.mp h.2.2
  obtain ⟨base, hbase, h⟩ := Outcome.bind_eq_ok.mp h
  obtain ⟨idType, token, cipkid, rfl⟩ := withOptions_eq_ok h
  obtain ⟨t, hparse, hkey, htrusted, hprotocol, hproprietary⟩ := newEIMConfigurationData_eq_ok hbase
  have hencodes := parseSingleTLV_encodes hB hparse
  refine ⟨⟨htrusted, hprotocol, hproprietary, ?_⟩, ?_⟩
  · intro choice hchoice
    obtain rfl := Option.some.inj (hkey.symm.trans hchoice)
    exact hencodes.wellFormed
  · constructor
    · intro hseq eimID' kind' der' htarget' hx509'
      obtain rfl := Except.ok.inj (htarget.symm.trans htarget')
      obtain ⟨-, rfl⟩ := Prod.mk.inj (Except.ok.inj (hx509.symm.trans hx509'))
      exact (tag_eq_tagSequence_iff hencodes).mp (hseq ⟨kind, t⟩ hkey)
    · intro hseq choice hchoice
      obtain rfl := Option.some.inj (hkey.symm.trans hchoice)
      exact (tag_eq_tagSequence_iff hencodes).mpr (hseq eimID kind der htarget hx509)

end EimConfigRequest

/-! ## Requests -/

/-- The requests whose package survives delivery. -/
def PackageRequest.Deliverable (S : Service) : PackageRequest → Prop
  | .configureImmediateEnable _ oid _ =>
      ∀ arcs, parseOID oid = .ok arcs → arcs ≠ [] → Asn1.Deliverable arcs
  | .addEIM request => request.CarriesSequence S []
  | .updateEIM pathEIMID request =>
      ∀ eimID, parseEIMID pathEIMID = .ok eimID → request.CarriesSequence S eimID
  | _ => True

theorem plain_psmoPackage {psmo : Psmo} : (psmoPackage psmo).Plain ↔ psmo.Plain := by
  simp [psmoPackage, EuiccPackage.Plain]

theorem deliverable_psmoPackage {psmo : Psmo} :
    (psmoPackage psmo).Deliverable ↔ psmo.Deliverable := by
  simp [psmoPackage, EuiccPackage.Deliverable]

theorem plain_ecoPackage {eco : Eco} : (ecoPackage eco).Plain ↔ eco.Plain := by
  simp [ecoPackage, EuiccPackage.Plain]

theorem deliverable_ecoPackage {eco : Eco} :
    (ecoPackage eco).Deliverable ↔ eco.Deliverable := by
  simp [ecoPackage, EuiccPackage.Deliverable]

theorem profileInfoListRequest_wellFormed : profileInfoListRequest.WellFormed :=
  ⟨by decide, by decide, ⟨by decide, by decide⟩, trivial⟩

/-- The package of a request is a plain one, and deliverable when the request is. -/
theorem package_eq_ok (hB : B.Lawful) {request : PackageRequest} {pkg : EuiccPackage}
    (h : request.package B S = .ok pkg) :
    pkg.Plain ∧ (pkg.Deliverable ↔ request.Deliverable S) := by
  cases request with
  | enableProfile | disableProfile | deleteProfile | setFallbackAttribute =>
      obtain ⟨octets, -, hpkg⟩ := Outcome.bind_eq_ok.mp h
      obtain rfl := Except.ok.inj hpkg
      exact ⟨plain_psmoPackage.mpr trivial, deliverable_psmoPackage.trans Iff.rfl⟩
  | unsetFallbackAttribute | getRAT =>
      obtain rfl := Except.ok.inj h
      exact ⟨plain_psmoPackage.mpr trivial, deliverable_psmoPackage.trans Iff.rfl⟩
  | listProfileInfo =>
      obtain rfl := Except.ok.inj h
      refine ⟨plain_psmoPackage.mpr ?_, deliverable_psmoPackage.trans Iff.rfl⟩
      rintro t ⟨⟩
      exact ⟨rfl, profileInfoListRequest_wellFormed⟩
  | configureImmediateEnable immediate oid address =>
      obtain ⟨arcs, harcs, hpkg⟩ := Outcome.bind_eq_ok.mp h
      obtain rfl := Except.ok.inj hpkg
      refine ⟨plain_psmoPackage.mpr trivial, deliverable_psmoPackage.trans ?_⟩
      simp [Psmo.Deliverable, ConfigureImmediateEnable.Deliverable, PackageRequest.Deliverable,
        harcs]
  | setDefaultDPAddress address =>
      obtain ⟨-, hpkg⟩ := Outcome.guard_eq_ok.mp h
      obtain rfl := Except.ok.inj hpkg
      exact ⟨plain_psmoPackage.mpr trivial, deliverable_psmoPackage.trans Iff.rfl⟩
  | addEIM request =>
      obtain ⟨config, hconfig, hpkg⟩ := Outcome.bind_eq_ok.mp h
      obtain rfl := Except.ok.inj hpkg
      obtain ⟨hplain, hiff⟩ := EimConfigRequest.config_eq_ok hB hconfig
      refine ⟨plain_ecoPackage.mpr ?_, deliverable_ecoPackage.trans ?_⟩
      · simpa [Eco.Plain] using hplain
      · simpa [Eco.Deliverable, PackageRequest.Deliverable] using hiff
  | updateEIM pathEIMID request =>
      obtain ⟨eimID, heimID, h⟩ := Outcome.bind_eq_ok.mp h
      obtain ⟨config, hconfig, hpkg⟩ := Outcome.bind_eq_ok.mp h
      obtain rfl := Except.ok.inj hpkg
      obtain ⟨hplain, hiff⟩ := EimConfigRequest.config_eq_ok hB hconfig
      refine ⟨plain_ecoPackage.mpr ?_, deliverable_ecoPackage.trans ?_⟩
      · simpa [Eco.Plain] using hplain
      · simpa [Eco.Deliverable, PackageRequest.Deliverable, heimID] using hiff
  | deleteEIM pathEIMID =>
      obtain ⟨eimID, -, hpkg⟩ := Outcome.bind_eq_ok.mp h
      obtain rfl := Except.ok.inj hpkg
      exact ⟨plain_ecoPackage.mpr trivial, deliverable_ecoPackage.trans Iff.rfl⟩
  | listEIM =>
      obtain rfl := Except.ok.inj h
      exact ⟨plain_ecoPackage.mpr trivial, deliverable_ecoPackage.trans Iff.rfl⟩

section

variable {tenantID : TenantID} {eid transactionID : Bytes} {s s' : Store} {operation : Operation}

/-- The operation carries the package under some signature. -/
def Carries (B : Bertlv) (operation : Operation) (pkg : EuiccPackage) : Prop :=
  ∃ r : EuiccPackageRequest, r.euiccPackageSigned.euiccPackage = pkg ∧
    Asn1.encode B (r.marshalBERTLV B) = .ok operation.payload

theorem signAndEnqueue_eq_ok {input : SignInput}
    (h : signAndEnqueue B S input s = (.ok operation, s')) : Carries B operation input.package := by
  obtain ⟨signed, t, hsign, henqueue⟩ := Stateful.bind_eq_ok h
  obtain ⟨counter, -, signature, hencode⟩ := sign_eq_ok hsign
  obtain ⟨device, -, rfl, -⟩ := enqueueOperation_eq_ok henqueue
  exact ⟨_, rfl, hencode⟩

theorem enqueueDeviceOperation_eq_ok {build : Except Error EuiccPackage}
    (h : enqueueDeviceOperation B S tenantID eid transactionID build s = (.ok operation, s')) :
    ∃ pkg, build = .ok pkg ∧ Carries B operation pkg := by
  obtain ⟨⟨normalized, eidValue⟩, -, h⟩ := (readOnly_ofExcept _).bind_eq_ok h
  obtain ⟨-, t, -, h⟩ := Stateful.bind_eq_ok h
  obtain ⟨pkg, hpkg, h⟩ := (readOnly_ofExcept _).bind_eq_ok h
  exact ⟨pkg, hpkg, signAndEnqueue_eq_ok h⟩

theorem enqueueProfileOperation_eq_ok {build : Except Error EuiccPackage}
    (h : enqueueProfileOperation B S tenantID eid transactionID build s = (.ok operation, s')) :
    ∃ pkg, build = .ok pkg ∧ Carries B operation pkg := by
  obtain ⟨⟨normalized, eidValue⟩, -, h⟩ := (readOnly_ofExcept _).bind_eq_ok h
  obtain ⟨pkg, hpkg, h⟩ := (readOnly_ofExcept _).bind_eq_ok h
  obtain ⟨-, t, -, h⟩ := Stateful.bind_eq_ok h
  exact ⟨pkg, hpkg, signAndEnqueue_eq_ok h⟩

/-- What an accepted request has queued. -/
theorem carries_of_accepted {request : PackageRequest}
    (h : handlePackageRequest B S tenantID eid transactionID request s = (.ok operation, s')) :
    ∃ pkg, request.package B S = .ok pkg ∧ Carries B operation pkg := by
  cases request with
  | enableProfile | disableProfile | deleteProfile | setFallbackAttribute =>
      exact enqueueProfileOperation_eq_ok h
  | updateEIM | deleteEIM =>
      obtain ⟨-, -, h⟩ := (readOnly_ofExcept _).bind_eq_ok h
      exact enqueueDeviceOperation_eq_ok h
  | unsetFallbackAttribute | listProfileInfo | getRAT | configureImmediateEnable
  | setDefaultDPAddress | addEIM | listEIM => exact enqueueDeviceOperation_eq_ok h

/-- The package of an accepted request survives delivery exactly when the request is deliverable. -/
theorem redelivers_iff_deliverable (hB : B.Lawful) {request : PackageRequest}
    (haccepted : (handlePackageRequest B S tenantID eid transactionID request s).1 =
      .ok operation) :
    Redelivers B operation.payload ↔ request.Deliverable S := by
  obtain ⟨pkg, hpkg, r, rfl, hencode⟩ := carries_of_accepted (Prod.ext haccepted rfl)
  obtain ⟨hplain, hiff⟩ := package_eq_ok hB hpkg
  exact (redelivers_iff hB hplain hencode).trans hiff

end

/-! A service, and the operations that its first request for a device queues. -/

def sampleService : Service where
  eimID := text "eim"
  signer := ⟨fun _ => .ok [0x01], [], .ok [0x30, 0x00]⟩

def sampleDevice : Bytes := text "11111111111111111111111111111111"

/-- The operation with a signed package of the given octets. -/
def sampleQueued (pkg : Bytes) : Operation where
  id := 1
  eid := sampleDevice
  sequenceNumber := 1
  kind := .euiccPackage
  payload :=
    [0xbf, 0x51, UInt8.ofNat (35 + pkg.length), 0x30, UInt8.ofNat (29 + pkg.length),
      0x80, 0x03, 0x65, 0x69, 0x6d, 0x5a, 0x10] ++ List.replicate 16 0x11 ++
      [0x81, 0x01, 0x01, 0x82, 0x01, 0x07] ++ pkg ++ [0x5f, 0x37, 0x01, 0x01]
  status := .pending

/-- The outcome of the first request for the device. -/
def sampleOutcome (request : PackageRequest) : Except Error Operation :=
  (handlePackageRequest .reference sampleService [] sampleDevice [0x07] request Store.new).1

theorem redelivers_iff_deliverable_sample :
    sampleOutcome (.configureImmediateEnable true (text "1.3.6") []) =
      .ok (sampleQueued [0xa0, 0x08, 0xa7, 0x06, 0x80, 0x00, 0x81, 0x02, 0x2b, 0x06]) ∧
    (Redelivers .reference
        (sampleQueued [0xa0, 0x08, 0xa7, 0x06, 0x80, 0x00, 0x81, 0x02, 0x2b, 0x06]).payload ↔
      (PackageRequest.configureImmediateEnable true (text "1.3.6") []).Deliverable sampleService) := by
  have haccepted : sampleOutcome (.configureImmediateEnable true (text "1.3.6") []) =
      .ok (sampleQueued [0xa0, 0x08, 0xa7, 0x06, 0x80, 0x00, 0x81, 0x02, 0x2b, 0x06]) := by
    decide +kernel
  exact ⟨haccepted, redelivers_iff_deliverable Bertlv.reference_lawful haccepted⟩

theorem not_redelivers_of_decode {B : Bertlv} {payload : Bytes}
    (h : (Asn1.decode B (EuiccPackageRequest.unmarshalBERTLV B) payload).isOk = false) :
    ¬ Redelivers B payload := by
  rintro ⟨request, hread, -⟩
  rw [hread] at h
  cases h

/-- An arc above `2 ^ 31 - 1`, and a public key that is a NULL, are accepted and not delivered. -/
theorem accepted_not_redelivered :
    (sampleOutcome (.configureImmediateEnable true (text "1.3.2147483648") []) =
        .ok (sampleQueued [0xa0, 0x0c, 0xa7, 0x0a, 0x80, 0x00, 0x81, 0x06, 0x2b, 0x88, 0x80, 0x80,
          0x80, 0x00]) ∧
      ¬ Redelivers .reference (sampleQueued [0xa0, 0x0c, 0xa7, 0x0a, 0x80, 0x00, 0x81, 0x06, 0x2b,
        0x88, 0x80, 0x80, 0x80, 0x00]).payload) ∧
    (sampleOutcome (.addEIM { eimID := text "e2", eimPublicKeyDataBase64 := text "BQA=" }) =
        .ok (sampleQueued [0xa1, 0x0f, 0xa8, 0x0d, 0x80, 0x02, 0x65, 0x32, 0x83, 0x01, 0x01, 0xa5,
          0x04, 0xa0, 0x02, 0x05, 0x00]) ∧
      ¬ Redelivers .reference (sampleQueued [0xa1, 0x0f, 0xa8, 0x0d, 0x80, 0x02, 0x65, 0x32, 0x83,
        0x01, 0x01, 0xa5, 0x04, 0xa0, 0x02, 0x05, 0x00]).payload) := by
  refine ⟨⟨by decide +kernel, ?_⟩, by decide +kernel, ?_⟩
  · exact not_redelivers_of_decode (by decide +kernel)
  · exact not_redelivers_of_decode (by decide +kernel)

end OpenIotRsp.Api
