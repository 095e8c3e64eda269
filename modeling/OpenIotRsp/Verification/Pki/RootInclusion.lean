import OpenIotRsp.Library.Outcome
import OpenIotRsp.Model.Pki

/-!
# Chains with and without their root

With the root omitted, the validator takes the first trusted root that has
signed the EUM certificate and fails if that one cannot be used; with the root
included, it takes that root, which must be on P-256.
-/

namespace OpenIotRsp.Pki

open Octets

variable {X : X509} {v : Validator} {certificate : Certificate} {euiccDER eumDER : Bytes}
  {rootDER : List Bytes} {now : Int}

/-! ## Checks of one certificate -/

theorem reject_eq_ok {condition : Prop} [Decidable condition] {message : String} {u : Unit} :
    reject condition message = .ok u ↔ ¬ condition := by
  by_cases h : condition <;> simp [reject, h]

def Certificate.IsOnP256 (certificate : Certificate) : Prop :=
  certificate.publicKey = .ecdsa .p256

def Certificate.IsCurrent (certificate : Certificate) (now : Int) : Prop :=
  certificate.notBefore ≤ now ∧ now ≤ certificate.notAfter

def Certificate.IsHandled (certificate : Certificate) (allowed : List ObjectIdentifier) : Prop :=
  ∀ extension ∈ certificate.unhandledCriticalExtensions, extension ∈ allowed

def IssuedBy (X : X509) (child parent : Certificate) : Prop :=
  child.rawIssuer = parent.rawSubject ∧ X.checkSignatureFrom child parent

instance (X : X509) (child parent : Certificate) : Decidable (IssuedBy X child parent) :=
  inferInstanceAs (Decidable (_ ∧ _))

theorem parseP256ECDSACertificate_eq_ok {der : Bytes} {label : String} :
    parseP256ECDSACertificate X der label = .ok certificate ↔
      X.parseCertificate der = some certificate ∧ certificate.IsOnP256 := by
  unfold parseP256ECDSACertificate
  cases hparse : X.parseCertificate der with
  | none => simp
  | some parsed =>
      simp only [Outcome.unit_bind_eq_ok, reject_eq_ok, Outcome.pure_eq, Except.ok.injEq,
        Option.some.injEq, not_not]
      constructor
      · rintro ⟨-, hcurve, rfl⟩
        exact ⟨rfl, hcurve⟩
      · rintro ⟨rfl, hcurve⟩
        refine ⟨?_, hcurve, rfl⟩
        rw [show parsed.publicKey = .ecdsa .p256 from hcurve]
        decide

theorem validateCertificateTime_eq_ok {label : String} {u : Unit} :
    validateCertificateTime certificate now label = .ok u ↔ certificate.IsCurrent now := by
  simp only [validateCertificateTime, Outcome.unit_bind_eq_ok, reject_eq_ok, not_lt,
    Certificate.IsCurrent]

theorem rejectUnhandledCriticalExtensions_eq_ok {allowed : List ObjectIdentifier} {label : String}
    {u : Unit} :
    rejectUnhandledCriticalExtensions certificate allowed label = .ok u ↔
      certificate.IsHandled allowed := by
  simp only [rejectUnhandledCriticalExtensions, reject_eq_ok, Certificate.IsHandled, not_exists,
    not_and, not_not]

theorem checkIssuedBy_eq_ok {child parent : Certificate} {childLabel parentLabel : String}
    {u : Unit} :
    checkIssuedBy X child parent childLabel parentLabel = .ok u ↔ IssuedBy X child parent := by
  simp only [checkIssuedBy, Outcome.unit_bind_eq_ok, reject_eq_ok, not_not, ne_eq, IssuedBy]

/-! ## Trusted roots -/

theorem trustedRoot_eq_ok {der : Bytes} {root : Certificate} (h : trustedRoot X der = .ok root) :
    X.parseCertificate der = some root := by
  unfold trustedRoot at h
  cases hparse : X.parseCertificate der with
  | none => simp [hparse] at h
  | some parsed =>
      simp only [hparse, Outcome.unit_bind_eq_ok, Outcome.pure_eq, Except.ok.injEq] at h
      obtain ⟨-, -, -, -, rfl⟩ := h
      rfl

/-- The roots of a validator are the certificates it was given. -/
theorem newValidator_eq_ok (h : newValidator X rootDER now = .ok v) :
    v.now = now ∧ ∀ root ∈ v.rootCerts,
      root.raw ∈ rootDER ∧ X.parseCertificate root.raw = some root := by
  obtain ⟨-, h⟩ := Outcome.unit_bind_eq_ok.mp h
  obtain ⟨roots, hroots, h⟩ := Outcome.bind_eq_ok.mp h
  cases h
  refine ⟨rfl, fun root hroot => ?_⟩
  obtain ⟨der, hder, hload⟩ := Outcome.exists_source_of_mapM hroots hroot
  have hparse := trustedRoot_eq_ok hload
  rw [X.raw_of_parse der root hparse]
  exact ⟨hder, hparse⟩

theorem signingRoot_eq_ok {eum root : Certificate} {tried : Bool} {roots : List Certificate} :
    signingRoot X eum tried roots = .ok root ↔
      roots.find? (fun root => IssuedBy X eum root) = some root := by
  induction roots generalizing tried with
  | nil => cases tried <;> simp [signingRoot]
  | cons candidate roots ih =>
      unfold signingRoot
      by_cases hname : eum.rawIssuer = candidate.rawSubject
      · by_cases hsigned : X.checkSignatureFrom eum candidate = true
        · have hissued : IssuedBy X eum candidate := ⟨hname, hsigned⟩
          simp [hname, hsigned, hissued]
        · have hissued : ¬ IssuedBy X eum candidate := fun h => hsigned h.2
          simp [hname, hsigned, hissued, ih]
      · have hissued : ¬ IssuedBy X eum candidate := fun h => hname h.1
        simp [hname, hissued, ih]

/-! ## Chains -/

/-- What a chain must meet whichever root it ends at. -/
structure ChainValid (X : X509) (now : Int) (euiccDER eumDER : Bytes)
    (euicc eum : Certificate) : Prop where
  parsed : X.parseCertificate euiccDER = some euicc ∧ X.parseCertificate eumDER = some eum
  onP256 : euicc.IsOnP256 ∧ eum.IsOnP256
  current : euicc.IsCurrent now ∧ eum.IsCurrent now
  handled : euicc.IsHandled [] ∧ eum.IsHandled [oidExtensionNameConstraints]
  euicc_isCA : euicc.isCA = false
  euicc_usage : euicc.mayUseKey keyUsageDigitalSignature
  eum_isCA : eum.isCA
  eum_usage : eum.mayUseKey keyUsageCertSign
  issued : IssuedBy X euicc eum

theorem ChainValid.eum_unique {euicc eum euicc' eum' : Certificate}
    (h : ChainValid X now euiccDER eumDER euicc eum)
    (h' : ChainValid X now euiccDER eumDER euicc' eum') : eum = eum' :=
  Option.some.inj (h.parsed.2.symm.trans h'.parsed.2)

/-- A root that may end a chain at the time. -/
def Certificate.IsUsable (root : Certificate) (now : Int) : Prop :=
  root.IsCurrent now ∧ root.IsHandled []

theorem validateWithRoot_eq_ok {rootDER : Option Bytes} :
    v.validateWithRoot X euiccDER eumDER rootDER = .ok () ↔
      ∃ euicc eum root, ChainValid X v.now euiccDER eumDER euicc eum ∧
        v.euiccChainRoot X eumDER rootDER = .ok root ∧ root.IsUsable v.now ∧
        IssuedBy X eum root := by
  simp only [Validator.validateWithRoot, Outcome.bind_eq_ok, parseP256ECDSACertificate_eq_ok,
    validateCertificateTime_eq_ok, rejectUnhandledCriticalExtensions_eq_ok, reject_eq_ok,
    checkIssuedBy_eq_ok, not_not, exists_const]
  constructor
  · rintro ⟨euicc, ⟨hparse, hcurve⟩, eum, ⟨hparse', hcurve'⟩, root, hroot, hcurrent, hcurrent',
      hcurrentRoot, hhandled, hhandled', hhandledRoot, hCA, husage, hCA', husage', hissued,
      hissuedRoot⟩
    refine ⟨euicc, eum, root, ?_, hroot, ⟨hcurrentRoot, hhandledRoot⟩, hissuedRoot⟩
    exact ⟨⟨hparse, hparse'⟩, ⟨hcurve, hcurve'⟩, ⟨hcurrent, hcurrent'⟩, ⟨hhandled, hhandled'⟩,
      Bool.eq_false_iff.mpr hCA, husage, hCA', husage', hissued⟩
  · rintro ⟨euicc, eum, root, h, hroot, ⟨hcurrentRoot, hhandledRoot⟩, hissuedRoot⟩
    exact ⟨euicc, ⟨h.parsed.1, h.onP256.1⟩, eum, ⟨h.parsed.2, h.onP256.2⟩, root, hroot,
      h.current.1, h.current.2, hcurrentRoot, h.handled.1, h.handled.2, hhandledRoot,
      Bool.eq_false_iff.mp h.euicc_isCA, h.euicc_usage, h.eum_isCA, h.eum_usage, h.issued,
      hissuedRoot⟩

/-- Without a root, the first one that has signed the EUM certificate must be usable. -/
theorem validate_pair_eq_ok :
    v.validateEUICCChain X [euiccDER, eumDER] = .ok () ↔
      ∃ euicc eum root, ChainValid X v.now euiccDER eumDER euicc eum ∧
        v.rootCerts.find? (fun root => IssuedBy X eum root) = some root ∧
        root.IsUsable v.now := by
  rw [Validator.validateEUICCChain, validateWithRoot_eq_ok]
  constructor
  · rintro ⟨euicc, eum, root, hchain, hroot, husable, -⟩
    rw [Validator.euiccChainRoot, hchain.parsed.2] at hroot
    exact ⟨euicc, eum, root, hchain, signingRoot_eq_ok.mp hroot, husable⟩
  · rintro ⟨euicc, eum, root, hchain, hroot, husable⟩
    refine ⟨euicc, eum, root, hchain, ?_, husable, by simpa using List.find?_some hroot⟩
    rw [Validator.euiccChainRoot, hchain.parsed.2]
    exact signingRoot_eq_ok.mpr hroot

/-- With a root, that one must be trusted, usable, on P-256 and have signed the certificate. -/
theorem validate_triple_eq_ok (hv : newValidator X rootDER now = .ok v)
    {euiccDER eumDER includedDER : Bytes} :
    v.validateEUICCChain X [euiccDER, eumDER, includedDER] = .ok () ↔
      ∃ euicc eum root, ChainValid X v.now euiccDER eumDER euicc eum ∧ root ∈ v.rootCerts ∧
        root.raw = includedDER ∧ root.IsOnP256 ∧ root.IsUsable v.now ∧ IssuedBy X eum root := by
  have htrusted := (newValidator_eq_ok hv).2
  rw [Validator.validateEUICCChain, validateWithRoot_eq_ok]
  constructor
  · rintro ⟨euicc, eum, root, hchain, hroot, husable, hissued⟩
    obtain ⟨included, hincluded, hroot⟩ := Outcome.bind_eq_ok.mp hroot
    obtain ⟨hparse, hcurve⟩ := parseP256ECDSACertificate_eq_ok.mp hincluded
    split at hroot
    next found hfound =>
        cases hroot
        have hraw : included.raw = root.raw := by simpa using List.find?_some hfound
        have hmem := List.mem_of_find?_eq_some hfound
        -- the same octets are parsed to the same certificate
        have hsame : root = included := by
          have hparse' := (htrusted root hmem).2
          rw [← hraw, X.raw_of_parse _ _ hparse, hparse] at hparse'
          exact (Option.some.inj hparse').symm
        subst hsame
        exact ⟨euicc, eum, root, hchain, hmem, X.raw_of_parse _ _ hparse, hcurve, husable, hissued⟩
    next => cases hroot
  · rintro ⟨euicc, eum, root, hchain, hmem, rfl, hcurve, husable, hissued⟩
    refine ⟨euicc, eum, root, hchain, ?_, husable, hissued⟩
    have hparse := (htrusted root hmem).2
    refine Outcome.bind_eq_ok.mpr
      ⟨root, parseP256ECDSACertificate_eq_ok.mpr ⟨hparse, hcurve⟩, ?_⟩
    cases hfound : v.rootCerts.find? fun other => root.raw = other.raw with
    | none => exact absurd (List.find?_eq_none.mp hfound root hmem) (by simp)
    | some found =>
        have hraw : root.raw = found.raw := by simpa using List.find?_some hfound
        have hparse' := (htrusted found (List.mem_of_find?_eq_some hfound)).2
        rw [← hraw, hparse] at hparse'
        rw [Option.some.inj hparse']
        rfl

/-! ## Inclusion of the root -/

/-- The first trusted root that has signed the EUM certificate is usable just when some trusted root
on P-256 that has signed it is. -/
def FirstRootDecides (X : X509) (v : Validator) (eum : Certificate) : Prop :=
  ∀ first, v.rootCerts.find? (fun root => IssuedBy X eum root) = some first →
    (first.IsUsable v.now ↔
      ∃ root ∈ v.rootCerts, IssuedBy X eum root ∧ root.IsUsable v.now ∧ root.IsOnP256)

/-- Including the root makes no difference to a chain, all else being valid, just when the first
root that has signed the EUM certificate decides for all. -/
theorem root_inclusion_iff {rootDER : List Bytes} {now : Int} {v : Validator}
    (hv : newValidator X rootDER now = .ok v) (euiccDER eumDER : Bytes) :
    (v.validateEUICCChain X [euiccDER, eumDER] = .ok () ↔
        ∃ r ∈ rootDER, v.validateEUICCChain X [euiccDER, eumDER, r] = .ok ()) ↔
      ∀ euicc eum, ChainValid X now euiccDER eumDER euicc eum → FirstRootDecides X v eum := by
  obtain ⟨rfl, htrusted⟩ := newValidator_eq_ok hv
  simp only [validate_pair_eq_ok, validate_triple_eq_ok hv]
  constructor
  · intro h euicc eum hchain first hfirst
    constructor
    · intro husable
      obtain ⟨_, _, _, eum', root, hchain', hmem, -, hcurve, husable', hissued⟩ :=
        h.mp ⟨euicc, eum, first, hchain, hfirst, husable⟩
      obtain rfl := hchain.eum_unique hchain'
      exact ⟨root, hmem, hissued, husable', hcurve⟩
    · rintro ⟨root, hmem, hissued, husable, hcurve⟩
      obtain ⟨_, eum', first', hchain', hfirst', husable'⟩ :=
        h.mpr ⟨root.raw, (htrusted root hmem).1, euicc, eum, root, hchain, hmem, rfl, hcurve,
          husable, hissued⟩
      obtain rfl := hchain.eum_unique hchain'
      rwa [Option.some.inj (hfirst.symm.trans hfirst')]
  · intro h
    constructor
    · rintro ⟨euicc, eum, first, hchain, hfirst, husable⟩
      obtain ⟨root, hmem, hissued, husable', hcurve⟩ :=
        (h euicc eum hchain first hfirst).mp husable
      exact ⟨root.raw, (htrusted root hmem).1, euicc, eum, root, hchain, hmem, rfl, hcurve,
        husable', hissued⟩
    · rintro ⟨_, _, euicc, eum, root, hchain, hmem, -, hcurve, husable, hissued⟩
      have hsome : (v.rootCerts.find? fun root => IssuedBy X eum root).isSome :=
        List.find?_isSome.mpr ⟨root, hmem, decide_eq_true hissued⟩
      obtain ⟨first, hfirst⟩ := Option.isSome_iff_exists.mp hsome
      exact ⟨euicc, eum, first, hchain, hfirst,
        (h euicc eum hchain first hfirst).mpr ⟨root, hmem, hissued, husable, hcurve⟩⟩

/-! ## Roots that differ -/

/-- Certificates of one root name and one EUM name, where the name alone decides who has signed. -/
def sampleX509 (certificates : List Certificate) : X509 where
  parseCertificate der := certificates.find? fun certificate => certificate.raw = der
  checkSignatureFrom child parent := child.rawIssuer = parent.rawSubject
  raw_of_parse der certificate h := by simpa using List.find?_some h

def sampleRoot (raw : Bytes) (curve : Curve) (notAfter : Int) : Certificate :=
  ⟨raw, [0xc1], [0xc1], .ecdsa curve, 0, notAfter, true, keyUsageCertSign, []⟩

def sampleEUM : Certificate :=
  ⟨[2], [0xc1], [0xe0], .ecdsa .p256, 0, 100, true, keyUsageCertSign, [[2, 5, 29, 30]]⟩

def sampleEUICC : Certificate :=
  ⟨[1], [0xe0], [0xe1], .ecdsa .p256, 0, 100, false, keyUsageDigitalSignature, []⟩

theorem root_inclusion_iff_one_root :
    let X := sampleX509 [sampleEUICC, sampleEUM, sampleRoot [3] .p256 100]
    ∃ v, newValidator X [[3]] 50 = .ok v ∧
      (v.validateEUICCChain X [[1], [2]] = .ok () ↔
        ∃ r ∈ [[3]], v.validateEUICCChain X [[1], [2], r] = .ok ()) := by
  intro X
  have hv : newValidator X [[3]] 50 = .ok ⟨[sampleRoot [3] .p256 100], 50⟩ := by decide +kernel
  refine ⟨_, hv, (root_inclusion_iff hv [1] [2]).mpr fun euicc eum hchain first hfirst => ?_⟩
  obtain rfl : first = sampleRoot [3] .p256 100 :=
    List.mem_singleton.mp (List.mem_of_find?_eq_some hfirst)
  have hissued : IssuedBy X eum (sampleRoot [3] .p256 100) := by
    simpa using List.find?_some hfirst
  have hcurve : (sampleRoot [3] .p256 100).IsOnP256 := rfl
  simp [hissued, hcurve]

/-- Of two roots with one name and key, the first has expired: the chain fails without its root and
succeeds with the second.  A root on another curve is taken when it is omitted only. -/
theorem root_inclusion_matters :
    (let X := sampleX509 [sampleEUICC, sampleEUM, sampleRoot [3] .p256 10, sampleRoot [4] .p256 100]
    let v : Validator := ⟨[sampleRoot [3] .p256 10, sampleRoot [4] .p256 100], 50⟩
    newValidator X [[3], [4]] 50 = .ok v ∧
      v.validateEUICCChain X [[1], [2]] = .error (.message "pki: CI root expired at") ∧
      v.validateEUICCChain X [[1], [2], [4]] = .ok ()) ∧
      (let X := sampleX509 [sampleEUICC, sampleEUM, sampleRoot [5] .p384 100]
      let v : Validator := ⟨[sampleRoot [5] .p384 100], 50⟩
      newValidator X [[5]] 50 = .ok v ∧ v.validateEUICCChain X [[1], [2]] = .ok () ∧
        ¬ ∃ r ∈ [[5]], v.validateEUICCChain X [[1], [2], r] = .ok ()) := by
  decide +kernel

end OpenIotRsp.Pki
