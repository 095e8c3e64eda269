import OpenIotRsp.Model.Error

/-!
# Certificate chains

`pki/validator.go`: trusted roots and the validation of eUICC certificate
chains.  Parsing and signature checks are those of `crypto/x509`, a parameter.
-/

namespace OpenIotRsp.Pki

open Octets

/-! ## Certificates -/

inductive Curve where
  | p224
  | p256
  | p384
  | p521
deriving DecidableEq

inductive PublicKey where
  | ecdsa (curve : Curve)
  | other
deriving DecidableEq

abbrev ObjectIdentifier := List Nat

structure Certificate where
  raw : Bytes
  rawIssuer : Bytes
  rawSubject : Bytes
  publicKey : PublicKey
  notBefore : Int
  notAfter : Int
  isCA : Bool
  keyUsage : Nat
  unhandledCriticalExtensions : List ObjectIdentifier
deriving DecidableEq

/-- `x509.ParseCertificate`, which keeps the octets it has read, and `CheckSignatureFrom`. -/
structure X509 where
  parseCertificate : Bytes → Option Certificate
  checkSignatureFrom : Certificate → Certificate → Bool
  raw_of_parse : ∀ der certificate, parseCertificate der = some certificate →
    certificate.raw = der

def keyUsageDigitalSignature : Nat := 1

def keyUsageCertSign : Nat := 32

def Certificate.mayUseKey (certificate : Certificate) (usage : Nat) : Bool :=
  certificate.keyUsage = 0 ∨ certificate.keyUsage &&& usage ≠ 0

def oidExtensionNameConstraints : ObjectIdentifier := [2, 5, 29, 30]

/-- A check that fails with a message when the condition holds. -/
def reject (condition : Prop) [Decidable condition] (message : String) : Except Error Unit :=
  if condition then .error (.message message) else .ok ()

/-! ## Validators -/

structure Validator where
  rootCerts : List Certificate
  now : Int
deriving DecidableEq

section

variable (X : X509)

def trustedRoot (der : Bytes) : Except Error Certificate :=
  match X.parseCertificate der with
  | none => .error (.message "pki: parse trusted root")
  | some root => do
      reject (root.publicKey = .other) "pki: trusted root is not an ECDSA certificate"
      reject (¬ root.isCA) "pki: trusted root is not a CA"
      reject (¬ root.mayUseKey keyUsageCertSign) "pki: trusted root cannot sign certificates"
      reject (¬ X.checkSignatureFrom root root) "pki: trusted root self-signature invalid"
      return root

def newValidator (rootDER : List Bytes) (now : Int) : Except Error Validator := do
  reject (rootDER = []) "pki: no trusted roots configured"
  return ⟨← rootDER.mapM (trustedRoot X), now⟩

/-! ## Checks of one certificate -/

def parseP256ECDSACertificate (der : Bytes) (label : String) : Except Error Certificate :=
  match X.parseCertificate der with
  | none => .error (.message ("pki: parse " ++ label))
  | some certificate => do
      reject (certificate.publicKey = .other) ("pki: " ++ label ++ " is not an ECDSA certificate")
      reject (certificate.publicKey ≠ .ecdsa .p256)
        ("pki: " ++ label ++ " is not a P-256 certificate")
      return certificate

def validateCertificateTime (certificate : Certificate) (now : Int) (label : String) :
    Except Error Unit := do
  reject (now < certificate.notBefore) ("pki: " ++ label ++ " is not valid before")
  reject (certificate.notAfter < now) ("pki: " ++ label ++ " expired at")

def rejectUnhandledCriticalExtensions (certificate : Certificate)
    (allowed : List ObjectIdentifier) (label : String) : Except Error Unit :=
  reject (∃ extension ∈ certificate.unhandledCriticalExtensions, extension ∉ allowed)
    ("pki: " ++ label ++ ": unsupported critical extension")

def checkIssuedBy (child parent : Certificate) (childLabel parentLabel : String) :
    Except Error Unit := do
  reject (child.rawIssuer ≠ parent.rawSubject)
    ("pki: " ++ childLabel ++ " issuer does not match " ++ parentLabel ++ " subject")
  reject (¬ X.checkSignatureFrom child parent)
    ("pki: " ++ childLabel ++ " signature rejected by " ++ parentLabel)

/-! ## eUICC chains -/

/-- The first root with the issuer's name that has signed the certificate; otherwise the error
tells whether a root of that name was tried. -/
def signingRoot (eum : Certificate) (tried : Bool) : List Certificate → Except Error Certificate
  | [] =>
      if tried then
        .error (.message "pki: EUM certificate signature rejected by trusted CI root")
      else .error (.message "pki: no trusted CI root for EUM certificate")
  | root :: roots =>
      if eum.rawIssuer ≠ root.rawSubject then signingRoot eum tried roots
      else if ¬ X.checkSignatureFrom eum root then signingRoot eum true roots
      else .ok root

namespace Validator

def euiccChainRoot (v : Validator) (eumDER : Bytes) : Option Bytes → Except Error Certificate
  | some rootDER => do
      let includedRoot ← parseP256ECDSACertificate X rootDER "CI root"
      match v.rootCerts.find? fun root => includedRoot.raw = root.raw with
      | some root => return root
      | none => throw (.message "pki: included CI root is not trusted")
  | none =>
      match X.parseCertificate eumDER with
      | none => .error (.message "pki: parse EUM certificate")
      | some eum => signingRoot X eum false v.rootCerts

/-- The validation of a chain with or without a root.  The source checks the three validity periods
in no fixed order, which only matters to the message. -/
def validateWithRoot (v : Validator) (euiccDER eumDER : Bytes) (rootDER : Option Bytes) :
    Except Error Unit := do
  let euicc ← parseP256ECDSACertificate X euiccDER "eUICC certificate"
  let eum ← parseP256ECDSACertificate X eumDER "EUM certificate"
  let root ← v.euiccChainRoot X eumDER rootDER
  validateCertificateTime euicc v.now "eUICC certificate"
  validateCertificateTime eum v.now "EUM certificate"
  validateCertificateTime root v.now "CI root"
  rejectUnhandledCriticalExtensions euicc [] "eUICC certificate"
  rejectUnhandledCriticalExtensions eum [oidExtensionNameConstraints] "EUM certificate"
  rejectUnhandledCriticalExtensions root [] "CI root"
  reject euicc.isCA "pki: eUICC certificate must not be a CA"
  reject (¬ euicc.mayUseKey keyUsageDigitalSignature)
    "pki: eUICC certificate cannot create digital signatures"
  reject (¬ eum.isCA) "pki: EUM certificate is not a CA"
  reject (¬ eum.mayUseKey keyUsageCertSign) "pki: EUM certificate cannot sign certificates"
  checkIssuedBy X euicc eum "eUICC certificate" "EUM certificate"
  checkIssuedBy X eum root "EUM certificate" "CI root"

def validateEUICCChain (v : Validator) : List Bytes → Except Error Unit
  | [euiccDER, eumDER] => v.validateWithRoot X euiccDER eumDER none
  | [euiccDER, eumDER, rootDER] => v.validateWithRoot X euiccDER eumDER (some rootDER)
  | _ => .error (.message "pki: eUICC chain must contain eUICC and EUM certificates")

end Validator

end

end OpenIotRsp.Pki
