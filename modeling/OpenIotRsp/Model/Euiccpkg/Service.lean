import OpenIotRsp.Model.Euiccpkg.State
import OpenIotRsp.Model.Euiccpkg.Verify

/-!
# Building and signing packages

`euiccpkg/constructors.go`, and the part of `euiccpkg/service.go` that uses the
store: signing, and applying a verified result.  The signer is a parameter: its
signatures, its certificate and its public key.
-/

namespace OpenIotRsp.Euiccpkg

open Octets Ber Stateful Asn1 Storage

/-! ## Packages of one operation -/

def psmoPackage (psmo : Psmo) : EuiccPackage := .psmo [psmo]

def ecoPackage (eco : Eco) : EuiccPackage := .eco [eco]

def enable (iccid : Bytes) (rollback : Bool) : EuiccPackage := psmoPackage (.enable iccid rollback)

def disable (iccid : Bytes) : EuiccPackage := psmoPackage (.disable iccid)

def delete (iccid : Bytes) : EuiccPackage := psmoPackage (.delete iccid)

def defaultProfileInfoListTagList : Bytes :=
  [0x5a, 0x4f, 0x9f, 0x70, 0x91, 0x92, 0x95, 0x9f, 0x7b, 0x9f, 0x26, 0x9f, 0x67]

def profileInfoListRequest : Tlv :=
  .constructed (contextConstructed 45)
    [.primitive (TagClass.application.primitive 28) defaultProfileInfoListTagList]

def listProfileInfo : EuiccPackage := psmoPackage (.listProfileInfo (some profileInfoListRequest))

def getRAT : EuiccPackage := psmoPackage .getRAT

def configureImmediateEnable (immediate : Bool) (defaultSMDPOID : ObjectIdentifier)
    (defaultSMDPAddress : Bytes) : EuiccPackage :=
  psmoPackage (.configureImmediateEnable (some
    ⟨immediate, defaultSMDPOID, if defaultSMDPAddress = [] then none else some defaultSMDPAddress⟩))

def setFallbackAttribute (iccid : Bytes) : EuiccPackage := psmoPackage (.setFallbackAttribute iccid)

def unsetFallbackAttribute : EuiccPackage := psmoPackage .unsetFallbackAttribute

def setDefaultDPAddress (defaultDPAddress : Bytes) : EuiccPackage :=
  psmoPackage (.setDefaultDPAddress (some ⟨defaultDPAddress⟩))

def addEIM (config : EimConfigurationData) : EuiccPackage := ecoPackage (.addEIM (some config))

def deleteEIM (eimID : Bytes) : EuiccPackage := ecoPackage (.deleteEIM eimID)

def updateEIM (config : EimConfigurationData) : EuiccPackage := ecoPackage (.updateEIM (some config))

def listEIM : EuiccPackage := ecoPackage .listEIM

/-! ## eIM configuration data -/

variable (B : Bertlv)

def parseSingleTLV (data : Bytes) : Except Error Tlv :=
  match B.readFrom data with
  | .error .eof => .error (.message "truncated BER-TLV input")
  | .error .malformed => .error (.message "bertlv: read TLV")
  | .ok (tlv, n) =>
      if n ≠ data.length then .error (.message "trailing data after BER-TLV object") else .ok tlv

def newEIMConfigurationData (eimID eimFQDN : Bytes) (counterValue : Int) (kind : X509ChoiceKind)
    (x509DER : Bytes) : Except Error EimConfigurationData := do
  if eimID = [] then throw (.message "euiccpkg: missing eIM ID")
  if x509DER = [] then throw (.message "euiccpkg: missing eIM public key data")
  let x509TLV ← parseSingleTLV B x509DER
  return {
    eimID := eimID
    eimFQDN := if eimFQDN = [] then none else some eimFQDN
    counterValue := some counterValue
    eimPublicKeyData := some ⟨kind, x509TLV⟩ }

/-! ## Signing -/

structure Signer where
  sign : Bytes → Except Error Bytes
  /-- empty where there is no certificate -/
  certificateDER : Bytes
  /-- `x509.MarshalPKIXPublicKey` of the public key -/
  publicKeyDER : Except Error Bytes

structure Service where
  eimID : Bytes
  signer : Signer

structure SignInput where
  tenantID : TenantID
  eid : Bytes
  eidValue : Bytes
  eimTransactionID : Option Bytes
  package : EuiccPackage
  associationToken : Option Int := none

variable (S : Service)

/-- The object under the signature, with the counter that was drawn for it. -/
def SignInput.signed (input : SignInput) (counter : Int) : EuiccPackageSigned :=
  ⟨S.eimID, input.eidValue, counter, input.eimTransactionID, input.package⟩

/-- The token of the caller, else the stored one. -/
def signingToken (input : SignInput) : StoreM (Option Int) :=
  match input.associationToken with
  | some token => pure (some token)
  | none => associationTokenForEIM B input.tenantID input.eid S.eimID

/-- What follows the draw of the counter: encoding, and the signature over the encoding. -/
def signDrawn (input : SignInput) (counter : Int) : StoreM SignedRequest := do
  let signed := input.signed S counter
  let signedDER ← ofExcept (Asn1.encode B (signed.marshalBERTLV B))
  let token ← signingToken B S input
  let signedInput ← ofExcept (signatureInput B signedDER token)
  let signature ← ofExcept (S.signer.sign signedInput)
  let der ← ofExcept (Asn1.encode B (EuiccPackageRequest.marshalBERTLV B ⟨signed, signature⟩))
  return {
    der := der
    signedDER := signedDER
    signatureInput := signedInput
    tenantID := input.tenantID
    eid := input.eid
    eidValue := input.eidValue
    eimID := S.eimID
    counterValue := counter
    eimTransactionID := input.eimTransactionID
    package := input.package }

/-- The checks of `Service.Sign`, and the counter it draws. -/
def drawCounter (input : SignInput) : StoreM Int :=
  if S.eimID = [] then fail (.message "euiccpkg: missing eIM ID")
  else if input.eid = [] then fail (.message "euiccpkg: missing EID")
  else nextEUICCPackageCounter input.tenantID input.eid

/-- `Service.Sign`. -/
def sign (input : SignInput) : StoreM SignedRequest := do
  let counter ← drawCounter S input
  signDrawn B S input counter

/-! ## Applying results -/

variable (C : Crypto)

/-- The token of the caller, else the stored one. -/
def verifyingToken (input : ResultInput) (request : SignedRequest) : StoreM (Option Int) :=
  match input.associationToken with
  | some token => pure (some token)
  | none => associationTokenForEIM B request.tenantID request.eid S.eimID

def Result.status (result : Result) : OperationStatus := if result.ok then .done else .failed

/-- The result is recorded when the caller names an operation or a sequence number. -/
def recordVerifiedResult (input : ResultInput) (request : SignedRequest) (result : Result) :
    StoreM Unit :=
  if input.operationID ≠ 0 ∨ input.sequenceNumber ≠ 0 then
    recordEUICCPackageResult request.tenantID
      ⟨request.eid, input.operationID, input.sequenceNumber, result.status, input.resultDER⟩
  else pure ()

def applyVerifiedResult (request : SignedRequest) (result : Result) : StoreM Unit :=
  if result.ok then
    applyPackageResultState B request.tenantID request.eid request.package (some result)
  else pure ()

/-- `Service.VerifyAndApplyResult`. -/
def verifyAndApplyResult (input : ResultInput) : StoreM Result :=
  match input.request with
  | none => fail (.message "euiccpkg: missing signed request")
  | some request => do
      let token ← verifyingToken B S input request
      let result ← ofExcept (verifyPackageResult B C { input with associationToken := token })
      recordVerifiedResult input request result
      applyVerifiedResult B request result
      return result

end OpenIotRsp.Euiccpkg
