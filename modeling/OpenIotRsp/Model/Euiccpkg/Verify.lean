import OpenIotRsp.Model.Euiccpkg.RawTlv
import OpenIotRsp.Model.Euiccpkg.Result
import OpenIotRsp.Model.Storage.Record

/-!
# Verification of package results

The verifying part of `euiccpkg/service.go` and `pki/ecdsa_tr03111.go`.  The
hash and the ECDSA equations stay uninterpreted.
-/

namespace OpenIotRsp.Euiccpkg

open Octets Ber Asn1

/-! ## Signatures -/

structure EcdsaPublicKey where
  curveBitSize : Nat
  x : Nat
  y : Nat
deriving DecidableEq

/-- A `crypto.PublicKey`: an ECDSA key, by pointer or by value, or any other type. -/
inductive PublicKey where
  | ecdsa (key : EcdsaPublicKey)
  | unsupported
deriving DecidableEq

structure Crypto where
  sha256 : Bytes → Bytes
  /-- `ecdsa.VerifyASN1` on a digest and a DER signature -/
  verifyASN1 : EcdsaPublicKey → Bytes → Bytes → Bool
  /-- `ecdsa.Verify` on a digest and the numbers r and s -/
  verify : EcdsaPublicKey → Bytes → Nat → Nat → Bool

variable (B : Bertlv) (C : Crypto)

def verifyECDSATR03111 (key : EcdsaPublicKey) (digest sig : Bytes) : Except Error Bool :=
  let size := (key.curveBitSize + 7) / 8
  if sig.length ≠ 2 * size then .error (.message "pki: TR-03111 signature length")
  else .ok (C.verify key digest (ofBigEndian (sig.take size)) (ofBigEndian (sig.drop size)))

def verifySignedBytes (publicKey : PublicKey) (signedData signature : Bytes) : Except Error Unit :=
  match publicKey with
  | .unsupported => .error (.message "euiccpkg: unsupported eUICC public key type")
  | .ecdsa key =>
      if signedData = [] then .error (.message "euiccpkg: missing raw signed data")
      else if C.verifyASN1 key (C.sha256 signedData) signature then .ok ()
      else
        match verifyECDSATR03111 C key (C.sha256 signedData) signature with
        | .ok true => .ok ()
        | _ => .error .signatureInvalid

def associationTokenTLV (value : Int) : Except Error Bytes :=
  match B.marshalInt value with
  | none => .error (.message "primitive: marshal INTEGER")
  | some octets =>
      match B.marshalBinary (.primitive (context 4) octets) with
      | none => .error (.message "bertlv: marshal TLV")
      | some token => .ok token

/-- The octets under a signature: the signed object, then the association token, zero by default. -/
def signatureInput (signedDER : Bytes) (associationToken : Option Int) : Except Error Bytes := do
  let token ← associationTokenTLV B (associationToken.getD 0)
  return signedDER ++ token

/-! ## Requests and results -/

structure SignedRequest where
  der : Bytes := []
  signedDER : Bytes := []
  signatureInput : Bytes := []
  tenantID : Storage.TenantID := []
  eid : Bytes := []
  eidValue : Bytes := []
  eimID : Bytes
  counterValue : Int
  eimTransactionID : Option Bytes
  package : EuiccPackage
deriving DecidableEq

/-- A `sequenceNumber` of zero skips the comparison with the eUICC's sequence number. -/
structure ResultInput where
  request : Option SignedRequest
  resultDER : Bytes
  euiccPublicKey : PublicKey
  associationToken : Option Int := none
  operationID : Int := 0
  sequenceNumber : Int := 0
deriving DecidableEq

/-- `bytes.Equal`, for which a nil slice is an empty one. -/
def sameTransaction (a b : Option Bytes) : Bool := a.getD [] = b.getD []

def matchSignedResult (request : SignedRequest) (wantSequence : Int) (eimID : Bytes)
    (counter : Int) (transactionID : Option Bytes) (sequence : Int) : Except Error Unit :=
  if eimID ≠ request.eimID ∨ !sameTransaction transactionID request.eimTransactionID then
    .error (.transactionMismatch "signed result does not match eIM ID or transaction ID")
  else if counter ≠ request.counterValue then .error (.counterMismatch counter request.counterValue)
  else if wantSequence ≠ 0 ∧ sequence ≠ wantSequence then .error (.transactionMismatch "sequence")
  else .ok ()

/-- A `rawSignedData` that the raw parser left at nil counts as empty. -/
def verifyResult (decoded : EuiccPackageResult) (request : SignedRequest) (input : ResultInput)
    (rawSignedData : Option Bytes) : Except Error Result := do
  let signedInput ← signatureInput B (rawSignedData.getD []) input.associationToken
  match decoded with
  | .ok signed =>
      verifySignedBytes C input.euiccPublicKey signedInput signed.euiccSignEPR
      let data := signed.data
      matchSignedResult request input.sequenceNumber data.eimID data.counterValue
        data.eimTransactionID data.seqNumber
      operationResult B request.package data.results
  | .errorSigned error =>
      verifySignedBytes C input.euiccPublicKey signedInput error.euiccSignEPE
      let data := error.data
      matchSignedResult request 0 data.eimID data.counterValue data.eimTransactionID 0
      return {
        packageError := mapPackageError data.errorCode
        rawPackageError := data.errorCode }
  | .errorUnsigned data =>
      if data.eimID ≠ request.eimID ∨
          !sameTransaction data.eimTransactionID request.eimTransactionID then
        throw (.transactionMismatch "unsigned error does not match eIM ID or transaction ID")
      match data.errorCode with
      | none => return { unsignedPackageError := UnsignedPackageError.missing }
      | some code =>
          return {
            unsignedPackageError := mapUnsignedPackageError code
            rawUnsignedError := code }

def verifyPackageResult (input : ResultInput) : Except Error Result :=
  match input.request with
  | none => .error (.message "euiccpkg: missing signed request")
  | some request => do
      let decoded ← Asn1.decode B (EuiccPackageResult.unmarshalBERTLV B) input.resultDER
      let rawSignedData ← rawSignedDataFromResultDER input.resultDER
      verifyResult B C decoded request input rawSignedData

end OpenIotRsp.Euiccpkg
