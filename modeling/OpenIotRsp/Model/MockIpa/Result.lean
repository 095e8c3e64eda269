import OpenIotRsp.Model.Euiccpkg.Verify
import OpenIotRsp.Model.MockIpa.Device

/-!
# Results of the mock IPA

`mockipa/signing.go` and the result data of `mockipa/runner.go`.  What is taken
from outside of the repository (the BER-TLV package, the hash, the key of the
eUICC) is a parameter.  A function that panics on an error returns the error
here: both end the process.
-/

namespace OpenIotRsp.MockIpa

open Octets Ber Asn1 Euiccpkg

/-- The `SGP26Fixture` of an IPA, and the functions it calls. -/
structure Fixture where
  bertlv : Bertlv
  sha256 : Bytes → Bytes
  /-- `ecdsa.SignASN1` with the eUICC key, for the n-th time: it draws random numbers -/
  signASN1 : Nat → Bytes → Except Error Bytes

section

variable (F : Fixture)

/-! ## Result data -/

def psmoResultData (device : DeviceState) :
    Psmo → Except Error (EuiccResultData × OperationKind)
  | .enable .. => do return (← integerEuiccResult F.bertlv 3 0, .enable)
  | .disable _ => do return (← integerEuiccResult F.bertlv 4 0, .disable)
  | .delete _ => do return (← integerEuiccResult F.bertlv 5 0, .delete)
  | .listProfileInfo _ => do
      return (← profileInfoListEuiccResult F.bertlv ⟨device.profileInfos, none⟩, .listProfileInfo)
  | .getRAT => .ok (⟨.constructed (contextConstructed 6) []⟩, .getRAT)
  | .configureImmediateEnable _ => do
      return (← integerEuiccResult F.bertlv 7 0, .configureImmediateEnable)
  | .setFallbackAttribute _ => do
      return (← integerEuiccResult F.bertlv 13 0, .setFallbackAttribute)
  | .unsetFallbackAttribute => do
      return (← integerEuiccResult F.bertlv 14 0, .unsetFallbackAttribute)
  | .setDefaultDPAddress _ => do
      return (← setDefaultDPAddressEuiccResult F.bertlv ⟨0⟩, .setDefaultDPAddress)

/-- An eIM is deleted as if it were the last one. -/
def ecoResultData (eimID : Bytes) : Eco → Except Error (EuiccResultData × OperationKind)
  | .addEIM config => do
      return (← addEimEuiccResult F.bertlv (.associationToken ((config.map addedToken).getD 1)),
        .addEIM)
  | .deleteEIM _ => do return (← integerEuiccResult F.bertlv 9 2, .deleteEIM)
  | .updateEIM _ => do return (← integerEuiccResult F.bertlv 10 0, .updateEIM)
  | .listEIM => do
      return (← listEimEuiccResult F.bertlv (.eimIDList [⟨eimID, none⟩]), .listEIM)

def successfulResultData (pkg : EuiccPackage) (eimID : Bytes) (device : DeviceState) :
    Except Error (EuiccResultData × OperationKind) :=
  match pkg with
  | .psmo [psmo] => psmoResultData F device psmo
  | .psmo _ => .error (.message "mockipa: only single PSMO eUICC packages are supported")
  | .eco [eco] => ecoResultData F eimID eco
  | .eco _ => .error (.message "mockipa: only single ECO eUICC packages are supported")

/-! ## Signed results -/

def marshalBinary (tlv : Tlv) : Except Error Bytes :=
  match F.bertlv.marshalBinary tlv with
  | some payload => .ok payload
  | none => .error (.message "bertlv: marshal TLV")

def signSGP32Marshaler (draw : Nat) (marshaled : Except Error Tlv) (associationToken : Option Int) :
    Except Error Bytes := do
  let payload ← marshalBinary F (← marshaled)
  let input ← signatureInput F.bertlv payload associationToken
  F.signASN1 draw (F.sha256 input)

/-- The data under the signature repeats the identifiers of the request. -/
def resultDataSigned (request : EuiccPackageRequest) (sequenceNumber : Int)
    (resultData : EuiccResultData) : EuiccPackageResultDataSigned where
  eimID := request.euiccPackageSigned.eimID
  counterValue := request.euiccPackageSigned.counterValue
  eimTransactionID := request.euiccPackageSigned.eimTransactionID
  seqNumber := sequenceNumber
  results := [resultData]

def signedEUICCPackageResult (draw : Nat) (device : DeviceState) (request : EuiccPackageRequest)
    (sequenceNumber : Int) : Except Error (EuiccPackageResult × OperationKind) := do
  let (resultData, operation) ← successfulResultData F request.euiccPackageSigned.euiccPackage
    request.euiccPackageSigned.eimID device
  let data := resultDataSigned request sequenceNumber resultData
  let signature ← signSGP32Marshaler F draw (data.marshalBERTLV F.bertlv)
    (device.associationToken request.euiccPackageSigned.eimID)
  return (.ok ⟨data, signature⟩, operation)

end

end OpenIotRsp.MockIpa
