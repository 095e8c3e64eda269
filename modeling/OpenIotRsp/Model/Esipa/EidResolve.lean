import OpenIotRsp.Model.Asn1.Esipa
import OpenIotRsp.Model.Ipadata

/-!
# The device of a result

`esipa/eid_recover.go`, `esipa/eid_resolve.go` and `pki/eid.go`: which device a
provided result belongs to.
-/

namespace OpenIotRsp.Esipa

open Octets Ber Stateful Asn1 Storage Ipadata

def getEimPackageErrorNoPackage : Int := 1
def getEimPackageErrorEIDNotFound : Int := 2
def getEimPackageErrorInvalidEID : Int := 3
def getEimPackageErrorMissingEID : Int := 4

def provideResultErrorEIDNotFound : Int := 2

/-- The store key of a device, or the error code for an EID of the wrong length. -/
def eidKey (eid : Bytes) : Except Int Bytes :=
  if eid.length = 0 then .error getEimPackageErrorMissingEID
  else if eid.length = 16 then .ok (Hex.encode eid)
  else .error getEimPackageErrorInvalidEID

variable (B : Bertlv) (X : X509)

/-! ## Recovery from the payload -/

def eidHexFromCertificate (certDER : Bytes) : Option Bytes :=
  if certDER = [] then none
  else
    (X.parseCertificate certDER).bind fun certificate =>
      let eid := Text.trimSpace certificate.subjectSerialNumber
      if eid.length = 32 ∧ (Hex.decode eid).isSome then some (Text.toLower eid) else none

def eidFromEUICCCertificateTLV (wrapper : Tlv) : Option Bytes :=
  ((certificateDERFromTagged B wrapper).bind (eidHexFromCertificate X)).bind fun eidHex =>
    (Hex.decode eidHex).filter fun eid => eid.length = 16

def recoverEIDFromIpaEuiccDataTLV (tlv : Tlv) : Option Bytes :=
  let objects := ipaEuiccDataObjects tlv
  match objects.find? fun child => child.tag = tagEID ∧ child.value.length = 16 with
  | some child => some child.value
  | none =>
      (objects.filter fun child => child.tag = contextConstructed 6).findSome?
        (eidFromEUICCCertificateTLV B X)

/-- The EID field of a BF50, if it has the right length. -/
def provideResultEID (children : List Tlv) : Option Bytes :=
  ((children.find? fun child => child.tag = tagEID).map Tlv.value).filter fun eid =>
    eid.length = 16

mutual

def recoverEIDFromPackageResultTLV : Tlv → Option Bytes
  | .primitive _ _ => none
  | .constructed tag children =>
      if tag = tagProvideEimResult then
        (provideResultEID children).or (recoverEIDFromChildren children)
      else if tag = tagIpaEuiccData then
        recoverEIDFromIpaEuiccDataTLV B X (.constructed tag children)
      else none

def recoverEIDFromChildren : List Tlv → Option Bytes
  | [] => none
  | child :: rest =>
      if child.tag = tagEID then recoverEIDFromChildren rest
      else (recoverEIDFromPackageResultTLV child).or (recoverEIDFromChildren rest)

end

/-! ## Recovery from the transaction -/

mutual

/-- The value of the first [2] primitive in the tree, in document order. -/
def firstContextPrimitive2 : Tlv → Option Bytes
  | .primitive tag value => if tag = context 2 then some value else none
  | .constructed tag children =>
      if tag = context 2 then some [] else firstContextPrimitive2In children

def firstContextPrimitive2In : List Tlv → Option Bytes
  | [] => none
  | child :: rest => (firstContextPrimitive2 child).or (firstContextPrimitive2In rest)

end

def ipaEuiccDataTransactionID : IpaEuiccDataResponse → Option Bytes
  | .error error => error.eimTransactionID
  | .data data => data.eimTransactionID

def euiccPackageTransactionID : EuiccPackageResult → Option Bytes
  | .ok signed => signed.data.eimTransactionID
  | .errorSigned error => error.data.eimTransactionID
  | .errorUnsigned error => error.eimTransactionID

/-- `EimTransactionIDFromResultTLV`; a BF54 that does not decode has no other arm to decode as. -/
def eimTransactionIDFromResultTLV (tlv : Tlv) : Option Bytes :=
  if tlv.tag = tagIpaEuiccData then
    match IpaEuiccDataResponse.unmarshalBERTLV B tlv with
    | .ok response => ipaEuiccDataTransactionID response
    | .error _ => none
  else
    match ProfileDownloadTriggerResult.unmarshalBERTLV B tlv with
    | .ok result => result.eimTransactionID
    | .error _ =>
        match EuiccPackageResult.unmarshalBERTLV B tlv with
        | .ok result => euiccPackageTransactionID result
        | .error _ => firstContextPrimitive2 tlv

/-- The transaction identifier in the payload of a queued operation. -/
def operationTransactionID (operation : Operation) : Except Error (Option Bytes) :=
  match operation.kind with
  | .euiccPackage => do
      let request ← Asn1.decode B (EuiccPackageRequest.unmarshalBERTLV B) operation.payload
      return request.euiccPackageSigned.eimTransactionID
  | .ipaEuiccData => do
      let request ← Asn1.decode B (IpaEuiccDataRequest.unmarshalBERTLV B) operation.payload
      return request.eimTransactionID
  | .profileDownloadTrigger => do
      let request ← Asn1.decode B ProfileDownloadTriggerRequest.unmarshalBERTLV operation.payload
      return request.eimTransactionID
  | .other _ => .ok none

def operationMatchesEimTransactionID (operation : Operation) (transactionID : Bytes) :
    Except Error Bool := do
  if transactionID = [] then return false
  return (← operationTransactionID B operation).getD [] = transactionID

/-- The first operation of the transaction; one that does not decode ends the search. -/
def findTransaction (transactionID : Bytes) : List Operation → Except Error (Option Operation)
  | [] => .ok none
  | operation :: rest => do
      if ← operationMatchesEimTransactionID B operation transactionID then return some operation
      else findTransaction transactionID rest

/-- `ResolveProvideResultEID`: the explicit EID, else the one in the payload, else the device of the
pending operation with the transaction identifier.  An error code is a result, not an error. -/
def resolveProvideResultEID (tenantID : TenantID) (explicitEID : Option Bytes) (resultTLV : Tlv) :
    StoreM (Except Int Bytes) :=
  if explicitEID.getD [] ≠ [] then pure (eidKey (explicitEID.getD []))
  else
    match (recoverEIDFromPackageResultTLV B X resultTLV).filter fun eid => eid.length = 16 with
    | some recovered => pure (eidKey recovered)
    | none =>
        match eimTransactionIDFromResultTLV B resultTLV with
        | none | some [] => pure (.error getEimPackageErrorMissingEID)
        | some transactionID => do
            let pending ← listPendingOperations tenantID 10000
            match ← ofExcept (findTransaction B transactionID pending) with
            | some operation => return .ok operation.eid
            | none => return .error provideResultErrorEIDNotFound

end OpenIotRsp.Esipa
