import OpenIotRsp.Model.Asn1.IpaData

/-!
# ESipa messages

`asn1/esipa.go`: the messages of the polling interface, in the direction the
eIM reads or writes them.
-/

namespace OpenIotRsp.Asn1

open Octets Ber

section

variable (B : Bertlv)

def tagHandleNotify : Tag := contextConstructed 61

/-! ## From the IPA -/

/-- A context specific constructed tag with one of the numbers. -/
def isAllowedTag (tlv : Tlv) (numbers : List Nat) : Bool :=
  numbers.any fun number => tlv.tag = contextConstructed number

/-- The envelope is kept as it is. -/
def ESipaMessageFromIpaToEim.unmarshalBERTLV (tlv : Tlv) : Except Error Tlv :=
  if isAllowedTag tlv [57, 59, 58, 65, 61, 78, 79, 80] then .ok tlv
  else .error (.message "asn1: unexpected tag: invalid IPA-to-eIM ESipa tag")

structure GetEimPackageRequest where
  eid : Bytes
  notifyStateChange : Bool
  stateChangeCause : Option Int
  rplmn : Option Bytes
deriving DecidableEq

def GetEimPackageRequest.unmarshalBERTLV (tlv : Tlv) : Except Error GetEimPackageRequest := do
  expectTag tlv tagGetEimPackage
  return {
    eid := ← octetValue (tlv.first tagEID)
    notifyStateChange := (tlv.first (context 0)).isSome
    stateChangeCause := ← optionalValue (tlv.first (context 1)) fun child => integerValue B child
    rplmn := (tlv.first (context 2)).map Tlv.value }

structure EimPackageResultResponseError where
  eimTransactionID : Option Bytes
  code : Int
deriving DecidableEq

def EimPackageResultResponseError.unmarshalBERTLV (tlv : Tlv) :
    Except Error EimPackageResultResponseError := do
  expectTag tlv tagSequence
  return ⟨(tlv.first (context 0)).map Tlv.value, ← integerValue B (tlv.first tagInteger)⟩

inductive EimPackageResultChoice where
  | euiccPackage (result : EuiccPackageResult)
  | eprAndNotifications (result : Option EuiccPackageResult)
      (notifications : Option (List PendingNotification))
  | ipaEuiccData (response : IpaEuiccDataResponse)
  | profileDownload (result : ProfileDownloadTriggerResult)
  | error (error : EimPackageResultResponseError)
deriving DecidableEq

structure EimPackageResult where
  choice : EimPackageResultChoice
  raw : Tlv
deriving DecidableEq

def isEimPackageResultTLV (tlv : Tlv) : Bool :=
  tlv.tag = tagEuiccPkg ∨ tlv.tag = tagIpaEuiccData ∨ tlv.tag = tagDownloadTrig ∨
    tlv.tag = contextConstructed 0 ∨ tlv.tag = tagInteger ∨
    tlv.tag = tagSequence ∧ (tlv.children.head?.map Tlv.tag) = some tagEuiccPkg

def EimPackageResult.unmarshalChoice (tlv : Tlv) : Except Error EimPackageResultChoice :=
  if tlv.tag = tagEuiccPkg then do
    return .euiccPackage (← EuiccPackageResult.unmarshalBERTLV B tlv)
  else if tlv.tag = tagSequence then do
    let result ← optionalValue (tlv.first tagEuiccPkg) (EuiccPackageResult.unmarshalBERTLV B)
    let notifications ← optionalValue (tlv.first tagNotificationList)
      (PendingNotificationList.unmarshalBERTLV B)
    return .eprAndNotifications result notifications
  else if tlv.tag = tagIpaEuiccData then do
    return .ipaEuiccData (← IpaEuiccDataResponse.unmarshalBERTLV B tlv)
  else if tlv.tag = tagDownloadTrig then do
    return .profileDownload (← ProfileDownloadTriggerResult.unmarshalBERTLV B tlv)
  else if tlv.tag = contextConstructed 0 then do
    return .error (← EimPackageResultResponseError.unmarshalBERTLV B
      (.constructed tagSequence tlv.children))
  else do return .error ⟨none, ← integerValue B tlv⟩

def EimPackageResult.unmarshalBERTLV (tlv : Tlv) : Except Error EimPackageResult :=
  if isEimPackageResultTLV tlv then do return ⟨← EimPackageResult.unmarshalChoice B tlv, tlv⟩
  else .error (.unknownTag "EimPackageResult" tlv.tag)

structure ProvideEimPackageResult where
  eid : Option Bytes
  eimPackageResult : EimPackageResult
deriving DecidableEq

def ProvideEimPackageResult.unmarshalBERTLV (tlv : Tlv) : Except Error ProvideEimPackageResult := do
  expectTag tlv tagProvideEimResult
  match tlv.children.find? fun child => child.tag ≠ tagEID with
  | some child =>
      return ⟨(tlv.first tagEID).map Tlv.value, ← EimPackageResult.unmarshalBERTLV B child⟩
  | none => throw (.message "asn1: missing EimPackageResult")

/-- The selected child is what the handler reads; the rest is checked for decoding errors. -/
structure TransferEimPackageResponse where
  raw : Tlv
deriving DecidableEq

def TransferEimPackageResponse.checkChild (child : Tlv) : Except Error Unit :=
  if child.tag = tagEuiccPkg ∨ child.tag = tagSequence then do
    let _ ← EimPackageResult.unmarshalBERTLV B child
  else if child.tag = tagIpaEuiccData then do
    let _ ← IpaEuiccDataResponse.unmarshalBERTLV B child
  else if child.tag = tagNull ∨ child.tag = contextConstructed 96 then .ok ()
  else if child.tag = tagInteger then do
    let _ ← integerValue B child
  else if child.tag = contextConstructed 97 then do
    let _ ← integerValue B (child.first tagInteger)
  else .error (.unknownTag "TransferEimPackageResponse child" child.tag)

def TransferEimPackageResponse.unmarshalBERTLV (tlv : Tlv) :
    Except Error TransferEimPackageResponse := do
  expectTag tlv tagTransferEimPackage
  match tlv.children with
  | [child] =>
      TransferEimPackageResponse.checkChild B child
      return ⟨child⟩
  | _ => throw (.message "asn1: TransferEimPackageResponse requires one selected child")

/-! ## To the IPA -/

/-- The envelope is kept as it is. -/
def ESipaMessageFromEimToIpa.unmarshalBERTLV (tlv : Tlv) : Except Error Tlv :=
  if isAllowedTag tlv [57, 59, 58, 65, 78, 79, 80] then .ok tlv
  else .error (.message "asn1: unexpected tag: invalid eIM-to-IPA ESipa tag")

inductive GetEimPackageResponse where
  | euiccPackageRequest (request : EuiccPackageRequest)
  | ipaEuiccDataRequest (raw : Tlv)
  | profileDownloadTriggerRequest (request : ProfileDownloadTriggerRequest)
  | error (code : Int)
deriving DecidableEq

def GetEimPackageResponse.marshalBERTLV (r : GetEimPackageResponse) : Except Error Tlv := do
  let child ← match r with
    | .euiccPackageRequest request => request.marshalBERTLV B
    | .ipaEuiccDataRequest raw => pure raw
    | .profileDownloadTriggerRequest request => pure request.marshalBERTLV
    | .error code => integerTLV B tagInteger code
  return .constructed tagGetEimPackage [child]

inductive ProvideEimPackageResultResponse where
  | acknowledgements (ack : EimAcknowledgements)
  | empty
  | error (code : Int)
deriving DecidableEq

def ProvideEimPackageResultResponse.marshalBERTLV (r : ProvideEimPackageResultResponse) :
    Except Error Tlv := do
  let child ← match r with
    | .acknowledgements ack => ack.marshalBERTLV B
    | .empty => pure (.constructed tagSequence [])
    | .error code => integerTLV B tagInteger code
  return .constructed tagProvideEimResult [child]

def ProvideEimPackageResultResponse.unmarshalBERTLV (tlv : Tlv) :
    Except Error ProvideEimPackageResultResponse := do
  expectTag tlv tagProvideEimResult
  match tlv.children with
  | [child] =>
      if child.tag = tagEimAck then
        return .acknowledgements (← EimAcknowledgements.unmarshalBERTLV B child)
      else if child.tag = tagSequence then return .empty
      else if child.tag = tagInteger then return .error (← integerValue B child)
      else throw (.unknownTag "ProvideEimPackageResultResponse child" child.tag)
  | _ => throw (.message "asn1: ProvideEimPackageResultResponse requires one selected child")

/-- `TransferEimPackageRequest` with the acknowledgements arm, the only one the handler sends. -/
def transferAcknowledgements (ack : EimAcknowledgements) : Except Error Tlv := do
  return .constructed tagTransferEimPackage [← ack.marshalBERTLV B]

end

end OpenIotRsp.Asn1
