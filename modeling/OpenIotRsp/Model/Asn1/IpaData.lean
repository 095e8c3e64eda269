import OpenIotRsp.Model.Asn1.Result

/-!
# IPA eUICC data

`asn1/ipadata.go`: the BF52 request, and the response as the eIM reads it.
What is decoded from a kept TLV and never read again (the capabilities, the
versions in the eUICC information) keeps its decoding errors only.
-/

namespace OpenIotRsp.Asn1

open Octets Ber

section

variable (B : Bertlv)

def tagTagList : Tag := TagClass.application.primitive 28
def tagEUICCInfo1 : Tag := contextConstructed 32
def tagEUICCInfo2 : Tag := contextConstructed 34
def tagIPACapabilities : Tag := contextConstructed 8
def tagBitString : Tag := TagClass.universal.primitive 3

/-! ## Requests -/

inductive IpaEuiccDataNotificationSearchCriteria where
  | seqNumber (value : Int)
  | profileManagementOperation (raw : Tlv)
deriving DecidableEq

structure IpaEuiccDataRequest where
  tagList : Bytes
  euiccCIPKIdentifierToBeUsed : Option Bytes := none
  searchCriteriaNotification : Option IpaEuiccDataNotificationSearchCriteria := none
  searchCriteriaEuiccPackageResult : Option Int := none
  eimTransactionID : Option Bytes := none
deriving DecidableEq

def IpaEuiccDataNotificationSearchCriteria.unmarshal (tlv : Tlv) :
    Except Error IpaEuiccDataNotificationSearchCriteria :=
  match tlv.children with
  | [child] =>
      if child.tag = context 0 then do return .seqNumber (← integerValue B child)
      else if child.tag = context 1 then .ok (.profileManagementOperation child)
      else .error (.unknownTag "notification search criteria" child.tag)
  | _ => .error (.message "asn1: notification search criteria requires one choice")

def IpaEuiccDataRequest.unmarshalBERTLV (tlv : Tlv) : Except Error IpaEuiccDataRequest := do
  expectTag tlv tagIpaEuiccData
  let tagList ← octetValue (tlv.first tagTagList)
  let criteria ← optionalValue (tlv.first (contextConstructed 1))
    (IpaEuiccDataNotificationSearchCriteria.unmarshal B)
  let packageResult ← optionalValue (tlv.first (contextConstructed 2)) fun child =>
    integerValue B (child.first (context 0))
  return ⟨tagList, (tlv.first tagOctet).map Tlv.value, criteria, packageResult,
    (tlv.first (context 3)).map Tlv.value⟩

/-! ## Responses -/

structure EUICCInfo where
  verificationCIPKIDs : List Bytes
  signingCIPKIDs : List Bytes
  signingV3CIPKIDs : List Bytes
deriving DecidableEq

def subjectKeyIdentifiers : Option Tlv → List Bytes
  | none => []
  | some tlv => tlv.children.map Tlv.value

def unmarshalEUICCInfo (tlv : Tlv) : EUICCInfo :=
  ⟨subjectKeyIdentifiers (tlv.first (contextConstructed 9)),
    subjectKeyIdentifiers (tlv.first (contextConstructed 10)),
    subjectKeyIdentifiers (tlv.first (contextConstructed 17))⟩

/-- Only the errors of the two bit strings matter. -/
def unmarshalIPACapabilities (tlv : Tlv) : Except Error Unit := do
  let _ ← optionalValue (tlv.first (context 0)) fun child => bitStringValue child
  let _ ← optionalValue (tlv.first (context 1)) fun child => bitStringValue child

structure IpaEuiccDataResponseError where
  eimTransactionID : Option Bytes
  code : Int
deriving DecidableEq

structure IpaEuiccData where
  eid : Option Bytes := none
  notifications : List PendingNotification := []
  notificationsRaw : Option Tlv := none
  defaultSMDPAddress : Option Bytes := none
  euiccPackageResults : List EuiccPackageResult := []
  euiccPackageResultRaw : Option Tlv := none
  euiccInfo1 : Option EUICCInfo := none
  euiccInfo1Raw : Option Tlv := none
  euiccInfo2 : Option EUICCInfo := none
  euiccInfo2Raw : Option Tlv := none
  rootSMDSAddress : Option Bytes := none
  associationToken : Option Int := none
  eumCertificateRaw : Option Tlv := none
  euiccCertificateRaw : Option Tlv := none
  eimTransactionID : Option Bytes := none
  ipaCapabilitiesRaw : Option Tlv := none
  deviceInfoRaw : Option Tlv := none
  profileInfoListPresent : Bool := false
  profiles : List ProfileInfo := []
  rawObjects : List Tlv := []
deriving DecidableEq

inductive IpaEuiccDataResponse where
  | data (data : IpaEuiccData)
  | error (error : IpaEuiccDataResponseError)
deriving DecidableEq

def unmarshalEuiccPackageResultList (tlv : Tlv) : Except Error (List EuiccPackageResult) :=
  tlv.children.mapM (EuiccPackageResult.unmarshalBERTLV B)

/-- The profiles that one package result lists; a list that does not decode counts as empty. -/
def profilesFromPackageResult : EuiccPackageResult → List ProfileInfo
  | .ok signed =>
      (signed.data.results.filter fun item => item.raw.tag = tagProfileInfoList).flatMap fun item =>
        match ProfileInfoListResponse.unmarshalBERTLV B item.raw with
        | .ok decoded => decoded.profiles
        | .error _ => []
  | _ => []

def profilesFromPackageResults (results : List EuiccPackageResult) : List ProfileInfo :=
  results.flatMap (profilesFromPackageResult B)

/-- The `switch` of `IpaEuiccData.unmarshal`: a later object replaces an earlier one with its tag,
and profile lists add up. -/
def IpaEuiccData.unmarshalObject (out : IpaEuiccData) (child : Tlv) : Except Error IpaEuiccData :=
  if child.tag = tagEID then .ok { out with eid := child.value }
  else if child.tag = contextConstructed 0 then do
    let notifications ← PendingNotificationList.unmarshalBERTLV B child
    return { out with notificationsRaw := child, notifications := notifications }
  else if child.tag = context 1 then .ok { out with defaultSMDPAddress := child.value }
  else if child.tag = contextConstructed 2 then do
    let results ← unmarshalEuiccPackageResultList B child
    return { out with
      euiccPackageResultRaw := child
      euiccPackageResults := results
      profiles := out.profiles ++ profilesFromPackageResults B results }
  else if child.tag = tagEUICCInfo1 then
    .ok { out with euiccInfo1Raw := child, euiccInfo1 := unmarshalEUICCInfo child }
  else if child.tag = tagEUICCInfo2 then
    .ok { out with euiccInfo2Raw := child, euiccInfo2 := unmarshalEUICCInfo child }
  else if child.tag = context 3 then .ok { out with rootSMDSAddress := child.value }
  else if child.tag = context 4 then do
    let token ← integerValue B child
    return { out with associationToken := token }
  else if child.tag = contextConstructed 5 then .ok { out with eumCertificateRaw := child }
  else if child.tag = contextConstructed 6 then .ok { out with euiccCertificateRaw := child }
  else if child.tag = context 7 then .ok { out with eimTransactionID := child.value }
  else if child.tag = tagIPACapabilities then do
    unmarshalIPACapabilities child
    return { out with ipaCapabilitiesRaw := child }
  else if child.tag = contextConstructed 9 then .ok { out with deviceInfoRaw := child }
  else if child.tag = tagProfileInfoList then do
    let decoded ← ProfileInfoListResponse.unmarshalBERTLV B child
    return { out with
      profileInfoListPresent := true
      profiles := out.profiles ++ decoded.profiles }
  else .ok out

def IpaEuiccData.unmarshal (tlv : Tlv) : Except Error IpaEuiccData :=
  tlv.children.foldlM (fun out child =>
    IpaEuiccData.unmarshalObject B { out with rawObjects := out.rawObjects ++ [child] } child) {}

/-- A sole [0] is the success arm unless all its children are pending notifications. -/
def isIpaEuiccDataSuccessChoiceArm (tlv : Tlv) : Bool :=
  tlv.children = [] ∨ tlv.children.any fun child =>
    child.tag = contextConstructed 0 ∨ !isPendingNotificationTLV child

def unwrapIpaEuiccDataResponseChoice (tlv : Tlv) : Tlv × Bool :=
  match tlv.children with
  | [child] =>
      if child.tag = contextConstructed 0 ∧ isIpaEuiccDataSuccessChoiceArm child then
        (.constructed tagIpaEuiccData child.children, false)
      else if child.tag = contextConstructed 1 then
        (.constructed tagIpaEuiccData child.children, true)
      else (tlv, false)
  | _ => (tlv, false)

def IpaEuiccDataResponseError.unmarshal (tlv : Tlv) : Except Error IpaEuiccDataResponseError := do
  return ⟨(tlv.first (context 0)).map Tlv.value, ← integerValue B (tlv.first tagInteger)⟩

def IpaEuiccDataResponse.unmarshalBERTLV (tlv : Tlv) : Except Error IpaEuiccDataResponse := do
  expectTag tlv tagIpaEuiccData
  let (content, isError) := unwrapIpaEuiccDataResponseChoice tlv
  if isError ∨ (content.first tagInteger).isSome then
    return .error (← IpaEuiccDataResponseError.unmarshal B content)
  else return .data (← IpaEuiccData.unmarshal B content)

/-- The data objects of a success response; none for an error response. -/
def ipaEuiccDataObjects (tlv : Tlv) : List Tlv :=
  let (content, isError) := unwrapIpaEuiccDataResponseChoice tlv
  if isError ∨ (content.first tagInteger).isSome then [] else content.children

/-! ## Certificates -/

/-- The Certificate under a tagged wrapper, nested as one SEQUENCE or spread over three fields. -/
def certificateTLV (wrapper : Tlv) : Option Tlv :=
  match wrapper.children with
  | [certificate] => if certificate.tag = tagSequence then some certificate else none
  | tbs :: algorithm :: signature :: _ =>
      if tbs.tag = tagSequence ∧ algorithm.tag = tagSequence ∧ signature.tag = tagBitString then
        some (.constructed tagSequence [tbs, algorithm, signature])
      else none
  | _ => none

def certificateDERFromTagged (wrapper : Option Tlv) : Option Bytes :=
  (wrapper.bind certificateTLV).bind B.marshalBinary

end

end OpenIotRsp.Asn1
