import OpenIotRsp.Model.Asn1.EuiccPackage

/-!
# Package results and notifications

`asn1/result.go`: what the eUICC and the IPA send back, as the eIM decodes it.
-/

namespace OpenIotRsp.Asn1

open Octets Ber

section

variable (B : Bertlv)

/-! ## Profile download triggers -/

inductive ProfileDownloadData where
  | activationCode (code : Bytes)
  | contactDefaultSMDP
  | contactSMDS (address : Option Bytes)
deriving DecidableEq

def ProfileDownloadData.marshalBERTLV : ProfileDownloadData → Tlv
  | .activationCode code => utf8TLV (context 0) code
  | .contactDefaultSMDP => nullTLV (context 1)
  | .contactSMDS address =>
      .constructed (contextConstructed 2) (address.toList.map (utf8TLV tagUTF8))

def ProfileDownloadData.unmarshalBERTLV (tlv : Tlv) : Except Error ProfileDownloadData :=
  if tlv.tag = context 0 then do return .activationCode (← utf8Value tlv)
  else if tlv.tag = context 1 then .ok .contactDefaultSMDP
  else if tlv.tag = contextConstructed 2 then do
    return .contactSMDS (← optionalValue tlv.children.head? fun c => utf8Value c)
  else .error (.unknownTag "ProfileDownloadData" tlv.tag)

structure ProfileDownloadTriggerRequest where
  profileDownloadData : Option ProfileDownloadData
  eimTransactionID : Option Bytes
deriving DecidableEq

def ProfileDownloadTriggerRequest.marshalBERTLV (r : ProfileDownloadTriggerRequest) : Tlv :=
  .constructed tagDownloadTrig
    (r.profileDownloadData.toList.map
        (fun data => .constructed (contextConstructed 0) [data.marshalBERTLV]) ++
      r.eimTransactionID.toList.map (octetTLV (context 2)))

def ProfileDownloadTriggerRequest.unmarshalBERTLV (tlv : Tlv) :
    Except Error ProfileDownloadTriggerRequest := do
  expectTag tlv tagDownloadTrig
  let data ← optionalValue (tlv.first (contextConstructed 0)) fun wrapper =>
    match wrapper.children with
    | [child] => ProfileDownloadData.unmarshalBERTLV child
    | _ => .error (.message "asn1: profileDownloadData wrapper must contain one child")
  return ⟨data, (tlv.first (context 2)).map Tlv.value⟩

/-! ## Notifications -/

structure NotificationMetadata where
  sequenceNumber : Int
  profileManagement : List Bool
  notificationAddress : Bytes
  raw : Tlv
deriving DecidableEq

def NotificationMetadata.unmarshalBERTLV (tlv : Tlv) : Except Error NotificationMetadata := do
  expectTag tlv tagNotificationMeta
  let sequenceNumber ← integerValue B (tlv.first (context 0))
  let profileManagement ← optionalValue (tlv.first (context 1)) fun c => bitStringValue c
  let notificationAddress ← optionalValue (tlv.first tagUTF8) fun c => utf8Value c
  return ⟨sequenceNumber, profileManagement.getD [], notificationAddress.getD [], tlv⟩

/-- The notification kinds by the position of their bit in NotificationEvent. -/
def notificationKinds : List Bytes :=
  [text "install", text "enable", text "disable", text "delete"]

def NotificationMetadata.kind (m : NotificationMetadata) : Bytes :=
  match (notificationKinds.zip m.profileManagement).find? (·.2) with
  | some (kind, _) => kind
  | none => if m.profileManagement = [] then [] else text "unknown"

mutual

/-- The outcome a `finalResult` child states: success, failure, or none that is known. -/
def finalResultOutcome : Tlv → Option Bool
  | .primitive tag _ =>
      if tag.isContextSpecific ∧ tag.number = 0 then some true
      else if tag.isContextSpecific ∧ tag.number = 1 then some false
      else if tag = TagClass.application.primitive 15 then some true
      else if tag = tagInteger then some false
      else none
  | .constructed tag children =>
      if tag.isContextSpecific ∧ tag.number = 0 then some true
      else if tag.isContextSpecific ∧ tag.number = 1 then some false
      else if tag = tagSequence then finalResultSucceeded children
      else none

def finalResultSucceeded : List Tlv → Option Bool
  | [] => none
  | first :: _ => finalResultOutcome first

end

structure ProfileInstallationResultData where
  transactionID : Option Bytes
  metadata : Option NotificationMetadata
  succeeded : Bool
  raw : Tlv
deriving DecidableEq

def ProfileInstallationResultData.unmarshalBERTLV (tlv : Tlv) :
    Except Error ProfileInstallationResultData := do
  expectTag tlv tagProfileInstallData
  let metadata ← optionalValue (tlv.first tagNotificationMeta)
    (NotificationMetadata.unmarshalBERTLV B)
  match tlv.first tagProfileFinalResult with
  | none => throw (.message "asn1: ProfileInstallationResultData missing finalResult")
  | some finalResult =>
      match finalResultSucceeded finalResult.children with
      | none =>
          throw (.message
            "asn1: cannot determine ProfileInstallationResult finalResult outcome")
      | some succeeded =>
          return ⟨(tlv.first (context 0)).map Tlv.value, metadata, succeeded, tlv⟩

structure ProfileInstallationResult where
  data : ProfileInstallationResultData
  signature : Option Bytes
  raw : Tlv
deriving DecidableEq

def ProfileInstallationResult.unmarshalBERTLV (tlv : Tlv) :
    Except Error ProfileInstallationResult := do
  expectTag tlv tagProfileInstall
  match tlv.first tagProfileInstallData with
  | none =>
      throw (.message "asn1: ProfileInstallationResult missing ProfileInstallationResultData")
  | some data =>
      return ⟨← ProfileInstallationResultData.unmarshalBERTLV B data,
        (tlv.first tagSignature).map Tlv.value, tlv⟩

structure PendingNotification where
  profileInstallation : Option ProfileInstallationResult
  raw : Tlv
deriving DecidableEq

def isPendingNotificationTLV (tlv : Tlv) : Bool :=
  tlv.tag = tagProfileInstall ∨ tlv.tag = tagSequence ∨ tlv.tag = tagNotificationList ∨
    tlv.tag = contextConstructed 1

def PendingNotification.unmarshalBERTLV (tlv : Tlv) : Except Error PendingNotification := do
  let installation ← optionalValue (if tlv.tag = tagProfileInstall then some tlv else none)
    (ProfileInstallationResult.unmarshalBERTLV B)
  if isPendingNotificationTLV tlv then return ⟨installation, tlv⟩
  else throw (.unknownTag "PendingNotification" tlv.tag)

mutual

/-- The first NotificationMetadata TLV in the tree, in document order. -/
def findNotificationMetadata : Tlv → Option Tlv
  | .primitive tag value =>
      if tag = tagNotificationMeta then some (.primitive tag value) else none
  | .constructed tag children =>
      if tag = tagNotificationMeta then some (.constructed tag children)
      else findNotificationMetadataIn children

def findNotificationMetadataIn : List Tlv → Option Tlv
  | [] => none
  | child :: rest => (findNotificationMetadata child).or (findNotificationMetadataIn rest)

end

mutual

/-- The first 16-octet EID in the tree, in document order; empty when there is none. -/
def eidFromTLV : Tlv → Bytes
  | .primitive tag value => if tag = tagEID ∧ value.length = 16 then value else []
  | .constructed _ children => eidFromTLVs children

def eidFromTLVs : List Tlv → Bytes
  | [] => []
  | child :: rest => if eidFromTLV child ≠ [] then eidFromTLV child else eidFromTLVs rest

end

def PendingNotification.metadata (n : PendingNotification) : Option NotificationMetadata :=
  match n.profileInstallation.bind fun installation => installation.data.metadata with
  | some metadata => some metadata
  | none =>
      (findNotificationMetadata n.raw).bind fun tlv =>
        (NotificationMetadata.unmarshalBERTLV B tlv).toOption

def PendingNotification.sequenceNumber (n : PendingNotification) : Except Error Int :=
  match n.metadata B with
  | some metadata => .ok metadata.sequenceNumber
  | none => .error (.message "asn1: pending notification missing sequence number")

def PendingNotification.kind (n : PendingNotification) : Bytes :=
  match (n.metadata B).map NotificationMetadata.kind with
  | some (b :: bs) => b :: bs
  | _ => if n.profileInstallation.isSome then text "install" else text "unknown"

def PendingNotification.eid (n : PendingNotification) : Bytes :=
  eidFromTLV n.raw

def PendingNotificationList.unmarshalBERTLV (tlv : Tlv) :
    Except Error (List PendingNotification) := do
  expectTag tlv tagNotificationList
  tlv.children.mapM (PendingNotification.unmarshalBERTLV B)

/-! ## Profile download results -/

structure ProfileDownloadError where
  reason : Int
  errorResponse : Option Bytes
deriving DecidableEq

def ProfileDownloadError.unmarshalBERTLV (tlv : Tlv) : Except Error ProfileDownloadError := do
  expectTag tlv tagSequence
  return ⟨← integerValue B (tlv.first (context 0)), (tlv.first tagOctet).map Tlv.value⟩

inductive ProfileDownloadOutcome where
  | installation (result : ProfileInstallationResult)
  | error (error : ProfileDownloadError)
deriving DecidableEq

structure ProfileDownloadTriggerResult where
  eimTransactionID : Option Bytes
  outcome : ProfileDownloadOutcome
deriving DecidableEq

/-- The first child that is not the transaction identifier. -/
def profileDownloadResultData (tlv : Tlv) : Option Tlv :=
  tlv.children.find? fun child => child.tag ≠ context 2

def ProfileDownloadTriggerResult.unmarshalBERTLV (tlv : Tlv) :
    Except Error ProfileDownloadTriggerResult := do
  expectTag tlv tagDownloadTrig
  let eimTransactionID := (tlv.first (context 2)).map Tlv.value
  match profileDownloadResultData tlv with
  | none => throw (.message "asn1: missing ProfileDownloadTriggerResult data")
  | some child =>
      if child.tag = tagProfileInstall then
        return ⟨eimTransactionID,
          .installation (← ProfileInstallationResult.unmarshalBERTLV B child)⟩
      else if child.tag = tagSequence then
        return ⟨eimTransactionID, .error (← ProfileDownloadError.unmarshalBERTLV B child)⟩
      else throw (.unknownTag "ProfileDownloadTriggerResult data" child.tag)

/-! ## eIM acknowledgements -/

structure EimAcknowledgements where
  sequenceNumbers : List Int
deriving DecidableEq

def EimAcknowledgements.marshalBERTLV (a : EimAcknowledgements) : Except Error Tlv := do
  return .constructed tagEimAck (← a.sequenceNumbers.mapM (integerTLV B (context 0)))

def EimAcknowledgements.unmarshalBERTLV (tlv : Tlv) : Except Error EimAcknowledgements := do
  expectTag tlv tagEimAck
  return ⟨← tlv.children.mapM fun child => do
    expectTag child (context 0)
    integerValue B child⟩

/-! ## eUICC package results -/

/-- One `EuiccResultData` alternative: the TLV is kept, the request tells how to read it. -/
structure EuiccResultData where
  raw : Tlv
deriving DecidableEq

structure EuiccPackageResultDataSigned where
  eimID : Bytes
  counterValue : Int
  eimTransactionID : Option Bytes
  seqNumber : Int
  results : List EuiccResultData
deriving DecidableEq

def EuiccPackageResultDataSigned.marshalBERTLV (d : EuiccPackageResultDataSigned) :
    Except Error Tlv := do
  let counter ← integerTLV B (context 1) d.counterValue
  let seq ← integerTLV B (context 3) d.seqNumber
  return .constructed tagSequence
    ([utf8TLV (context 0) d.eimID, counter] ++ d.eimTransactionID.toList.map (octetTLV (context 2)) ++
      [seq, .constructed tagSequence (d.results.map EuiccResultData.raw)])

def isEuiccResultDataTLV (tlv : Tlv) : Bool :=
  tlv.tag = tagProfileInfoList ∨ tlv.tag = tagSetDefaultDPAddress ∨
    (tlv.tag.isContextSpecific ∧ 3 ≤ tlv.tag.number ∧ tlv.tag.number ≤ 15)

def EuiccPackageResultDataSigned.unmarshalBERTLV (tlv : Tlv) :
    Except Error EuiccPackageResultDataSigned := do
  expectTag tlv tagSequence
  let eimID ← utf8Value (tlv.first (context 0))
  let counterValue ← integerValue B (tlv.first (context 1))
  let eimTransactionID := (tlv.first (context 2)).map Tlv.value
  let seqNumber ← integerValue B (tlv.first (context 3))
  match tlv.children.getLast? with
  | none => throw (.message "asn1: EuiccPackageResultDataSigned is empty")
  | some resultList =>
      if resultList.tag = tagSequence then
        return ⟨eimID, counterValue, eimTransactionID, seqNumber,
          resultList.children.map EuiccResultData.mk⟩
      else if isEuiccResultDataTLV resultList then
        return ⟨eimID, counterValue, eimTransactionID, seqNumber, [⟨resultList⟩]⟩
      else throw (.unknownTag "EuiccPackageResultDataSigned results" resultList.tag)

structure EuiccPackageResultSigned where
  data : EuiccPackageResultDataSigned
  euiccSignEPR : Bytes
deriving DecidableEq

def EuiccPackageResultSigned.marshalBERTLV (r : EuiccPackageResultSigned) : Except Error Tlv := do
  return .constructed tagSequence
    [← r.data.marshalBERTLV B, octetTLV tagSignature r.euiccSignEPR]

def EuiccPackageResultSigned.unmarshalBERTLV (tlv : Tlv) :
    Except Error EuiccPackageResultSigned := do
  expectTag tlv tagSequence
  match tlv.children with
  | data :: _ :: _ =>
      return {
        data := ← EuiccPackageResultDataSigned.unmarshalBERTLV B data
        euiccSignEPR := ← octetValue (tlv.first tagSignature) }
  | _ => throw (.message "asn1: signed result requires data and signature")

structure EuiccPackageErrorDataSigned where
  eimID : Bytes
  counterValue : Int
  eimTransactionID : Option Bytes
  errorCode : Int
deriving DecidableEq

def EuiccPackageErrorDataSigned.marshalBERTLV (e : EuiccPackageErrorDataSigned) :
    Except Error Tlv := do
  let counter ← integerTLV B (context 1) e.counterValue
  let code ← integerTLV B tagInteger e.errorCode
  return .constructed tagSequence
    ([utf8TLV (context 0) e.eimID, counter] ++ e.eimTransactionID.toList.map (octetTLV (context 2)) ++
      [code])

def EuiccPackageErrorDataSigned.unmarshalBERTLV (tlv : Tlv) :
    Except Error EuiccPackageErrorDataSigned := do
  expectTag tlv tagSequence
  return {
    eimID := ← utf8Value (tlv.first (context 0))
    counterValue := ← integerValue B (tlv.first (context 1))
    eimTransactionID := (tlv.first (context 2)).map Tlv.value
    errorCode := ← integerValue B (tlv.first tagInteger) }

structure EuiccPackageErrorSigned where
  data : EuiccPackageErrorDataSigned
  euiccSignEPE : Bytes
deriving DecidableEq

def EuiccPackageErrorSigned.marshalBERTLV (e : EuiccPackageErrorSigned) : Except Error Tlv := do
  return .constructed tagSequence
    [← e.data.marshalBERTLV B, octetTLV tagSignature e.euiccSignEPE]

def EuiccPackageErrorSigned.unmarshalBERTLV (tlv : Tlv) :
    Except Error EuiccPackageErrorSigned := do
  expectTag tlv tagSequence
  match tlv.children with
  | data :: _ :: _ =>
      return {
        data := ← EuiccPackageErrorDataSigned.unmarshalBERTLV B data
        euiccSignEPE := ← octetValue (tlv.first tagSignature) }
  | _ => throw (.message "asn1: signed error requires data and signature")

structure EuiccPackageErrorUnsigned where
  eimID : Bytes := []
  eimTransactionID : Option Bytes := none
  associationToken : Option Int := none
  errorCode : Option Int := none
deriving DecidableEq

def EuiccPackageErrorUnsigned.marshalBERTLV (e : EuiccPackageErrorUnsigned) : Except Error Tlv := do
  let token ← optionalChild e.associationToken (integerTLV B (context 4))
  let code ← optionalChild e.errorCode (integerTLV B (context 15))
  return .constructed tagSequence
    ([utf8TLV (context 0) e.eimID] ++ e.eimTransactionID.toList.map (octetTLV (context 2)) ++ token ++
      code)

def isEuiccPackageUnsignedErrorCodeTLV (tlv : Tlv) : Bool :=
  tlv.tag = tagInteger ∨ tlv.tag = context 15

def EuiccPackageErrorUnsigned.unmarshalBERTLV (tlv : Tlv) :
    Except Error EuiccPackageErrorUnsigned :=
  if isEuiccPackageUnsignedErrorCodeTLV tlv then do
    return { errorCode := some (← integerValue B tlv) }
  else do
    let tlv := if tlv.tag = contextConstructed 2 then .constructed tagSequence tlv.children else tlv
    expectTag tlv tagSequence
    return {
      eimID := ((tlv.first (context 0)).map Tlv.value).getD []
      eimTransactionID := (tlv.first (context 2)).map Tlv.value
      associationToken := ← optionalValue (tlv.first (context 4)) fun c => integerValue B c
      errorCode := ← optionalValue (tlv.first (context 15)) fun c => integerValue B c }

inductive EuiccPackageResult where
  | ok (signed : EuiccPackageResultSigned)
  | errorSigned (error : EuiccPackageErrorSigned)
  | errorUnsigned (error : EuiccPackageErrorUnsigned)
deriving DecidableEq

/-- The alternative is written without an arm of its own. -/
def EuiccPackageResult.marshalBERTLV (r : EuiccPackageResult) : Except Error Tlv := do
  let child ← match r with
    | .ok signed => signed.marshalBERTLV B
    | .errorSigned error => error.marshalBERTLV B
    | .errorUnsigned error => error.marshalBERTLV B
  return .constructed tagEuiccPkg [child]

/-- The CHOICE arms A0, A1 and A2 are read as the SEQUENCE they replace. -/
def unwrapEuiccPackageResultChoice (tlv : Tlv) : Tlv :=
  if tlv.tag = contextConstructed 0 ∨ tlv.tag = contextConstructed 1 ∨
      tlv.tag = contextConstructed 2 then
    .constructed tagSequence tlv.children
  else tlv

/-- The selected alternative: signed when it has a signature child, a result when its first child
has a sequence number. -/
def EuiccPackageResult.unmarshalSelected (child : Tlv) : Except Error EuiccPackageResult :=
  if (child.first tagSignature).isSome then
    match child.children with
    | [] => .error (.message "asn1: signed EuiccPackageResult child is empty")
    | first :: _ =>
        if (first.first (context 3)).isSome then do
          return .ok (← EuiccPackageResultSigned.unmarshalBERTLV B child)
        else do
          return .errorSigned (← EuiccPackageErrorSigned.unmarshalBERTLV B child)
  else do
    return .errorUnsigned (← EuiccPackageErrorUnsigned.unmarshalBERTLV B child)

def EuiccPackageResult.unmarshalBERTLV (tlv : Tlv) : Except Error EuiccPackageResult := do
  expectTag tlv tagEuiccPkg
  match tlv.children with
  | [child] =>
      EuiccPackageResult.unmarshalSelected B (unwrapEuiccPackageResultChoice child)
  | _ => throw (.message "asn1: EuiccPackageResult requires one selected child")

/-! ## Result alternatives -/

structure SetDefaultDPAddressResponse where
  result : Int
deriving DecidableEq

def SetDefaultDPAddressResponse.unmarshalBERTLV (tlv : Tlv) :
    Except Error SetDefaultDPAddressResponse := do
  expectTag tlv tagSetDefaultDPAddress
  match tlv.children with
  | [child] => return ⟨← integerValue B child⟩
  | _ => throw (.message "asn1: SetDefaultDPAddressResponse requires one child")

structure ProfileInfo where
  iccid : Option Bytes
  profileState : Option Int
  fallbackAttribute : Bool
deriving DecidableEq

def profileStateEnabled : Int := 1

def ProfileInfo.unmarshalBERTLV (tlv : Tlv) : Except Error ProfileInfo := do
  expectTag tlv tagProfileInfo
  let profileState ← optionalValue (tlv.first tagProfileState) fun c => integerValue B c
  let fallbackAttribute ← optionalValue (tlv.first tagFallbackAttribute) fun c => booleanValue B c
  return ⟨(tlv.first tagEID).map Tlv.value, profileState, fallbackAttribute.getD false⟩

structure ProfileInfoListResponse where
  profiles : List ProfileInfo
  error : Option Int
deriving DecidableEq

/-- The INTEGER of `profileInfoListError`, in the three shapes it is sent in. -/
def profileInfoListErrorTLV (tlv : Tlv) : Option Tlv :=
  if tlv.tag = tagInteger ∨ tlv.tag = context 1 then some tlv
  else
    match tlv.children with
    | [child] =>
        if tlv.tag = contextConstructed 1 ∧ child.tag = tagInteger then some child else none
    | _ => none

def unwrapProfileInfoListOk (tlv : Tlv) : Tlv :=
  if tlv.tag = contextConstructed 0 then .constructed tagSequence tlv.children else tlv

def ProfileInfoListResponse.unmarshalBERTLV (tlv : Tlv) :
    Except Error ProfileInfoListResponse := do
  expectTag tlv tagProfileInfoList
  match tlv.children with
  | [child] =>
      match profileInfoListErrorTLV child with
      | some errTLV => return ⟨[], some (← integerValue B errTLV)⟩
      | none =>
          let profiles := unwrapProfileInfoListOk child
          expectTag profiles tagSequence
          return ⟨← profiles.children.mapM (ProfileInfo.unmarshalBERTLV B), none⟩
  | _ => throw (.message "asn1: ProfileInfoListResponse requires one selected child")

inductive AddEimResult where
  | associationToken (token : Int)
  | code (code : Int)
deriving DecidableEq

def AddEimResult.unmarshalBERTLV (tlv : Tlv) : Except Error AddEimResult :=
  if tlv.tag = context 4 then do return .associationToken (← integerValue B tlv)
  else if tlv.tag = tagInteger then do return .code (← integerValue B tlv)
  else .error (.unknownTag "AddEimResult" tlv.tag)

structure EimIDInfo where
  eimID : Bytes
  eimIDType : Option Int
deriving DecidableEq

def EimIDInfo.unmarshalBERTLV (tlv : Tlv) : Except Error EimIDInfo := do
  expectTag tlv tagSequence
  return {
    eimID := ← utf8Value (tlv.first (context 0))
    eimIDType := ← optionalValue (tlv.first (context 2)) fun c => integerValue B c }

inductive ListEimResult where
  | eimIDList (list : List EimIDInfo)
  | error (code : Int)
deriving DecidableEq

def ListEimResult.unmarshalBERTLV (tlv : Tlv) : Except Error ListEimResult :=
  if tlv.tag = tagInteger then do return .error (← integerValue B tlv)
  else do
    expectTag tlv tagSequence
    return .eimIDList (← tlv.children.mapM (EimIDInfo.unmarshalBERTLV B))

end

end OpenIotRsp.Asn1
