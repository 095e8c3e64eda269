import OpenIotRsp.Model.Esipa.EidResolve
import OpenIotRsp.Model.Euiccpkg.Verify

/-!
# The ESipa handler

`esipa/handler.go`: polling for the next package, and recording what the IPA
sends back.  Relayed messages never reach the store and have a module of their own.
-/

namespace OpenIotRsp.Esipa

open Octets Ber Stateful Asn1 Storage Euiccpkg Ipadata

structure Handler where
  bertlv : Bertlv
  crypto : Crypto
  x509 : X509
  tenantID : TenantID
  /-- absent where no resolver is configured; it may fail, or return no key -/
  euiccPublicKey : Option (TenantID → Bytes → Except Error (Option PublicKey))
  allowUnverifiedEUICCPackageResults : Bool

/-- The tenant that every request of the handler works for. -/
def Handler.tenant (H : Handler) : TenantID := normalizeTenantID H.tenantID

variable (H : Handler)

def marshalBinary (B : Bertlv) (tlv : Tlv) : Except Error Bytes :=
  match B.marshalBinary tlv with
  | some payload => .ok payload
  | none => .error (.message "bertlv: marshal TLV")

def parseOneTLV (B : Bertlv) (data : Bytes) : Except Error Tlv :=
  if data = [] then .error (.message "esipa: empty BER-TLV input")
  else
    match B.readFrom data with
    | .error .eof => .error (.message "esipa: truncated BER-TLV input")
    | .error .malformed => .error (.message "bertlv: read TLV")
    | .ok (tlv, n) =>
        if n ≠ data.length then .error (.message "esipa: trailing data after BER-TLV object")
        else .ok tlv

/-! ## Replies -/

inductive Reply where
  | noContent
  | getEimPackage (response : GetEimPackageResponse)
  | provideResult (response : ProvideEimPackageResultResponse)
  | transferAck (ack : EimAcknowledgements)
deriving DecidableEq

/-- `responseFromMarshaler`. -/
def Reply.marshalBERTLV (B : Bertlv) : Reply → Except Error (Option Tlv)
  | .noContent => .ok none
  | .getEimPackage response => do return some (← response.marshalBERTLV B)
  | .provideResult response => do return some (← response.marshalBERTLV B)
  | .transferAck ack => do return some (← transferAcknowledgements B ack)

/-- What a recorded result is answered with: acknowledgements, or an empty response. -/
inductive Recorded where
  | ack (sequenceNumbers : List Int)
  | empty
deriving DecidableEq

/-- Add the numbers that are not there yet, in order. -/
def appendAckSequences (existing additions : List Int) : List Int :=
  additions.foldl (fun out n => if n ∈ out then out else out ++ [n]) existing

/-! ## Delivery -/

def ensureDeviceKnown (eid : Bytes) : StoreM Unit := do
  let _ ← listProfileStates H.tenant eid

/-- The earliest pending package goes before any other pending operation. -/
def selectOperationForGetEimPackage (eid : Bytes) : StoreM (Option Operation) := do
  let pending ← fetchPendingOperations H.tenant eid 100
  match pending.find? fun operation => operation.kind = .euiccPackage with
  | some operation => return some operation
  | none => return pending.head?

def getEimPackageOperationResponse (operation : Operation) : Except Error GetEimPackageResponse :=
  match operation.kind with
  | .euiccPackage => do
      return .euiccPackageRequest
        (← Asn1.decode H.bertlv (EuiccPackageRequest.unmarshalBERTLV H.bertlv) operation.payload)
  | .profileDownloadTrigger => do
      return .profileDownloadTriggerRequest
        (← Asn1.decode H.bertlv ProfileDownloadTriggerRequest.unmarshalBERTLV operation.payload)
  | .ipaEuiccData => do
      let tlv ← parseOneTLV H.bertlv operation.payload
      if tlv.tag = tagIpaEuiccData then return .ipaEuiccDataRequest tlv
      else throw (.message "esipa: IPA eUICC data operation has tag")
  | .other _ => .error (.message "esipa: unsupported operation kind")

/-- A selected operation with the identifier zero counts as none. -/
def nextPackageReply (operation : Option Operation) : Except Error Reply :=
  match operation.filter fun operation => operation.id ≠ 0 with
  | none => .ok (.getEimPackage (.error getEimPackageErrorNoPackage))
  | some operation => do return .getEimPackage (← getEimPackageOperationResponse H operation)

def handleGetEimPackage (tlv : Tlv) : StoreM Reply := do
  let request ← ofExcept (GetEimPackageRequest.unmarshalBERTLV H.bertlv tlv)
  match eidKey request.eid with
  | .error code => return .getEimPackage (.error code)
  | .ok eid =>
      match ← findRow (ensureDeviceKnown H eid) with
      | none => return .getEimPackage (.error getEimPackageErrorEIDNotFound)
      | some () =>
          match ← findRow (selectOperationForGetEimPackage H eid) with
          | none => return .getEimPackage (.error getEimPackageErrorEIDNotFound)
          | some operation => ofExcept (nextPackageReply H operation)

/-! ## Correlation -/

def decodePackage (operation : Operation) : Except Error EuiccPackageRequest :=
  Asn1.decode H.bertlv (EuiccPackageRequest.unmarshalBERTLV H.bertlv) operation.payload

/-- An identifier that is empty, or a counter of zero, matches anything. -/
def correlates (signed : EuiccPackageSigned) (eimID : Bytes) (counter : Int)
    (transactionID : Bytes) : Bool :=
  (eimID = [] ∨ signed.eimID = eimID) ∧ (counter = 0 ∨ signed.counterValue = counter) ∧
    (transactionID = [] ∨ signed.eimTransactionID.getD [] = transactionID)

/-- The first package with the identifiers; one that does not decode ends the search. -/
def firstMatchingEuiccPackage (eimID : Bytes) (counter : Int) (transactionID : Bytes) :
    List Operation → Except Error (Option Operation)
  | [] => .ok none
  | operation :: rest =>
      if operation.kind = .euiccPackage then do
        let request ← decodePackage H operation
        if correlates request.euiccPackageSigned eimID counter transactionID then
          return some operation
        else firstMatchingEuiccPackage eimID counter transactionID rest
      else firstMatchingEuiccPackage eimID counter transactionID rest

/-- A pending package first; for a redelivery any package, unless no identifier is given. -/
def matchPendingEuiccPackageByCorrelation (eid eimID : Bytes) (counter : Int)
    (transactionID : Bytes) : StoreM Operation := do
  let pending ← fetchPendingOperations H.tenant eid 10000
  match ← ofExcept (firstMatchingEuiccPackage H eimID counter transactionID pending) with
  | some operation => return operation
  | none =>
      if transactionID = [] ∧ eimID = [] ∧ counter = 0 then fail .notFound
      else
        let all ← listOperations H.tenant eid 10000
        match ← ofExcept (firstMatchingEuiccPackage H eimID counter transactionID all) with
        | some operation => return operation
        | none => fail .notFound

def firstPendingEuiccPackageOperation (eid : Bytes) : StoreM Operation := do
  let pending ← fetchPendingOperations H.tenant eid 10000
  match pending.find? fun operation => operation.kind = .euiccPackage with
  | some operation => return operation
  | none => fail .notFound

/-- `matchingEUICCPackageOperations`, which never returns more than one operation. -/
def matchingEUICCPackageOperation (eid : Bytes) : EuiccPackageResult → StoreM Operation
  | .ok signed =>
      matchPendingEuiccPackageByCorrelation H eid signed.data.eimID signed.data.counterValue
        (signed.data.eimTransactionID.getD [])
  | .errorSigned error =>
      matchPendingEuiccPackageByCorrelation H eid error.data.eimID error.data.counterValue
        (error.data.eimTransactionID.getD [])
  | .errorUnsigned error =>
      if error.eimID ≠ [] ∨ error.eimTransactionID.getD [] ≠ [] then do
        match ← findRow (matchPendingEuiccPackageByCorrelation H eid error.eimID 0
            (error.eimTransactionID.getD [])) with
        | some operation => return operation
        | none => firstPendingEuiccPackageOperation H eid
      else firstPendingEuiccPackageOperation H eid

/-! ## Notifications -/

def notificationFromPending (eid : Bytes) (pending : PendingNotification) :
    Except Error Notification := do
  let eid := if eid = [] ∧ pending.eid.length = 16 then Hex.encode pending.eid else eid
  if eid = [] then throw (.message "esipa: pending notification does not identify an EID")
  let sequenceNumber ← pending.sequenceNumber H.bertlv
  let payload ← marshalBinary H.bertlv pending.raw
  return ⟨eid, sequenceNumber, pending.kind H.bertlv, payload⟩

def recordNotification (eid : Bytes) (pending : PendingNotification) : StoreM Int := do
  let notification ← ofExcept (notificationFromPending H eid pending)
  storeNotification H.tenant notification
  return notification.sequenceNumber

def recordNotificationsFromList (eid : Bytes) : Option Tlv → StoreM (List Int)
  | none => pure []
  | some tlv => do
      let notifications ← ofExcept (PendingNotificationList.unmarshalBERTLV H.bertlv tlv)
      notifications.mapM (recordNotification H eid)

def notificationsFromHandleNotification (tlv : Tlv) : Except Error (List Notification) :=
  match tlv.children with
  | [child] =>
      match PendingNotificationList.unmarshalBERTLV H.bertlv child with
      | .ok notifications => notifications.mapM (notificationFromPending H [])
      | .error _ => do
          let pending ← PendingNotification.unmarshalBERTLV H.bertlv child
          return [← notificationFromPending H [] pending]
  | _ => .error (.message "esipa: HandleNotificationEsipa requires one selected child")

/-! ## Package results -/

def signedRequestFromOperation (eid : Bytes) (operation : Operation) :
    Except Error SignedRequest := do
  if operation.kind ≠ .euiccPackage then throw (.message "esipa: operation, want eUICC package")
  let request ← decodePackage H operation
  let signed := request.euiccPackageSigned
  return {
    der := operation.payload
    tenantID := H.tenant
    eid := eid
    eidValue := signed.eid
    eimID := signed.eimID
    counterValue := signed.counterValue
    eimTransactionID := signed.eimTransactionID
    package := signed.euiccPackage }

/-- A result for which the operation has no alternative fails the operation. -/
def statusOf (domain : Except Error Result) : Except Error (Option Result × OperationStatus) :=
  match domain with
  | .error (.resultNotFound _) => .ok (none, .failed)
  | .error e => .error e
  | .ok result => .ok (some result, if result.ok then .done else .failed)

def verifiedOperationResult (operation : Operation) (eid resultDER : Bytes)
    (publicKey : PublicKey) : StoreM (Option Result × OperationStatus) := do
  let request ← ofExcept (signedRequestFromOperation H eid operation)
  let token ← associationTokenForEIM H.bertlv H.tenant eid request.eimID
  ofExcept (statusOf (verifyPackageResult H.bertlv H.crypto
    { request := request, resultDER := resultDER, euiccPublicKey := publicKey,
      associationToken := token }))

def resultStatus : EuiccPackageResult → OperationStatus
  | .ok signed =>
      if signed.data.results.any fun item =>
          match integerResult H.bertlv item.raw with
          | .ok value => value ≠ 0
          | .error _ => false
      then .failed else .done
  | _ => .failed

def resultStatusForOperation (operation : Operation) (result : EuiccPackageResult) :
    Except Error OperationStatus :=
  match result with
  | .ok signed =>
      if operation.kind ≠ .euiccPackage then .ok (resultStatus H result)
      else do
        let request ← decodePackage H operation
        let (_, status) ← statusOf (operationResult H.bertlv
          request.euiccPackageSigned.euiccPackage signed.data.results)
        return status
  | _ => .ok (resultStatus H result)

def domainResult (pkg : EuiccPackage) : EuiccPackageResult → Except Error (Option Result)
  | .ok signed => do return some (← operationResult H.bertlv pkg signed.data.results)
  | _ => .ok none

def applyEUICCPackageOperationState (operation : Operation) (result : EuiccPackageResult) :
    StoreM Unit :=
  if operation.kind ≠ .euiccPackage then pure ()
  else do
    let request ← ofExcept (decodePackage H operation)
    let domain ← ofExcept (domainResult H request.euiccPackageSigned.euiccPackage result)
    applyPackageResultState H.bertlv H.tenant operation.eid
      request.euiccPackageSigned.euiccPackage domain

/-- The trusted key of the device; an unverified handler asks for none. -/
def resolvePublicKey (eid : Bytes) : Except Error (Option PublicKey) :=
  if H.allowUnverifiedEUICCPackageResults then .ok none
  else
    match H.euiccPublicKey with
    | none => .error (.message "esipa: eUICC public key resolver is required")
    | some resolver => do
        match ← resolver H.tenant eid with
        | none => throw (.message "esipa: eUICC public key resolver is required")
        | some publicKey => return some publicKey

def recordResult (eid : Bytes) (operation : Operation) (status : OperationStatus)
    (payload : Bytes) : StoreM Unit :=
  recordEUICCPackageResult H.tenant
    ⟨eid, operation.id, operation.sequenceNumber, status, payload⟩

/-- The body of the loop over the matched operation, with a key. -/
def recordVerified (eid : Bytes) (operation : Operation) (resultDER payload : Bytes)
    (publicKey : PublicKey) : StoreM Unit := do
  let (domain, status) ← verifiedOperationResult H operation eid resultDER publicKey
  recordResult H eid operation status payload
  if status = .done then
    let request ← ofExcept (signedRequestFromOperation H eid operation)
    applyPackageResultState H.bertlv H.tenant eid request.package domain
  else pure ()

/-- The body of the loop over the matched operation, without verification. -/
def recordUnverified (eid : Bytes) (operation : Operation) (result : EuiccPackageResult)
    (payload : Bytes) : StoreM Unit := do
  let status ← ofExcept (resultStatusForOperation H operation result)
  recordResult H eid operation status payload
  if status = .done then applyEUICCPackageOperationState H operation result else pure ()

/-- The sequence number of a signed result, if it is not zero. -/
def packageResultAckSequences : EuiccPackageResult → List Int
  | .ok signed => if signed.data.seqNumber = 0 then [] else [signed.data.seqNumber]
  | _ => []

/-- The package result and the notification list of a BF51 or an EPRAndNotifications SEQUENCE. -/
def splitResult (tlv : Tlv) : Except Error (Tlv × Option Tlv) :=
  if tlv.tag = tagSequence then
    match tlv.first tagEuiccPkg with
    | none => .error (.message "esipa: EPRAndNotifications missing EuiccPackageResult")
    | some resultTLV => .ok (resultTLV, tlv.first tagNotificationList)
  else .ok (tlv, none)

def recordEuiccPackageResult (eid : Bytes) (tlv : Tlv) (payload : Bytes) : StoreM Recorded := do
  let (resultTLV, notificationList) ← ofExcept (splitResult tlv)
  let result ← ofExcept (EuiccPackageResult.unmarshalBERTLV H.bertlv resultTLV)
  let resultDER ← ofExcept (marshalBinary H.bertlv resultTLV)
  let publicKey ← ofExcept (resolvePublicKey H eid)
  let operation ← matchingEUICCPackageOperation H eid result
  match publicKey with
  | none => recordUnverified H eid operation result payload
  | some publicKey => recordVerified H eid operation resultDER payload publicKey
  let notificationSequences ← recordNotificationsFromList H eid notificationList
  return .ack (appendAckSequences (appendAckSequences [] (packageResultAckSequences result))
    notificationSequences)

/-! ## Other results -/

/-- The first pending operation of a kind whose payload carries the transaction identifier. -/
def firstPendingTransaction (kind : Storage.OperationKind)
    (transactionOf : Operation → Except Error (Option Bytes)) (transactionID : Bytes) :
    List Operation → Except Error (Option Operation)
  | [] => .ok none
  | operation :: rest =>
      if operation.kind = kind then do
        if (← transactionOf operation).getD [] = transactionID then return some operation
        else firstPendingTransaction kind transactionOf transactionID rest
      else firstPendingTransaction kind transactionOf transactionID rest

/-- Without a transaction identifier the first data request is meant, and its payload is not
decoded. -/
def pendingIpaEuiccDataOperation (eid transactionID : Bytes) : StoreM (Option Operation) := do
  let operations ← fetchPendingOperations H.tenant eid 100
  if transactionID = [] then
    return operations.find? fun operation => operation.kind = .ipaEuiccData
  else
    ofExcept (firstPendingTransaction .ipaEuiccData (operationTransactionID H.bertlv)
      transactionID operations)

def pendingProfileDownloadTrigger (eid transactionID : Bytes) : StoreM (Option Operation) := do
  let operations ← fetchPendingOperations H.tenant eid 100
  ofExcept (firstPendingTransaction .profileDownloadTrigger (operationTransactionID H.bertlv)
    transactionID operations)

def requireOperation (operation : Option Operation) : StoreM Operation :=
  match operation with
  | none => fail .notFound
  | some operation => pure operation

def recordIpaEuiccDataResponse (eid : Bytes) (tlv : Tlv) (payload : Bytes) : StoreM Recorded := do
  let response ← ofExcept (IpaEuiccDataResponse.unmarshalBERTLV H.bertlv tlv)
  let transactionID := (ipaEuiccDataTransactionID response).getD []
  let operation ← requireOperation (← pendingIpaEuiccDataOperation H eid transactionID)
  match response with
  | .error _ =>
      recordResult H eid operation .failed payload
      return .empty
  | .data data =>
      recordResult H eid operation .done payload
      applyResponse H.bertlv H.x509 H.tenant eid response payload
      let notificationSequences ← recordNotificationsFromList H eid data.notificationsRaw
      let sequenceNumbers := appendAckSequences [] notificationSequences
      if sequenceNumbers = [] then return .empty else return .ack sequenceNumbers

def profileDownloadStatus (result : ProfileDownloadTriggerResult) : OperationStatus :=
  match result.outcome with
  | .error _ => .failed
  | .installation installation => if installation.data.succeeded then .done else .failed

/-- The acknowledged number is the queue position of the trigger. -/
def recordProfileDownloadTriggerResult (eid : Bytes) (tlv : Tlv) (payload : Bytes) :
    StoreM Recorded := do
  let result ← ofExcept (ProfileDownloadTriggerResult.unmarshalBERTLV H.bertlv tlv)
  let operation ← requireOperation
    (← pendingProfileDownloadTrigger H eid (result.eimTransactionID.getD []))
  recordResult H eid operation (profileDownloadStatus result) payload
  return .ack [operation.sequenceNumber]

/-- The acknowledged number is the queue position of the failed package. -/
def recordEimPackageResultResponseError (eid : Bytes) (error : EimPackageResultResponseError)
    (payload : Bytes) : StoreM Recorded := do
  let operation ←
    if error.eimTransactionID.getD [] ≠ [] then
      matchPendingEuiccPackageByCorrelation H eid [] 0 (error.eimTransactionID.getD [])
    else firstPendingEuiccPackageOperation H eid
  recordResult H eid operation .failed payload
  return .ack [operation.sequenceNumber]

def recordEimPackageResultError (eid : Bytes) (tlv : Tlv) (payload : Bytes) : StoreM Recorded := do
  let result ← ofExcept (EimPackageResult.unmarshalBERTLV H.bertlv tlv)
  match result.choice with
  | .error error => recordEimPackageResultResponseError H eid error payload
  | _ => fail (.message "esipa: unexpected EimPackageResult tag")

def recordEimPackageResult (eid : Bytes) (tlv : Tlv) : StoreM Recorded := do
  let payload ← ofExcept (marshalBinary H.bertlv tlv)
  if tlv.tag = tagDownloadTrig then recordProfileDownloadTriggerResult H eid tlv payload
  else if tlv.tag = tagIpaEuiccData then recordIpaEuiccDataResponse H eid tlv payload
  else if tlv.tag = tagInteger ∨ tlv.tag = contextConstructed 0 then
    recordEimPackageResultError H eid tlv payload
  else recordEuiccPackageResult H eid tlv payload

/-! ## Messages -/

/-- The BF50 of a message, bare or inside a BF3D envelope. -/
def provideResultTLV (msg : Tlv) : Option Tlv :=
  if msg.tag = tagHandleNotify then
    match msg.children with
    | [child] => if child.tag = tagProvideEimResult then some child else none
    | _ => none
  else if msg.tag = tagProvideEimResult then some msg else none

def provideReply : Option Recorded → Reply
  | none => .provideResult (.error provideResultErrorEIDNotFound)
  | some .empty => .provideResult .empty
  | some (.ack sequenceNumbers) => .provideResult (.acknowledgements ⟨sequenceNumbers⟩)

def handleProvideEimPackageResult (tlv : Tlv) : StoreM Reply := do
  match provideResultTLV tlv with
  | none => fail (.message "esipa: unsupported IPA-to-eIM message")
  | some provideTLV =>
      let request ← ofExcept (ProvideEimPackageResult.unmarshalBERTLV H.bertlv provideTLV)
      match ← resolveProvideResultEID H.bertlv H.x509 H.tenant request.eid
          request.eimPackageResult.raw with
      | .error code => return .provideResult (.error code)
      | .ok eid =>
          return provideReply (← findRow (recordEimPackageResult H eid request.eimPackageResult.raw))

def transferReply : Recorded → Reply
  | .empty => .transferAck ⟨[]⟩
  | .ack sequenceNumbers => .transferAck ⟨sequenceNumbers⟩

def handleTransferEimPackageResponse (tlv : Tlv) : StoreM Reply := do
  let request ← ofExcept (TransferEimPackageResponse.unmarshalBERTLV H.bertlv tlv)
  match request.raw.first tagEID with
  | none => fail (.message "esipa: transfer result response does not identify an EID")
  | some eidTLV =>
      match eidKey eidTLV.value with
      | .error _ => return .transferAck ⟨[]⟩
      | .ok eid => return transferReply (← recordEimPackageResult H eid request.raw)

/-- A provided result that comes as a notification is recorded and answered with an empty body. -/
def handleNotification (tlv : Tlv) : StoreM Reply := do
  match provideResultTLV tlv with
  | some _ => do
      let reply ← handleProvideEimPackageResult H tlv
      let _ ← ofExcept (reply.marshalBERTLV H.bertlv)
      return .noContent
  | none => do
      let notifications ← ofExcept (notificationsFromHandleNotification H tlv)
      notifications.forM (storeNotification H.tenant)
      return .noContent

/-- The dispatch of `handle` on the tag of the message. -/
def dispatch (tlv : Tlv) : StoreM Reply :=
  if tlv.tag = tagGetEimPackage then handleGetEimPackage H tlv
  else if tlv.tag = tagProvideEimResult then handleProvideEimPackageResult H tlv
  else if tlv.tag = tagTransferEimPackage then handleTransferEimPackageResponse H tlv
  else if tlv.tag = tagHandleNotify then handleNotification H tlv
  else fail (.message "esipa: unsupported IPA-to-eIM message")

/-- One message, to the TLV of its answer. -/
def handle (tlv : Tlv) : StoreM (Option Tlv) := do
  let reply ← dispatch H tlv
  ofExcept (reply.marshalBERTLV H.bertlv)

/-! ## The wire -/

def decodeRequest (data : Bytes) : Except Error Tlv :=
  Asn1.decode H.bertlv ESipaMessageFromIpaToEim.unmarshalBERTLV data

/-- One message as a transport hands it over, to the octets of its answer. -/
def handleEncodedResponse (payload : Bytes) : StoreM (Option Bytes) := do
  let message ← ofExcept (decodeRequest H payload)
  match ← handle H message with
  | none => return none
  | some response => return some (← ofExcept (marshalBinary H.bertlv response))

end OpenIotRsp.Esipa
