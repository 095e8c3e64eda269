import OpenIotRsp.Library.Base64
import OpenIotRsp.Model.Esipa.Handler

/-!
# The HTTP bindings

`esipa/http.go` and `esipa/gsma_json.go`: the ASN.1 binding hands the body over
as it came; the JSON binding builds the message that the body stands for and
turns the answer back into JSON.
-/

namespace OpenIotRsp.Esipa

open Octets Ber Asn1 Storage

/-- What an endpoint answers: a status with a reason, no content, or a body. -/
inductive HttpAnswer (α : Type) where
  | failed (statusCode : Nat) (reason : String)
  | noContent
  | content (body : α)
deriving DecidableEq

/-! ## ASN.1 -/

variable (H : Handler) (maxMessageSize : Nat)

def serveHTTP (isPost : Bool) (body : Bytes) (s : Store) : HttpAnswer Bytes × Store :=
  if ¬ isPost then (.failed 405 "method not allowed", s)
  else if maxMessageSize < body.length then (.failed 400 "read ESipa request", s)
  else
    match handleEncodedResponse H body s with
    | (.error _, s') => (.failed 400 "handle ESipa request", s')
    | (.ok none, s') => (.noContent, s')
    | (.ok (some encoded), s') => (.content encoded, s')

/-! ## Fields of JSON requests -/

structure GsmaProvideEimPackageResultRequest where
  eidValue : Bytes
  eimPackageResult : Bytes
deriving DecidableEq

structure GsmaHandleNotificationRequest where
  provideEimPackageResult : Bytes
  pendingNotification : Bytes
deriving DecidableEq

/-- The packages outside the repository: `json.Unmarshal` and `TLV.UnmarshalBinary`. -/
structure Unmarshaler where
  provideEimPackageResult : Bytes → Except Error GsmaProvideEimPackageResultRequest
  handleNotification : Bytes → Except Error GsmaHandleNotificationRequest
  unmarshalBinary : Bytes → Option Tlv

def parseGSMAEIDValue (value : Bytes) : Except Error Bytes :=
  if Text.trimSpace value = [] then .error (.message "esipa: missing eidValue")
  else
    match Hex.decode (Text.trimSpace value) with
    | none => .error (.message "esipa: invalid eidValue hex")
    | some decoded =>
        if decoded.length ≠ 16 then .error (.message "esipa: eidValue must be 16 bytes")
        else .ok decoded

def decodeGSMABase64 (value : Bytes) : Except Error Bytes :=
  if Text.trimSpace value = [] then .error (.message "esipa: empty base64 payload")
  else
    match (Base64.decode (Text.trimSpace value)).or (Base64.decodeRaw (Text.trimSpace value)) with
    | none => .error (.message "base64: illegal data")
    | some decoded => .ok decoded

variable (U : Unmarshaler)

def parseRawTLV (data : Bytes) : Except Error Tlv :=
  match U.unmarshalBinary data with
  | none => .error (.message "esipa: parse BER-TLV")
  | some tlv => .ok tlv

/-- The BF50 for a result or a BF50, with the EID it is given or that can be recovered. -/
def parseGSMAProvideOrResultTLV (eid : Bytes) (der : Bytes) : Except Error Tlv := do
  let tlv ← parseRawTLV U der
  let eid := if eid = [] then (recoverEIDFromPackageResultTLV H.bertlv H.x509 tlv).getD [] else eid
  if tlv.tag = tagProvideEimResult then
    if eid = [] ∨ (tlv.first tagEID).isSome then return tlv
    else return .constructed tagProvideEimResult (octetTLV tagEID eid :: tlv.children)
  else if eid = [] then return .constructed tagProvideEimResult [tlv]
  else return .constructed tagProvideEimResult [octetTLV tagEID eid, tlv]

def provideTLVFromGSMA (eidValue resultBase64 : Bytes) : Except Error Tlv := do
  let resultDER ← decodeGSMABase64 resultBase64
  if Text.trimSpace eidValue = [] then parseGSMAProvideOrResultTLV H U [] resultDER
  else parseGSMAProvideOrResultTLV H U (← parseGSMAEIDValue eidValue) resultDER

/-- The message of a notification: a provided result, or a pending notification of a device. -/
def notifyTLVFromGSMA (request : GsmaHandleNotificationRequest) : Except Error Tlv := do
  let hasProvide := Text.trimSpace request.provideEimPackageResult ≠ []
  let hasPending := Text.trimSpace request.pendingNotification ≠ []
  if hasProvide ∧ hasPending then
    throw (.message
      "handleNotification accepts provideEimPackageResult or pendingNotification, not both")
  else if hasProvide then
    let provideDER ← decodeGSMABase64 request.provideEimPackageResult
    return .constructed tagHandleNotify [← parseGSMAProvideOrResultTLV H U [] provideDER]
  else if hasPending then
    let notificationDER ← decodeGSMABase64 request.pendingNotification
    let notificationTLV ← parseRawTLV U notificationDER
    let pending ← PendingNotification.unmarshalBERTLV H.bertlv notificationTLV
    let _ ← pending.sequenceNumber H.bertlv
    if (pending.eid).length ≠ 16 then
      throw (.message "pendingNotification does not identify an EID")
    else return .constructed tagHandleNotify [notificationTLV]
  else
    throw (.message "handleNotification requires provideEimPackageResult or pendingNotification")

/-! ## Answers -/

structure GsmaProvideResponse where
  status : String := "Executed-Success"
  /-- empty where there are none -/
  eimAcknowledgements : Bytes := []
  eimPackageError : Option Int := none
deriving DecidableEq

def gsmaProvideResponseFromBER (B : Bertlv) (payload : Bytes) : Except Error GsmaProvideResponse := do
  let message ← Asn1.decode B ESipaMessageFromEimToIpa.unmarshalBERTLV payload
  match ← ProvideEimPackageResultResponse.unmarshalBERTLV B message with
  | .empty => return { }
  | .acknowledgements ack =>
      return { eimAcknowledgements := Base64.encode (← Asn1.encode B (ack.marshalBERTLV B)) }
  | .error code => return { eimPackageError := some code }

/-- The message is encoded and handled; `isEmpty` tells which answers are none. -/
def handleGSMA (name : String) (isEmpty : Bytes → Bool) (message : Except Error Tlv) (s : Store) :
    HttpAnswer GsmaProvideResponse × Store :=
  match message with
  | .error _ => (.failed 400 name, s)
  | .ok tlv =>
      match Asn1.encode H.bertlv (.ok tlv) with
      | .error _ => (.failed 500 ("encode " ++ name), s)
      | .ok berRequest =>
          match handleEncodedResponse H berRequest s with
          | (.error _, s') => (.failed 400 ("handle " ++ name), s')
          | (.ok none, s') => (.noContent, s')
          | (.ok (some payload), s') =>
              if isEmpty payload then (.noContent, s')
              else
                match gsmaProvideResponseFromBER H.bertlv payload with
                | .error _ => (.failed 500 name, s')
                | .ok response => (.content response, s')

def serveGSMAProvideEimPackageResult (payload : Bytes) :
    Store → HttpAnswer GsmaProvideResponse × Store :=
  handleGSMA H "provideEimPackageResult" (fun _ => false) do
    let request ← U.provideEimPackageResult payload
    provideTLVFromGSMA H U request.eidValue request.eimPackageResult

def serveGSMAHandleNotification (payload : Bytes) :
    Store → HttpAnswer GsmaProvideResponse × Store :=
  handleGSMA H "handleNotification" (fun encoded => encoded.length = 0) do
    notifyTLVFromGSMA H U (← U.handleNotification payload)

/-- `ServeGSMAJSON`, with the function that the path selects. -/
def serveGSMAJSON (serve : Bytes → Store → HttpAnswer GsmaProvideResponse × Store) (isPost : Bool)
    (body : Bytes) (s : Store) : HttpAnswer GsmaProvideResponse × Store :=
  if ¬ isPost then (.failed 405 "method not allowed", s)
  else if maxMessageSize < body.length then (.failed 400 "read GSMA ESipa request", s)
  else serve body s

end OpenIotRsp.Esipa
