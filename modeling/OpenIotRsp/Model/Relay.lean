import Mathlib.Data.List.AList
import OpenIotRsp.Library.Concurrent
import OpenIotRsp.Library.Hex
import OpenIotRsp.Library.Text
import OpenIotRsp.Model.Asn1.Codec

/-!
# The relay

`relay/relay.go`: ES9+ messages are forwarded to the SM-DP+ of their
transaction.  The map of routes is the only state, and every access to it is one
critical section; between them a call waits for the SM-DP+.
-/

namespace OpenIotRsp.Relay

open Octets Ber Asn1 Concurrent

inductive Endpoint where
  | initiateAuthentication
  | authenticateClient
  | getBoundProfilePackage
  | handleNotification
  | cancelSession
deriving DecidableEq

structure Response where
  payload : Bytes := []
  noContent : Bool := false
deriving DecidableEq

def errMissingTransport : Error := .message "relay: missing transport"
def errMissingSMDPAddress : Error := .message "relay: missing SM-DP+ address"
def errUnknownSession : Error := .message "relay: unknown SM-DP+ relay session"

def tagTransactionID : Tag := context 0
def tagSMDPAddress : Tag := context 3

/-! ## Routing data -/

section

variable (B : Bertlv)

def parseTLV (data : Bytes) : Except Error Tlv :=
  if data = [] then .error (.message "relay: empty BER-TLV payload")
  else
    match B.readFrom data with
    | .error _ => .error (.message "bertlv: read TLV")
    | .ok (tlv, n) =>
        if n ≠ data.length then .error (.message "relay: trailing data after BER-TLV payload")
        else .ok tlv

mutual

/-- The first TLV with the tag, the tree itself included, in document order. -/
def firstTLV (tag : Tag) : Tlv → Option Tlv
  | .primitive tag' value => if tag' = tag then some (.primitive tag' value) else none
  | .constructed tag' children =>
      if tag' = tag then some (.constructed tag' children) else firstTLVIn tag children

def firstTLVIn (tag : Tag) : List Tlv → Option Tlv
  | [] => none
  | child :: rest => (firstTLV tag child).or (firstTLVIn tag rest)

end

def smdpAddressFromInitiateAuthentication (data : Bytes) : Except Error Bytes := do
  let tlv ← parseTLV B data
  match firstTLV tagSMDPAddress tlv with
  | none => throw errMissingSMDPAddress
  | some child => if child.value = [] then throw errMissingSMDPAddress else return child.value

/-- The transaction identifier, empty where there is none. -/
def transactionID (data : Bytes) : Bytes :=
  match parseTLV B data with
  | .error _ => []
  | .ok tlv => ((firstTLV tagTransactionID tlv).map Tlv.value).getD []

def notificationAddress (data : Bytes) : Bytes :=
  match parseTLV B data with
  | .error _ => []
  | .ok tlv => ((firstTLV tagUTF8 tlv).map Tlv.value).getD []

end

/-! ## Routes -/

/-- `byTransaction`, from the transaction identifier in hexadecimal digits. -/
abbrev Routes := AList fun _ : Bytes => Bytes

/-- The critical sections. -/
inductive Action where
  | smdpForTransaction (transactionID : Bytes)
  | rememberTransaction (transactionID smdpAddress : Bytes)
  | forgetTransaction (transactionID : Bytes)
deriving DecidableEq

/-- A route with an empty address counts as none. -/
def Routes.find (routes : Routes) (transactionID : Bytes) : Option Bytes :=
  if transactionID = [] then none
  else (routes.lookup (Hex.encode transactionID)).filter fun smdpAddress => smdpAddress ≠ []

def exec : Unit → Action → Routes → Option Bytes × Routes
  | (), .smdpForTransaction transactionID, routes => (routes.find transactionID, routes)
  | (), .rememberTransaction transactionID smdpAddress, routes =>
      (none, routes.insert (Hex.encode transactionID) smdpAddress)
  | (), .forgetTransaction transactionID, routes =>
      (none, routes.erase (Hex.encode transactionID))

/-- A call of the relay; what it asks for outside is up to its transport. -/
abbrev RelayM (Q R α : Type) := Program Error Action (Option Bytes) Q R α

variable {Q R : Type}

def smdpForTransaction (transactionID : Bytes) : RelayM Q R Bytes :=
  .act (.smdpForTransaction transactionID) fun
    | some smdpAddress => pure smdpAddress
    | none => .fail errUnknownSession

def rememberTransaction (transactionID smdpAddress : Bytes) : RelayM Q R Unit :=
  if transactionID = [] ∨ smdpAddress = [] then pure ()
  else .act (.rememberTransaction transactionID smdpAddress) fun _ => pure ()

def forgetTransaction (transactionID : Bytes) : RelayM Q R Unit :=
  if transactionID = [] then pure ()
  else .act (.forgetTransaction transactionID) fun _ => pure ()

/-! ## Calls -/

/-- `Transport.Post`. -/
abbrev Transport (Q R : Type) := Bytes → Endpoint → Bytes → RelayM Q R Response

variable (B : Bertlv) (transport : Option (Transport Q R))

def post (smdpAddress : Bytes) (endpoint : Endpoint) (request : Bytes) : RelayM Q R Response :=
  match transport with
  | none => .fail errMissingTransport
  | some transport =>
      if Text.trimSpace smdpAddress = [] then .fail errMissingSMDPAddress
      else transport smdpAddress endpoint request

def initiateAuthentication (request : Bytes) : RelayM Q R Response := do
  let smdpAddress ← Program.ofExcept (smdpAddressFromInitiateAuthentication B request)
  let response ← post transport smdpAddress .initiateAuthentication request
  rememberTransaction (transactionID B request) smdpAddress
  rememberTransaction (transactionID B response.payload) smdpAddress
  return response

/-- A call within a transaction whose answer may name the transaction again. -/
def relayInTransaction (endpoint : Endpoint) (request : Bytes) : RelayM Q R Response := do
  let smdpAddress ← smdpForTransaction (transactionID B request)
  let response ← post transport smdpAddress endpoint request
  rememberTransaction (transactionID B response.payload) smdpAddress
  return response

def authenticateClient : Bytes → RelayM Q R Response :=
  relayInTransaction B transport .authenticateClient

def getBoundProfilePackage : Bytes → RelayM Q R Response :=
  relayInTransaction B transport .getBoundProfilePackage

def handleNotification (request : Bytes) : RelayM Q R Response := do
  let smdpAddress ←
    if notificationAddress B request = [] then smdpForTransaction (transactionID B request)
    else pure (notificationAddress B request)
  if smdpAddress = [] then .fail errMissingSMDPAddress
  else post transport smdpAddress .handleNotification request

def canHandleNotification (request : Bytes) : RelayM Q R Bool :=
  if notificationAddress B request ≠ [] then pure true
  else if transactionID B request = [] then pure false
  else .act (.smdpForTransaction (transactionID B request)) fun route => pure route.isSome

def cancelSession (request : Bytes) : RelayM Q R Response := do
  let smdpAddress ← smdpForTransaction (transactionID B request)
  let response ← post transport smdpAddress .cancelSession request
  forgetTransaction (transactionID B request)
  return response

/-! ## The wrapper on the SM-DP+ leg -/

def tagRemoteProfileProvisioning : UInt8 := 0xa2

/-- The number of octets after a first identifier octet that announces them. -/
def tagContinuation : Bytes → Except Error Nat
  | [] => .error (.message "relay: truncated BER-TLV tag")
  | b :: rest => if b &&& 0x80 = 0 then .ok 1 else do return (← tagContinuation rest) + 1

/-- The number of identifier octets. -/
def tagLength : Bytes → Except Error Nat
  | [] => .error (.message "relay: empty BER-TLV payload")
  | b :: rest => if b &&& 0x1f = 0x1f then do return (← tagContinuation rest) + 1 else .ok 1

/-- Length octets, added up in a signed integer of 64 bits. -/
def lengthValue (octets : Bytes) : Int :=
  octets.foldl (fun length b => (length * 256 + b.toNat).bmod (2 ^ 64)) 0

/-- The length and the number of octets it takes. -/
def tlvLength : Bytes → Except Error (Int × Nat)
  | [] => .error (.message "relay: missing BER-TLV length")
  | lengthByte :: rest =>
      if lengthByte &&& 0x80 = 0 then .ok (lengthByte.toNat, 1)
      else
        let lengthOctets := (lengthByte &&& 0x7f).toNat
        if lengthOctets = 0 then
          .error (.message "relay: indefinite BER-TLV length is not supported")
        else if rest.length < lengthOctets then
          .error (.message "relay: truncated BER-TLV length")
        else .ok (lengthValue (rest.take lengthOctets), lengthOctets + 1)

/-- The identifier octets, the length and the number of octets before the content. -/
def tlvHeader (data : Bytes) : Except Error (Bytes × Int × Nat) := do
  let index ← tagLength data
  let (length, count) ← tlvLength (data.drop index)
  return (data.take index, length, index + count)

def tlvContent (data : Bytes) : Except Error (Bytes × Bytes) := do
  let (tag, length, headerLen) ← tlvHeader data
  if (data.length : Int) - headerLen ≠ length then
    throw (.message "relay: trailing or truncated BER-TLV payload")
  else return (tag, data.drop headerLen)

/-- The octets of a number from the least significant one, into a buffer of the given size. -/
def reversedOctets : Nat → Nat → Bytes
  | 0, _ => []
  | size + 1, value =>
      if value = 0 then [] else UInt8.ofNat value :: reversedOctets size (value / 256)

def encodeDERLength (length : Nat) : Bytes :=
  if length < 0x80 then [UInt8.ofNat length]
  else
    (0x80 ||| UInt8.ofNat (reversedOctets 8 length).length) :: (reversedOctets 8 length).reverse

def wrapRemoteProfileProvisioning (payload : Bytes) : Except Error Bytes := do
  let _ ← tlvContent payload
  return [tagRemoteProfileProvisioning] ++ encodeDERLength payload.length ++ payload

def unwrapRemoteProfileProvisioning (payload : Bytes) : Except Error Bytes := do
  let (tag, content) ← tlvContent payload
  if tag ≠ [tagRemoteProfileProvisioning] then
    throw (.message "relay: SM-DP+ response has an unexpected tag, want a2")
  else
    match tlvContent content with
    | .error _ => throw (.message "relay: invalid RemoteProfileProvisioningResponse child")
    | .ok _ => return content

/-! ## The HTTP transport -/

def defaultAdminProtocolVersion : Bytes := text "2.5.0"
def es9ASN1MediaType : Bytes := text "application/x-gsma-rsp-asn1"

structure HttpRequest where
  target : Bytes
  adminProtocolVersion : Bytes
  contentType : Bytes
  body : Bytes
deriving DecidableEq

/-- A response of the SM-DP+, whose body may fail to arrive. -/
structure HttpResponse where
  statusCode : Nat
  body : Except Error Bytes

structure HTTPTransport where
  adminProtocolVersion : Bytes
  /-- `url.Parse`: the host, and the URL with the path of the ES9+ binding joined to it -/
  parseURL : Bytes → Except Error (Bytes × Bytes)

def HTTPTransport.header (t : HTTPTransport) : Bytes :=
  if Text.trimSpace t.adminProtocolVersion = [] then defaultAdminProtocolVersion
  else Text.trimSpace t.adminProtocolVersion

def HTTPTransport.endpointURL (t : HTTPTransport) (smdpAddress : Bytes) : Except Error Bytes := do
  let raw := Text.trimSpace smdpAddress
  if raw = [] then throw errMissingSMDPAddress
  else
    let (host, target) ← t.parseURL
      (if (text "https://").isPrefixOf raw ∨ (text "http://").isPrefixOf raw then raw
      else text "https://" ++ raw)
    if host = [] then throw (.message "relay: invalid SM-DP+ address") else return target

def HTTPTransport.response (answer : HttpResponse) : Except Error Response := do
  if answer.statusCode = 204 then return { noContent := true }
  else
    let body ← answer.body
    if 299 < answer.statusCode then throw (.message "relay: SM-DP+ returned an error status")
    else return { payload := ← unwrapRemoteProfileProvisioning body }

/-- `HTTPTransport.Post`; the client answers with an error where no exchange takes place. -/
def HTTPTransport.post (t : HTTPTransport) : Transport HttpRequest (Except Error HttpResponse) :=
  fun smdpAddress _ payload => do
    let target ← Program.ofExcept (t.endpointURL smdpAddress)
    let body ← Program.ofExcept (wrapRemoteProfileProvisioning payload)
    let answer ← .call ⟨target, t.header, es9ASN1MediaType, body⟩ Program.ofExcept
    Program.ofExcept (HTTPTransport.response answer)

end OpenIotRsp.Relay
