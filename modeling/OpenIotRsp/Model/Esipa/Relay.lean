import OpenIotRsp.Model.Esipa.Handler
import OpenIotRsp.Model.Relay

/-!
# Relayed messages

`esipa/handler.go` with a relay: the messages of an indirect profile download
are forwarded as they came, and the answer of the SM-DP+ goes back as it came.
-/

namespace OpenIotRsp.Esipa

open Octets Ber Asn1 Concurrent Relay

def tagInitiateAuth : Tag := contextConstructed 57
def tagAuthenticate : Tag := contextConstructed 59
def tagGetBoundPackage : Tag := contextConstructed 58
def tagCancelSession : Tag := contextConstructed 65

def isRelayMessage (tlv : Tlv) : Bool :=
  tlv.tag = tagInitiateAuth ∨ tlv.tag = tagAuthenticate ∨ tlv.tag = tagGetBoundPackage ∨
    tlv.tag = tagCancelSession ∨ tlv.tag = tagHandleNotify

def isLocalHandleNotification (tlv : Tlv) : Bool :=
  (provideResultTLV tlv).isSome ||
    match tlv.children with
    | [child] => tlv.tag = tagHandleNotify ∧ child.tag = tagNotificationList
    | _ => false

/-- The octets of the answer, if it has any. -/
def relayResponse (B : Bertlv) (payload : Bytes) : Except Error (Option Bytes) := do
  if payload = [] then return none
  else
    let _ ← Asn1.decode B ESipaMessageFromEimToIpa.unmarshalBERTLV payload
    return some payload

section

variable {Q R : Type} (B : Bertlv) (transport : Option (Transport Q R))

/-- Whether the message is for the relay, which is there. -/
def shouldRelay (tlv : Tlv) : RelayM Q R Bool :=
  if ¬ isRelayMessage tlv then pure false
  else if tlv.tag ≠ tagHandleNotify then pure true
  else if isLocalHandleNotification tlv then pure false
  else
    match B.marshalBinary tlv with
    | none => pure false
    | some payload => canHandleNotification B payload

def relayMessage (tlv : Tlv) (payload : Bytes) : RelayM Q R Response :=
  if tlv.tag = tagInitiateAuth then initiateAuthentication B transport payload
  else if tlv.tag = tagAuthenticate then authenticateClient B transport payload
  else if tlv.tag = tagGetBoundPackage then getBoundProfilePackage B transport payload
  else if tlv.tag = tagCancelSession then cancelSession B transport payload
  else if tlv.tag = tagHandleNotify then Relay.handleNotification B transport payload
  else .fail (.message "esipa: unsupported IPA-to-eIM message")

/-- The message is forwarded with the octets in which it came. -/
def handleRelay (tlv : Tlv) (payload : Bytes) : RelayM Q R (Option Bytes) := do
  let relayed ← relayMessage B transport tlv payload
  if tlv.tag = tagHandleNotify ∨ relayed.noContent then return none
  else Program.ofExcept (relayResponse B relayed.payload)

/-- How a message goes on: to the store, or it has been answered. -/
inductive Handled where
  | unrelayed (message : Tlv)
  | relayed (answer : Option Bytes)

/-- `handleEncodedResponse` up to where the message is known to be for the relay. -/
def relayEncodedResponse (payload : Bytes) : RelayM Q R Handled := do
  let message ← Program.ofExcept (Asn1.decode B ESipaMessageFromIpaToEim.unmarshalBERTLV payload)
  if ← shouldRelay B message then return .relayed (← handleRelay B transport message payload)
  else return .unrelayed message

end

end OpenIotRsp.Esipa
