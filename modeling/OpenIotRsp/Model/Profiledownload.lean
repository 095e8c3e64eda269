import OpenIotRsp.Library.Text
import OpenIotRsp.Model.Asn1.Result
import OpenIotRsp.Model.Storage.Memory

/-!
# Profile download triggers

`profiledownload/activation.go` and `profiledownload/trigger.go`: activation
codes, the triggers built from a download source, and their queueing.
-/

namespace OpenIotRsp.Profiledownload

open Octets Stateful Text Asn1 Storage

/-! ## Activation codes -/

structure ActivationCode where
  smdpAddress : Bytes
  matchingID : Bytes
  raw : Bytes
deriving DecidableEq

/-- `LPA:`, before the activation code in a QR code. -/
def lpaScheme : Bytes := [0x4c, 0x50, 0x41, 0x3a]

/-- `1`, the first part of every activation code. -/
def formatVersion : Bytes := [0x31]

/-- `$`, between the parts of an activation code. -/
def partSeparator : UInt8 := 0x24

def parseActivationCode (value : Bytes) : Except Error ActivationCode :=
  let raw := trimSpace value
  match splitOn partSeparator (trimPrefix lpaScheme raw) with
  | version :: address :: rest =>
      if version ≠ formatVersion ∨ trimSpace address = [] then
        .error (.message "profiledownload: invalid activation code")
      else .ok ⟨trimSpace address, trimSpace (rest.headD []), raw⟩
  | _ => .error (.message "profiledownload: invalid activation code")

namespace ActivationCode

def string (c : ActivationCode) : Bytes := trimPrefix lpaScheme c.raw

def lpaString (c : ActivationCode) : Bytes := lpaScheme ++ c.string

end ActivationCode

/-! ## Triggers -/

def activationCodeMaxLen : Nat := 255

def trigger (data : ProfileDownloadData) (transactionID : Option Bytes) :
    ProfileDownloadTriggerRequest :=
  ⟨some data, transactionID⟩

def newActivationCodeTrigger (activationCode : Bytes) (transactionID : Option Bytes) :
    Except Error ProfileDownloadTriggerRequest := do
  let parsed ← parseActivationCode activationCode
  let code := parsed.string
  if activationCodeMaxLen < code.length then
    throw (.message "profiledownload: activation code is longer than the maximum")
  return trigger (.activationCode code) transactionID

def newSMDPAddressTrigger (smdpAddress matchingID : Bytes) (transactionID : Option Bytes) :
    Except Error ProfileDownloadTriggerRequest :=
  if trimSpace smdpAddress = [] then
    .error (.message "profiledownload: missing SM-DP+ address")
  else if trimSpace matchingID = [] then .error (.message "profiledownload: missing matching ID")
  else
    newActivationCodeTrigger
      (formatVersion ++ partSeparator :: (smdpAddress ++ partSeparator :: matchingID))
      transactionID

def newDefaultSMDPTrigger (transactionID : Option Bytes) : ProfileDownloadTriggerRequest :=
  trigger .contactDefaultSMDP transactionID

def newSMDSAddressTrigger (smdsAddress : Bytes) (transactionID : Option Bytes) :
    ProfileDownloadTriggerRequest :=
  trigger (.contactSMDS (if smdsAddress = [] then none else some smdsAddress)) transactionID

/-- The trigger as pending work for the device. -/
def enqueueTrigger (B : Bertlv) (tenantID : TenantID) (eid : Bytes)
    (request : ProfileDownloadTriggerRequest) : StoreM Operation := do
  let payload ← ofExcept (Asn1.encode B (.ok request.marshalBERTLV))
  enqueueOperation tenantID ⟨eid, .profileDownloadTrigger, payload⟩

end OpenIotRsp.Profiledownload
