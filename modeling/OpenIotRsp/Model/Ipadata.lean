import OpenIotRsp.Model.Asn1.IpaData
import OpenIotRsp.Model.Euiccpkg.State

/-!
# IPA-directed data reads

`ipadata/request.go`: taking over the response to a BF52 request.
-/

namespace OpenIotRsp.Ipadata

open Octets Ber Stateful Asn1 Storage

/-! ## Certificates -/

structure Certificate where
  subjectSerialNumber : Bytes
  subjectKeyID : Bytes
deriving DecidableEq

/-- `x509.ParseCertificate`, with the fields of a certificate that the code reads. -/
structure X509 where
  parseCertificate : Bytes → Option Certificate

variable (B : Bertlv) (X : X509)

/-! ## Responses -/

def marshalRaw (tlv : Option Tlv) : Bytes := (tlv.bind B.marshalBinary).getD []

def certificateSubjectKeyID (tlv : Option Tlv) : Bytes :=
  match (certificateDERFromTagged B tlv).bind X.parseCertificate with
  | some certificate => certificate.subjectKeyID
  | none => []

def infoIdentifiers : Option EUICCInfo → List Bytes
  | none => []
  | some info => info.verificationCIPKIDs ++ info.signingCIPKIDs ++ info.signingV3CIPKIDs

/-- Without empty identifiers, each once, in the order of their first appearance. -/
def certificateIdentifiers (data : IpaEuiccData) : List Bytes :=
  let ids := infoIdentifiers data.euiccInfo1 ++ infoIdentifiers data.euiccInfo2 ++
    [certificateSubjectKeyID B X data.eumCertificateRaw,
      certificateSubjectKeyID B X data.euiccCertificateRaw]
  ((ids.filter fun id => id ≠ []).map Hex.encode).foldl
    (fun out value => if value ∈ out then out else out ++ [value]) []

/-- The device of the state is the one that the data names, if it names one. -/
def stateEID (eid : Bytes) (data : IpaEuiccData) : Bytes :=
  if (data.eid.getD []).length = 16 then Hex.encode (data.eid.getD []) else eid

def stateFromResponse (eid : Bytes) (data : IpaEuiccData) (payload : Bytes) : EUICCState where
  eid := stateEID eid data
  eidValue := data.eid.getD []
  defaultSMDPAddress := data.defaultSMDPAddress.getD []
  rootSMDSAddress := data.rootSMDSAddress.getD []
  euiccInfo1 := marshalRaw B data.euiccInfo1Raw
  euiccInfo2 := marshalRaw B data.euiccInfo2Raw
  ipaCapabilities := marshalRaw B data.ipaCapabilitiesRaw
  deviceInfo := marshalRaw B data.deviceInfoRaw
  eumCertificate := marshalRaw B data.eumCertificateRaw
  euiccCertificate := marshalRaw B data.euiccCertificateRaw
  certificateIdentifiers := certificateIdentifiers B X data
  rawPayload := payload

/-- The row of a reported profile: the stored row, or an empty one, with what the report carries.
The ICCIDs of one device are distinct, so at most one existing row is meant. -/
def inventoryState (existing : List ProfileState) (eid : Bytes) (profile : ProfileInfo) :
    ProfileState :=
  let iccid := Hex.encode (profile.iccid.getD [])
  let state := (existing.find? fun state => state.iccid = iccid).getD { eid := [], iccid := [] }
  { state with
    eid := eid
    iccid := iccid
    isEnabled := profile.profileState = some profileStateEnabled
    isFallback := profile.fallbackAttribute }

/-- The profiles of a data response, when it reports any. -/
def syncProfileInventory (tenantID : TenantID) (eid : Bytes) (data : IpaEuiccData) : StoreM Unit :=
  if !data.profileInfoListPresent ∧ data.profiles = [] then pure ()
  else do
    let existing ← listProfileStates tenantID eid
    let reported := data.profiles.filter fun profile => profile.iccid.getD [] ≠ []
    let seen := reported.map fun profile => Hex.encode (profile.iccid.getD [])
    data.profiles.forM fun profile =>
      if profile.iccid.getD [] = [] then pure ()
      else setProfileState tenantID (inventoryState existing eid profile)
    existing.forM fun state =>
      if state.iccid ∈ seen then pure ()
      else Euiccpkg.ignoreNotFound (deleteProfileState tenantID eid state.iccid)

def applyResponse (tenantID : TenantID) (eid : Bytes) (response : IpaEuiccDataResponse)
    (payload : Bytes) : StoreM Unit :=
  match response with
  | .error _ => pure ()
  | .data data => do
      setEUICCState tenantID (stateFromResponse B X eid data payload)
      syncProfileInventory tenantID eid data

end OpenIotRsp.Ipadata
