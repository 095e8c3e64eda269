import Mathlib.Data.List.AList
import OpenIotRsp.Model.Asn1.Upload
import OpenIotRsp.Model.Euiccpkg.Operation

/-!
# The emulated eUICC

The state in `mockipa/device_view.go`, what an executed operation does to it
(`applyOperationState` of `mockipa/runner.go`), and the list of its profiles.
A Go map has no order: the profiles are listed in the order of the association
list.
-/

namespace OpenIotRsp.MockIpa

open Octets Ber Asn1 Euiccpkg

/-! ## Profiles and tokens -/

structure ProfileRecord where
  iccid : Bytes
  smdp : Bytes := []
  enabled : Bool := false
  fallback : Bool := false
deriving DecidableEq

/-- A record stands under the digits of its ICCID. -/
abbrev StoredRecord (key : Bytes) := { record : ProfileRecord // Hex.encode record.iccid = key }

structure DeviceState where
  defaultSMDP : Bytes := []
  rootSMDS : Bytes := text "smds.example"
  profiles : AList StoredRecord
  associationTokens : AList fun _ : Bytes => Int

def newDeviceState : DeviceState where
  profiles := ∅
  associationTokens := ∅

namespace DeviceState

variable (d : DeviceState)

def associationToken (eimID : Bytes) : Option Int :=
  if eimID = [] then none else d.associationTokens.lookup eimID

def setAssociationToken (eimID : Bytes) (token : Int) : DeviceState :=
  if eimID = [] then d
  else { d with associationTokens := d.associationTokens.insert eimID token }

def clearAssociationToken (eimID : Bytes) : DeviceState :=
  if eimID = [] then d
  else { d with associationTokens := d.associationTokens.erase eimID }

def profile (iccid : Bytes) : Option ProfileRecord :=
  (d.profiles.lookup (Hex.encode iccid)).map Subtype.val

/-- Store a record under its ICCID. -/
def setProfile (record : ProfileRecord) : DeviceState :=
  { d with profiles := d.profiles.insert (Hex.encode record.iccid) ⟨record, rfl⟩ }

def applyPSMO (iccid : Bytes) (enabled : Bool) : DeviceState :=
  if iccid = [] then d
  else
    let record := (d.profile iccid).getD { iccid := iccid }
    d.setProfile { record with iccid := iccid, enabled := enabled }

def deleteProfile (iccid : Bytes) : DeviceState :=
  if iccid = [] then d else { d with profiles := d.profiles.erase (Hex.encode iccid) }

/-- Set the fallback attribute of every record, by its key. -/
def assignFallback (fallback : Bytes → Bool) : DeviceState :=
  { d with
    profiles := ⟨d.profiles.entries.map (Sigma.map id fun key (record : StoredRecord key) =>
        (⟨{ record.val with fallback := fallback key }, record.property⟩ : StoredRecord key)),
      d.profiles.nodupKeys.map₂ _ _⟩ }

def setProfileFallback (iccid : Bytes) : DeviceState :=
  if iccid = [] then d
  else
    let d := d.assignFallback fun key => key = Hex.encode iccid
    if (d.profile iccid).isSome then d else d.setProfile { iccid := iccid, fallback := true }

def clearProfileFallback : DeviceState := d.assignFallback fun _ => false

end DeviceState

/-- The octets of hexadecimal text, or the text itself. -/
def profileIDToICCID (profileID : Bytes) : Bytes :=
  match Hex.decode profileID with
  | some (b :: bs) => b :: bs
  | _ => profileID

def DeviceState.recordDownload (d : DeviceState) (profileID smdp : Bytes) : DeviceState :=
  let d := d.setProfile { iccid := profileIDToICCID profileID, smdp := smdp, enabled := true }
  if smdp = [] then d else { d with defaultSMDP := smdp }

/-! ## Executed operations -/

/-- The token that the eUICC associates with an added eIM. -/
def addedToken (config : EimConfigurationData) : Int := config.associationToken.getD 1

/-- The effect on the device of the single operation of a package.  The result names the same
operation. -/
def DeviceState.applyOperation (d : DeviceState) : EuiccPackage → DeviceState
  | .psmo [.enable iccid _] => d.applyPSMO iccid true
  | .psmo [.disable iccid] => d.applyPSMO iccid false
  | .psmo [.delete iccid] => d.deleteProfile iccid
  | .psmo [.setFallbackAttribute iccid] => d.setProfileFallback iccid
  | .psmo [.unsetFallbackAttribute] => d.clearProfileFallback
  | .eco [.addEIM (some config)] => d.setAssociationToken config.eimID (addedToken config)
  | .eco [.updateEIM (some config)] =>
      match config.associationToken with
      | some token => d.setAssociationToken config.eimID token
      | none => d
  | .eco [.deleteEIM eimID] => d.clearAssociationToken eimID
  | _ => d

/-! ## The profile list -/

def ProfileRecord.info (record : ProfileRecord) : Asn1.ProfileInfo where
  iccid := record.iccid
  profileState := some (if record.enabled then profileStateEnabled else profileStateDisabled)
  fallbackAttribute := record.fallback

def DeviceState.profileInfos (d : DeviceState) : List Asn1.ProfileInfo :=
  d.profiles.entries.map fun row => row.2.val.info

end OpenIotRsp.MockIpa
