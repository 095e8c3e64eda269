import OpenIotRsp.Library.Text
import OpenIotRsp.Model.Euiccpkg.Result
import OpenIotRsp.Model.Storage.Memory

/-!
# Applying a result to the stored state

`euiccpkg/state.go`: the effect of a successful single-operation package on the
stored view of the device, and the association token of an eIM; from
`euiccpkg/bootstrap.go`, the check of an initial configuration.
-/

namespace OpenIotRsp.Euiccpkg

open Octets Stateful Asn1 Storage

/-- Run an action for which a missing row is no error. -/
def ignoreNotFound (m : StoreM Unit) : StoreM Unit := do
  match ← attempt m with
  | .error .notFound => pure ()
  | .error e => fail e
  | .ok () => pure ()

/-- Read a row that may be missing. -/
def findRow {α : Type} (m : StoreM α) : StoreM (Option α) := do
  match ← attempt m with
  | .ok row => pure (some row)
  | .error .notFound => pure none
  | .error e => fail e

/-! ## Profiles -/

def setProfileEnabled (tenantID : TenantID) (eid iccid : Bytes) (enabled : Bool) : StoreM Unit := do
  let state := (← findRow (getProfileState tenantID eid iccid)).getD { eid := eid, iccid := iccid }
  setProfileState tenantID { state with eid := eid, iccid := iccid, isEnabled := enabled }

/-- The row of a reported profile: what the report does not carry is kept.  The ICCIDs of one device
are distinct, so at most one existing row is meant. -/
def inventoryState (existing : List ProfileState) (eid : Bytes) (profile : ProfileInfo) :
    ProfileState where
  eid := eid
  iccid := profile.iccid
  isEnabled := profile.isEnabled
  isFallback := profile.isFallback
  smdpAddress :=
    ((existing.find? fun state => state.iccid = profile.iccid).map
      ProfileState.smdpAddress).getD []

/-- The stored profiles become the reported ones; profiles without an ICCID are passed over. -/
def syncProfileInventory (tenantID : TenantID) (eid : Bytes) (profiles : List ProfileInfo) :
    StoreM Unit := do
  let existing ← listProfileStates tenantID eid
  let listed := profiles.filter fun profile => profile.iccid ≠ []
  listed.forM fun profile => setProfileState tenantID (inventoryState existing eid profile)
  let gone := existing.filter fun state => !(listed.any fun profile => profile.iccid = state.iccid)
  gone.forM fun state => ignoreNotFound (deleteProfileState tenantID eid state.iccid)

def setProfileFallback (tenantID : TenantID) (eid iccid : Bytes) : StoreM Unit := do
  let states ← listProfileStates tenantID eid
  states.forM fun state =>
    if state.isFallback = decide (state.iccid = iccid) then pure ()
    else setProfileState tenantID { state with isFallback := state.iccid = iccid }
  if states.any fun state => state.iccid = iccid then pure ()
  else setProfileState tenantID { eid := eid, iccid := iccid, isFallback := true }

def clearProfileFallback (tenantID : TenantID) (eid : Bytes) : StoreM Unit := do
  let states ← listProfileStates tenantID eid
  states.forM fun state =>
    if state.isFallback then setProfileState tenantID { state with isFallback := false }
    else pure ()

/-! ## The eUICC -/

def defaultDPAddressFromPackage : EuiccPackage → Bytes
  | .psmo [.setDefaultDPAddress (some request)] => request.defaultDPAddress
  | _ => []

def setEUICCDefaultSMDPAddress (tenantID : TenantID) (eid address : Bytes) : StoreM Unit := do
  let state := (← findRow (getEUICCState tenantID eid)).getD { eid := eid }
  setEUICCState tenantID { state with eid := eid, defaultSMDPAddress := address }

/-- A `result` is absent where only the package is known. -/
def applyPSMOState (tenantID : TenantID) (eid : Bytes) (pkg : EuiccPackage)
    (result : Option Result) : StoreM Unit :=
  let iccid := Hex.encode (packagePSMO pkg).2
  match (packagePSMO pkg).1 with
  | .enable => setProfileEnabled tenantID eid iccid true
  | .disable => setProfileEnabled tenantID eid iccid false
  | .delete => ignoreNotFound (deleteProfileState tenantID eid iccid)
  | .listProfileInfo =>
      match result with
      | none => pure ()
      | some result => syncProfileInventory tenantID eid result.profiles
  | .setFallbackAttribute => setProfileFallback tenantID eid iccid
  | .unsetFallbackAttribute => clearProfileFallback tenantID eid
  | .setDefaultDPAddress =>
      if defaultDPAddressFromPackage pkg = [] then pure ()
      else setEUICCDefaultSMDPAddress tenantID eid (defaultDPAddressFromPackage pkg)
  | _ => pure ()

/-! ## Associated eIMs -/

variable (B : Bertlv)

/-- The token in the stored configuration of an eIM; none where there is no eIM or no token. -/
def existingAssociationToken (tenantID : TenantID) (eid eimID : Bytes) : StoreM (Option Int) := do
  match ← findRow (getAssociatedEIM tenantID eid eimID) with
  | none => pure none
  | some associated => do
      let config ← ofExcept
        (Asn1.decode B (EimConfigurationData.unmarshalBERTLV B) associated.configPayload)
      return config.associationToken

/-- `AssociationTokenForEIM`, the same lookup for the octets under a signature. -/
def associationTokenForEIM (tenantID : TenantID) (eid eimID : Bytes) : StoreM (Option Int) :=
  existingAssociationToken B tenantID eid eimID

def associatedEIMFromConfig (eid : Bytes) (config : EimConfigurationData) :
    Except Error AssociatedEIM := do
  let payload ← Asn1.encode B (config.marshalBERTLV B)
  return ⟨eid, config.eimID, config.eimIDType, payload⟩

def setAssociatedConfig (tenantID : TenantID) (eid : Bytes) (config : EimConfigurationData) :
    StoreM Unit := do
  setAssociatedEIM tenantID (← ofExcept (associatedEIMFromConfig B eid config))

/-- The configuration that `addEim` associates: with the token the eUICC returned. -/
def addedConfig (config : EimConfigurationData) (result : Option Result) : EimConfigurationData :=
  match result.bind Result.addEIMAssociationToken with
  | some token => { config with associationToken := some token }
  | none => config

/-- The configuration that `updateEim` associates: without a token of its own it keeps the old
one. -/
def updatedConfig (tenantID : TenantID) (eid : Bytes) (config : EimConfigurationData) :
    StoreM EimConfigurationData :=
  match config.associationToken with
  | some _ => pure config
  | none => do
      match ← existingAssociationToken B tenantID eid config.eimID with
      | some token => return { config with associationToken := some token }
      | none => return config

def applyECOState (tenantID : TenantID) (eid : Bytes) (pkg : EuiccPackage)
    (result : Option Result) : StoreM Unit :=
  match (packageECO pkg).2 with
  | some (.addEIM (some config)) => setAssociatedConfig B tenantID eid (addedConfig config result)
  | some (.updateEIM (some config)) => do
      setAssociatedConfig B tenantID eid (← updatedConfig B tenantID eid config)
  | some (.deleteEIM eimID) => ignoreNotFound (deleteAssociatedEIM tenantID eid eimID)
  | _ => pure ()

/-- `ApplyPackageResultState`. -/
def applyPackageResultState (tenantID : TenantID) (eid : Bytes) (pkg : EuiccPackage)
    (result : Option Result) : StoreM Unit := do
  applyPSMOState tenantID eid pkg result
  applyECOState B tenantID eid pkg result

/-! ## Initial associations -/

def validateInitialEIMConfigurationData (config : EimConfigurationData) : Except Error Unit := do
  if config.eimID = [] ∨ 128 < config.eimID.length then
    throw (.message "euiccpkg: eimId must be 1..128 characters")
  if Text.trimSpace (config.eimFQDN.getD []) = [] then
    throw (.message "euiccpkg: eimFQDN is required for initial provisioning")
  match config.counterValue with
  | none => throw (.message "euiccpkg: counterValue is required")
  | some counter =>
      if counter < 0 then throw (.message "euiccpkg: counterValue must be non-negative")
  if config.eimPublicKeyData = none then
    throw (.message "euiccpkg: eimPublicKeyData is required")

/-- `RecordInitialEIMAssociation`: an association that was made outside of the eIM. -/
def recordInitialEIMAssociation (tenantID : TenantID) (eid : Bytes) (config : EimConfigurationData) :
    StoreM Unit := do
  ofExcept (validateInitialEIMConfigurationData config)
  setAssociatedConfig B tenantID eid config

end OpenIotRsp.Euiccpkg
