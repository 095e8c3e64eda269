import OpenIotRsp.Model.Ipadata
import OpenIotRsp.Verification.Storage.Records

/-!
# The frame of state application

Applying a package result writes profile states, the eUICC state and associated
eIMs of one device, and nothing else.
-/

namespace OpenIotRsp.Storage

open Octets Stateful Asn1

variable {γ : Type} {f : Store → γ} {tenantID : TenantID} {eid : Bytes}

/-- The observation is not affected by writes to the state of the device. -/
structure IgnoresState (f : Store → γ) (tenantID : TenantID) (eid : Bytes) : Prop where
  setProfile : ∀ state : ProfileState, state.eid = eid → Keeps f (setProfileState tenantID state)
  deleteProfile : ∀ iccid, Keeps f (deleteProfileState tenantID eid iccid)
  setEUICC : ∀ state : EUICCState, state.eid = eid → Keeps f (setEUICCState tenantID state)
  setEIM : ∀ associated : AssociatedEIM, associated.eid = eid →
    Keeps f (setAssociatedEIM tenantID associated)
  deleteEIM : ∀ eimID, Keeps f (deleteAssociatedEIM tenantID eid eimID)

/-- The records of another device. -/
theorem ignoresState_records {key : DeviceKey} (hkey : key ≠ newDeviceKey tenantID eid) :
    IgnoresState (Store.records key) tenantID eid where
  setProfile _ heid := records_setProfileState (heid ▸ hkey)
  deleteProfile _ := records_deleteProfileState hkey
  setEUICC _ heid := records_setEUICCState (heid ▸ hkey)
  setEIM _ heid := records_setAssociatedEIM (heid ▸ hkey)
  deleteEIM _ := records_deleteAssociatedEIM hkey

/-- Anything that reads none of the three state maps. -/
theorem ignoresState_of_forall
    (hf : ∀ (s : Store) profileStates euiccStates associatedEIMs,
      f { s with
        profileStates := profileStates
        euiccStates := euiccStates
        associatedEIMs := associatedEIMs } = f s) : IgnoresState f tenantID eid where
  setProfile _ _ := keeps_setProfileState fun s => hf s _ s.euiccStates s.associatedEIMs
  deleteProfile _ := keeps_deleteProfileState fun s => hf s _ s.euiccStates s.associatedEIMs
  setEUICC _ _ := keeps_setEUICCState fun s => hf s s.profileStates _ s.associatedEIMs
  setEIM _ _ := keeps_setAssociatedEIM fun s => hf s s.profileStates s.euiccStates _
  deleteEIM _ := keeps_deleteAssociatedEIM fun s => hf s s.profileStates s.euiccStates _

/-! ## Helpers -/

theorem keeps_ignoreNotFound {m : StoreM Unit} (hm : Keeps f m) :
    Keeps f (Euiccpkg.ignoreNotFound m) := by
  refine hm.attempt.bind fun r => ?_
  split
  next => exact keeps_pure f ()
  next => exact keeps_fail f _
  next => exact keeps_pure f ()

theorem keeps_findRow {α : Type} {m : StoreM α} (hm : Keeps f m) : Keeps f (Euiccpkg.findRow m) := by
  refine hm.attempt.bind fun r => ?_
  split
  next => exact keeps_pure f _
  next => exact keeps_pure f none
  next => exact keeps_fail f _

/-- Looking for a row always succeeds. -/
theorem findRow_require {α : Type} (find : Store → Option α) (s : Store) :
    Euiccpkg.findRow (require find) s = (.ok (find s), s) := by
  rw [Euiccpkg.findRow, attempt_bind, require_apply]
  cases find s <;> rfl

theorem findRow_getAssociatedEIM (tenantID : TenantID) (eid eimID : Bytes) (s : Store) :
    Euiccpkg.findRow (getAssociatedEIM tenantID eid eimID) s =
      (.ok (s.associatedEIMs.lookup (newAssociatedEIMKey tenantID eid eimID)), s) :=
  findRow_require _ s

theorem keeps_existingAssociationToken (f : Store → γ) (B : Bertlv) (tenantID : TenantID)
    (eid eimID : Bytes) : Keeps f (Euiccpkg.existingAssociationToken B tenantID eid eimID) := by
  refine (keeps_findRow (keeps_getAssociatedEIM f tenantID eid eimID)).bind fun row => ?_
  cases row with
  | none => exact keeps_pure f none
  | some associated => exact (keeps_ofExcept f _).bind fun _ => keeps_pure f _

theorem keeps_updatedConfig (f : Store → γ) (B : Bertlv) (tenantID : TenantID) (eid : Bytes)
    (config : EimConfigurationData) : Keeps f (Euiccpkg.updatedConfig B tenantID eid config) := by
  rw [Euiccpkg.updatedConfig]
  split
  next => exact keeps_pure f _
  next =>
      refine (keeps_existingAssociationToken f B tenantID eid config.eimID).bind fun token => ?_
      cases token with
      | none => exact keeps_pure f _
      | some token => exact keeps_pure f _

/-- The listed profiles belong to the device. -/
theorem eid_of_mem_listProfileStates {s : Store} {states : List ProfileState} {state : ProfileState}
    (hlist : (listProfileStates tenantID eid s).1 = .ok states) (hmem : state ∈ states) :
    state.eid = eid := by
  simp only [listProfileStates] at hlist
  rcases hrow : require (fun s => s.devices.lookup (newDeviceKey tenantID eid)) s with ⟨r, s'⟩
  cases r with
  | error e =>
      rw [bind_of_error hrow] at hlist
      cases hlist
  | ok device =>
      rw [bind_of_ok hrow, get_apply] at hlist
      obtain rfl := Except.ok.inj hlist
      rw [sortProfileStates, List.mem_insertionSort, Store.profilesOf] at hmem
      obtain ⟨row, hrow, rfl⟩ := List.mem_map.mp hmem
      have hkey := of_decide_eq_true (List.mem_filter.mp hrow).2
      exact row.2.property.1.trans hkey.2

/-! ## The two inventory loops -/

theorem keeps_syncProfileInventory
    (hset : ∀ state : ProfileState, state.eid = eid → Keeps f (setProfileState tenantID state))
    (hdelete : ∀ iccid, Keeps f (deleteProfileState tenantID eid iccid))
    (profiles : List Euiccpkg.ProfileInfo) :
    Keeps f (Euiccpkg.syncProfileInventory tenantID eid profiles) := by
  refine (keeps_listProfileStates f tenantID eid).bind fun existing => ?_
  refine (Keeps.forM fun profile _ => hset _ rfl).bind fun _ => ?_
  exact Keeps.forM fun state _ => keeps_ignoreNotFound (hdelete state.iccid)

/-- What a data response reports of a profile. -/
def reportOf (profile : ProfileInfo) : Euiccpkg.ProfileInfo where
  iccid := Hex.encode (profile.iccid.getD [])
  isEnabled := profile.profileState = some profileStateEnabled
  isFallback := profile.fallbackAttribute

theorem encode_eq_nil {b : Bytes} : Hex.encode b = [] ↔ b = [] :=
  ⟨fun h => Hex.encode_injective (h.trans (rfl : [] = Hex.encode [])), fun h => by rw [h]; rfl⟩

/-- A profile list of a package result is the reports that have an ICCID. -/
theorem filterMap_domainProfile (profiles : List ProfileInfo) :
    profiles.filterMap Euiccpkg.domainProfile =
      (profiles.map reportOf).filter fun profile => profile.iccid ≠ [] := by
  induction profiles with
  | nil => rfl
  | cons profile profiles ih =>
      cases hiccid : profile.iccid.getD [] with
      | nil =>
          have hnone : Euiccpkg.domainProfile profile = none := by
            simp [Euiccpkg.domainProfile, hiccid]
          have hempty : (reportOf profile).iccid = [] := by
            rw [reportOf, hiccid]
            rfl
          simp [hnone, hempty, ih]
      | cons b bs =>
          have hsome : Euiccpkg.domainProfile profile = some (reportOf profile) := by
            simp [Euiccpkg.domainProfile, reportOf, hiccid]
          have hne : (reportOf profile).iccid ≠ [] := by
            rw [reportOf, hiccid]
            exact mt encode_eq_nil.mp (List.cons_ne_nil b bs)
          simp [hsome, hne, ih]

theorem inventoryState_eq (existing : List ProfileState) (eid : Bytes) (profile : ProfileInfo) :
    Ipadata.inventoryState existing eid profile =
      Euiccpkg.inventoryState existing eid (reportOf profile) := by
  rw [Ipadata.inventoryState, Euiccpkg.inventoryState, reportOf]
  cases existing.find? fun state => state.iccid = Hex.encode (profile.iccid.getD []) <;> rfl

/-- The data response and the package result with the same profiles have the same effect. -/
theorem syncProfileInventory_eq (tenantID : TenantID) (eid : Bytes) (data : IpaEuiccData) :
    Ipadata.syncProfileInventory tenantID eid data =
      if !data.profileInfoListPresent ∧ data.profiles = [] then pure ()
      else Euiccpkg.syncProfileInventory tenantID eid (data.profiles.map reportOf) := by
  refine if_congr Iff.rfl rfl ?_
  have hlisted : ((data.profiles.map reportOf).filter fun profile => profile.iccid ≠ []) =
      (data.profiles.filter fun profile => ¬ profile.iccid.getD [] = []).map reportOf := by
    rw [List.filter_map]
    congr 2
    funext profile
    simp [reportOf, encode_eq_nil]
  rw [Euiccpkg.syncProfileInventory, hlisted]
  refine congrArg (listProfileStates tenantID eid >>= ·) (funext fun existing => ?_)
  -- the rows that are not reported are the same, and so are those that are written
  have hgone : ∀ reported : List ProfileInfo,
      (existing.filter fun state =>
        ¬ state.iccid ∈ reported.map fun profile => Hex.encode (profile.iccid.getD [])) =
      existing.filter fun state =>
        !((reported.map reportOf).any fun profile => profile.iccid = state.iccid) := by
    intro reported
    refine List.filter_congr fun state _ => ?_
    rw [List.any_map, Bool.eq_iff_iff, decide_eq_true_iff, Bool.not_eq_true', List.any_eq_false,
      List.mem_map]
    constructor
    · intro h profile hmem hiccid
      exact h ⟨profile, hmem, of_decide_eq_true hiccid⟩
    · rintro h ⟨profile, hmem, hiccid⟩
      exact h profile hmem (decide_eq_true hiccid)
  dsimp only
  rw [listForM_ite_pure, listForM_ite_pure, listForM_map, ← hgone]
  simp only [inventoryState_eq]

/-- Reports without an ICCID make no difference. -/
theorem syncProfileInventory_domainProfile (tenantID : TenantID) (eid : Bytes)
    (profiles : List ProfileInfo) :
    Euiccpkg.syncProfileInventory tenantID eid (profiles.filterMap Euiccpkg.domainProfile) =
      Euiccpkg.syncProfileInventory tenantID eid (profiles.map reportOf) := by
  rw [filterMap_domainProfile, Euiccpkg.syncProfileInventory, Euiccpkg.syncProfileInventory,
    List.filter_filter]
  simp only [Bool.and_self]

/-! ## Profiles and the eUICC -/

namespace IgnoresState

variable (hf : IgnoresState f tenantID eid)
include hf

theorem setProfileEnabled (iccid : Bytes) (enabled : Bool) :
    Keeps f (Euiccpkg.setProfileEnabled tenantID eid iccid enabled) :=
  (keeps_findRow (keeps_getProfileState f tenantID eid iccid)).bind fun _ => hf.setProfile _ rfl

theorem syncProfileInventory (profiles : List Euiccpkg.ProfileInfo) :
    Keeps f (Euiccpkg.syncProfileInventory tenantID eid profiles) :=
  keeps_syncProfileInventory hf.setProfile hf.deleteProfile profiles

theorem syncDataInventory (data : IpaEuiccData) :
    Keeps f (Ipadata.syncProfileInventory tenantID eid data) := by
  rw [syncProfileInventory_eq]
  exact Keeps.ite (fun _ => keeps_pure f ()) fun _ => hf.syncProfileInventory _

theorem setProfileFallback (iccid : Bytes) :
    Keeps f (Euiccpkg.setProfileFallback tenantID eid iccid) := by
  refine (keeps_listProfileStates f tenantID eid).bind_of_result fun s states hlist => ?_
  refine (Keeps.forM fun state hmem => ?_).bind fun _ => ?_
  · have heid := eid_of_mem_listProfileStates hlist hmem
    exact Keeps.ite (fun _ => keeps_pure f ()) fun _ => hf.setProfile _ heid
  · exact Keeps.ite (fun _ => keeps_pure f ()) fun _ => hf.setProfile _ rfl

theorem clearProfileFallback : Keeps f (Euiccpkg.clearProfileFallback tenantID eid) := by
  refine (keeps_listProfileStates f tenantID eid).bind_of_result fun s states hlist => ?_
  refine Keeps.forM fun state hmem => ?_
  have heid := eid_of_mem_listProfileStates hlist hmem
  exact Keeps.ite (fun _ => hf.setProfile _ heid) fun _ => keeps_pure f ()

theorem setEUICCDefaultSMDPAddress (address : Bytes) :
    Keeps f (Euiccpkg.setEUICCDefaultSMDPAddress tenantID eid address) :=
  (keeps_findRow (keeps_getEUICCState f tenantID eid)).bind fun _ => hf.setEUICC _ rfl

theorem applyPSMOState (pkg : EuiccPackage) (result : Option Euiccpkg.Result) :
    Keeps f (Euiccpkg.applyPSMOState tenantID eid pkg result) := by
  unfold Euiccpkg.applyPSMOState
  dsimp only
  split
  next => exact hf.setProfileEnabled _ true
  next => exact hf.setProfileEnabled _ false
  next => exact keeps_ignoreNotFound (hf.deleteProfile _)
  next =>
      split
      next => exact keeps_pure f ()
      next => exact hf.syncProfileInventory _
  next => exact hf.setProfileFallback _
  next => exact hf.clearProfileFallback
  next => exact Keeps.ite (fun _ => keeps_pure f ()) fun _ => hf.setEUICCDefaultSMDPAddress _
  next => exact keeps_pure f ()

/-! ## Associated eIMs -/

theorem setAssociatedConfig (B : Bertlv) (config : EimConfigurationData) :
    Keeps f (Euiccpkg.setAssociatedConfig B tenantID eid config) := by
  refine (keeps_ofExcept f _).bind_of_result fun s associated hok => hf.setEIM _ ?_
  obtain ⟨payload, -, heq⟩ := Outcome.bind_eq_ok.mp hok
  obtain rfl := Except.ok.inj heq
  rfl

theorem applyECOState (B : Bertlv) (pkg : EuiccPackage) (result : Option Euiccpkg.Result) :
    Keeps f (Euiccpkg.applyECOState B tenantID eid pkg result) := by
  rw [Euiccpkg.applyECOState]
  split
  next => exact hf.setAssociatedConfig B _
  next => exact (keeps_updatedConfig f B tenantID eid _).bind fun _ => hf.setAssociatedConfig B _
  next => exact keeps_ignoreNotFound (hf.deleteEIM _)
  next => exact keeps_pure f ()

theorem applyPackageResultState (B : Bertlv) (pkg : EuiccPackage)
    (result : Option Euiccpkg.Result) :
    Keeps f (Euiccpkg.applyPackageResultState B tenantID eid pkg result) :=
  (hf.applyPSMOState pkg result).bind fun _ => hf.applyECOState B pkg result

end IgnoresState

end OpenIotRsp.Storage

namespace OpenIotRsp.Euiccpkg

open Octets Stateful Asn1 Storage

/-! ## Stored tokens -/

variable {B : Bertlv}

/-- The token in the row of an associated eIM. -/
def rowToken (B : Bertlv) : Option AssociatedEIM → Except Error (Option Int)
  | none => .ok none
  | some associated => do
      let config ← Asn1.decode B (EimConfigurationData.unmarshalBERTLV B) associated.configPayload
      return config.associationToken

theorem associationTokenForEIM_apply (tenantID : TenantID) (eid eimID : Bytes) (s : Store) :
    associationTokenForEIM B tenantID eid eimID s =
      (rowToken B ((s.records (newDeviceKey tenantID eid)).eims eimID), s) := by
  have hrow : findRow (getAssociatedEIM tenantID eid eimID) s =
      (.ok ((s.records (newDeviceKey tenantID eid)).eims eimID), s) :=
    findRow_getAssociatedEIM tenantID eid eimID s
  rw [associationTokenForEIM, existingAssociationToken, bind_of_ok hrow]
  cases (s.records (newDeviceKey tenantID eid)).eims eimID with
  | none => rfl
  | some associated =>
      rw [rowToken]
      cases hdecode :
        Asn1.decode B (EimConfigurationData.unmarshalBERTLV B) associated.configPayload with
      | error e => exact ofExcept_bind_of_error _ s hdecode
      | ok config => exact ofExcept_bind_of_ok _ s hdecode

/-- The configuration that `updateEim` stores, from the old row. -/
def updatedFrom (B : Bertlv) (config : EimConfigurationData) (old : Option AssociatedEIM) :
    Except Error EimConfigurationData :=
  match config.associationToken with
  | some _ => .ok config
  | none => do return { config with associationToken := ← rowToken B old }

theorem updatedConfig_apply (tenantID : TenantID) (eid : Bytes) (config : EimConfigurationData)
    (s : Store) :
    updatedConfig B tenantID eid config s =
      (updatedFrom B config ((s.records (newDeviceKey tenantID eid)).eims config.eimID), s) := by
  rw [updatedConfig, updatedFrom]
  cases htoken : config.associationToken with
  | some token => rfl
  | none =>
      have hread : existingAssociationToken B tenantID eid config.eimID s = _ :=
        associationTokenForEIM_apply tenantID eid config.eimID s
      cases hrow : rowToken B ((s.records (newDeviceKey tenantID eid)).eims config.eimID) with
      | error e =>
          rw [hrow] at hread
          exact bind_of_error hread
      | ok token =>
          rw [hrow] at hread
          refine (bind_of_ok hread).trans ?_
          cases token with
          | some token => rfl
          | none =>
              have hsame : { config with associationToken := none } = config := by rw [← htoken]
              simp [hsame]

end OpenIotRsp.Euiccpkg
