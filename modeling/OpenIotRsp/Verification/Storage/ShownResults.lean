import OpenIotRsp.Verification.Storage.DeviceEffect

/-!
# Results that the state shows

Applying a result writes what the device reported.  The stored rows stay as they
are exactly if they already show it.
-/

namespace OpenIotRsp.Storage

open Octets Stateful Asn1 Euiccpkg

/-! ## Associated eIMs -/

/-- The row that `updateEim` writes: without a token of its own it keeps that of the old row. -/
def updatedRow (B : Bertlv) (eid : Bytes) (config : EimConfigurationData)
    (old : Option AssociatedEIM) : Except Error AssociatedEIM :=
  match config.associationToken with
  | some _ => associatedEIMFromConfig B eid config
  | none => do
      associatedEIMFromConfig B eid { config with associationToken := ← rowToken B old }

namespace DeviceRecords

/-- With the row of an associated eIM, if it could be made. -/
def withAssociation (r : DeviceRecords) : Except Error AssociatedEIM → DeviceRecords
  | .ok row => r.withEIM row.eimID (some row)
  | .error _ => r

/-- The effect of a package with one eCO. -/
def withECO (B : Bertlv) (eid : Bytes) (pkg : EuiccPackage) (result : Option Result)
    (r : DeviceRecords) : DeviceRecords :=
  match (packageECO pkg).2 with
  | some (.addEIM (some config)) =>
      r.withAssociation (associatedEIMFromConfig B eid (addedConfig config result))
  | some (.updateEIM (some config)) =>
      r.withAssociation (updatedRow B eid config (r.eims config.eimID))
  | some (.deleteEIM eimID) => r.withEIM eimID none
  | _ => r

/-- What becomes of the eCO of a package: it fails over a row that cannot be made. -/
def outcomeECO (B : Bertlv) (eid : Bytes) (pkg : EuiccPackage) (result : Option Result)
    (r : DeviceRecords) : Except Error Unit :=
  match (packageECO pkg).2 with
  | some (.addEIM (some config)) =>
      (associatedEIMFromConfig B eid (addedConfig config result)).map fun _ => ()
  | some (.updateEIM (some config)) =>
      (updatedRow B eid config (r.eims config.eimID)).map fun _ => ()
  | _ => .ok ()

end DeviceRecords

section

variable {B : Bertlv} {tenantID : TenantID} {eid : Bytes} {s : Store}

theorem updatedRow_eq (config : EimConfigurationData) (old : Option AssociatedEIM) :
    updatedRow B eid config old = updatedFrom B config old >>= associatedEIMFromConfig B eid := by
  rw [updatedRow, updatedFrom]
  cases config.associationToken with
  | some token => rfl
  | none => cases rowToken B old <;> rfl

theorem setAssociatedConfig_of_known (h : s.Knows (newDeviceKey tenantID eid))
    (config : EimConfigurationData) :
    (setAssociatedConfig B tenantID eid config s).1 =
        (associatedEIMFromConfig B eid config).map (fun _ => ()) ∧
      (setAssociatedConfig B tenantID eid config s).2.records (newDeviceKey tenantID eid) =
        (s.records (newDeviceKey tenantID eid)).withAssociation
          (associatedEIMFromConfig B eid config) := by
  rw [setAssociatedConfig]
  cases hrow : associatedEIMFromConfig B eid config with
  | error e => exact ⟨rfl, rfl⟩
  | ok row =>
      have heid : row.eid = eid := by
        obtain ⟨payload, -, heq⟩ := Outcome.bind_eq_ok.mp hrow
        obtain rfl := Except.ok.inj heq
        rfl
      rw [ofExcept_bind_of_ok _ s rfl]
      exact ⟨(changes_setAssociatedEIM heid s h).1, (changes_setAssociatedEIM heid s h).2.2⟩

theorem updateAssociatedConfig_of_known (h : s.Knows (newDeviceKey tenantID eid))
    (config : EimConfigurationData) :
    ((updatedConfig B tenantID eid config >>= setAssociatedConfig B tenantID eid) s).1 =
        (updatedRow B eid config ((s.records (newDeviceKey tenantID eid)).eims
          config.eimID)).map (fun _ => ()) ∧
      ((updatedConfig B tenantID eid config >>= setAssociatedConfig B tenantID eid) s).2.records
          (newDeviceKey tenantID eid) =
        (s.records (newDeviceKey tenantID eid)).withAssociation (updatedRow B eid config
          ((s.records (newDeviceKey tenantID eid)).eims config.eimID)) := by
  have hupdated := updatedConfig_apply (B := B) tenantID eid config s
  rw [updatedRow_eq]
  cases hconfig : updatedFrom B config
      ((s.records (newDeviceKey tenantID eid)).eims config.eimID) with
  | error e =>
      rw [hconfig] at hupdated
      rw [bind_of_error hupdated]
      exact ⟨rfl, rfl⟩
  | ok config' =>
      rw [hconfig] at hupdated
      rw [bind_of_ok hupdated]
      exact setAssociatedConfig_of_known h config'

theorem applyECOState_of_known (h : s.Knows (newDeviceKey tenantID eid)) (pkg : EuiccPackage)
    (result : Option Result) :
    (applyECOState B tenantID eid pkg result s).1 =
        (s.records (newDeviceKey tenantID eid)).outcomeECO B eid pkg result ∧
      (applyECOState B tenantID eid pkg result s).2.records (newDeviceKey tenantID eid) =
        (s.records (newDeviceKey tenantID eid)).withECO B eid pkg result := by
  rw [applyECOState, DeviceRecords.outcomeECO, DeviceRecords.withECO]
  cases (packageECO pkg).2 with
  | none => exact ⟨rfl, rfl⟩
  | some eco =>
      cases eco with
      | listEIM => exact ⟨rfl, rfl⟩
      | deleteEIM eimID =>
          have hdeleted := changes_deleteAssociatedEIM eimID s h
          exact ⟨hdeleted.1, hdeleted.2.2⟩
      | addEIM config =>
          cases config with
          | none => exact ⟨rfl, rfl⟩
          | some config => exact setAssociatedConfig_of_known h _
      | updateEIM config =>
          cases config with
          | none => exact ⟨rfl, rfl⟩
          | some config => exact updateAssociatedConfig_of_known h config

/-- Applying a result fails over the eCO only, and what has been written by then stays. -/
theorem applyPackageResultState_of_known (h : s.Knows (newDeviceKey tenantID eid))
    (pkg : EuiccPackage) (result : Option Result) :
    (applyPackageResultState B tenantID eid pkg result s).1 =
        ((s.records (newDeviceKey tenantID eid)).withPSMO eid pkg result).outcomeECO B eid pkg
          result ∧
      (applyPackageResultState B tenantID eid pkg result s).2.records (newDeviceKey tenantID eid) =
        ((s.records (newDeviceKey tenantID eid)).withPSMO eid pkg result).withECO B eid pkg
          result := by
  obtain ⟨hok, hknows, hrecords⟩ := changes_applyPSMOState pkg result s h
  rw [applyPackageResultState, bind_of_ok (Prod.ext hok rfl), ← hrecords]
  exact applyECOState_of_known hknows pkg result

end

/-! ## What the rows show -/

/-- The profile states, the eUICC state and the associated eIMs of a device. -/
@[ext]
structure DeviceRows where
  profiles : Bytes → Option ProfileState
  euicc : Option EUICCState
  eims : Bytes → Option AssociatedEIM

def DeviceRecords.rows (r : DeviceRecords) : DeviceRows := ⟨r.profiles, r.euicc, r.eims⟩

namespace DeviceRows

def ShowsEnabled (v : DeviceRows) (iccid : Bytes) (enabled : Bool) : Prop :=
  ∃ row, v.profiles iccid = some row ∧ row.isEnabled = enabled

/-- There is a row for each reported ICCID and no other, as in its last report. -/
def ShowsInventory (v : DeviceRows) (profiles : List Euiccpkg.ProfileInfo) : Prop :=
  ∀ iccid, ((v.profiles iccid).map fun row => (row.isEnabled, row.isFallback)) =
    ((profiles.reverse.find? fun profile => profile.iccid ≠ [] ∧ profile.iccid = iccid).map
      fun profile => (profile.isEnabled, profile.isFallback))

def ShowsFallback (v : DeviceRows) (iccid : Bytes) : Prop :=
  (v.profiles iccid).isSome ∧
    ∀ i row, v.profiles i = some row → row.isFallback = decide (i = iccid)

def ShowsNoFallback (v : DeviceRows) : Prop :=
  ∀ i row, v.profiles i = some row → row.isFallback = false

def ShowsDefaultAddress (v : DeviceRows) (eid address : Bytes) : Prop :=
  ∃ state, v.euicc = some state ∧ state.eid = eid ∧ state.defaultSMDPAddress = address

/-- The outcome of a successful package with one PSMO. -/
def ShowsPSMO (v : DeviceRows) (eid : Bytes) (pkg : EuiccPackage) (result : Option Result) :
    Prop :=
  let iccid := Hex.encode (packagePSMO pkg).2
  match (packagePSMO pkg).1 with
  | .enable => v.ShowsEnabled iccid true
  | .disable => v.ShowsEnabled iccid false
  | .delete => v.profiles iccid = none
  | .listProfileInfo => ∀ reported ∈ result, v.ShowsInventory reported.profiles
  | .setFallbackAttribute => v.ShowsFallback iccid
  | .unsetFallbackAttribute => v.ShowsNoFallback
  | .setDefaultDPAddress =>
      defaultDPAddressFromPackage pkg = [] ∨
        v.ShowsDefaultAddress eid (defaultDPAddressFromPackage pkg)
  | _ => True

/-- The association is stored; one that cannot be encoded never is. -/
def ShowsAssociation (v : DeviceRows) (made : Except Error AssociatedEIM) : Prop :=
  ∀ row, made = .ok row → v.eims row.eimID = some row

/-- The outcome of a successful package with one eCO. -/
def ShowsECO (v : DeviceRows) (B : Bertlv) (eid : Bytes) (pkg : EuiccPackage)
    (result : Option Result) : Prop :=
  match (packageECO pkg).2 with
  | some (.addEIM (some config)) =>
      v.ShowsAssociation (associatedEIMFromConfig B eid (addedConfig config result))
  | some (.updateEIM (some config)) =>
      v.ShowsAssociation (updatedRow B eid config (v.eims config.eimID))
  | some (.deleteEIM eimID) => v.eims eimID = none
  | _ => True

/-- The outcome of a successful package. -/
def Shows (v : DeviceRows) (B : Bertlv) (eid : Bytes) (pkg : EuiccPackage)
    (result : Option Result) : Prop :=
  v.ShowsPSMO eid pkg result ∧ v.ShowsECO B eid pkg result

end DeviceRows

/-! ## Effects that change nothing -/

namespace DeviceRecords

variable {r : DeviceRecords} {eid iccid : Bytes}

theorem rows_withProfiles_iff {profiles : Bytes → Option ProfileState} :
    ({ r with profiles := profiles } : DeviceRecords).rows = r.rows ↔
      ∀ iccid, profiles iccid = r.profiles iccid := by
  simp [rows, funext_iff]

theorem rows_withProfile_iff {row : Option ProfileState} :
    (r.withProfile iccid row).rows = r.rows ↔ r.profiles iccid = row := by
  simp only [rows, withProfile, DeviceRows.mk.injEq, Function.update_eq_self_iff, and_true]
  exact eq_comm

theorem rows_withEIM_iff {eimID : Bytes} {row : Option AssociatedEIM} :
    (r.withEIM eimID row).rows = r.rows ↔ r.eims eimID = row := by
  simp only [rows, withEIM, DeviceRows.mk.injEq, Function.update_eq_self_iff, true_and]
  exact eq_comm

theorem rows_withEnabled_iff {enabled : Bool} :
    (r.withEnabled eid iccid enabled).rows = r.rows ↔ r.rows.ShowsEnabled iccid enabled := by
  rw [withEnabled, rows_withProfile_iff]
  constructor
  · intro h
    exact ⟨_, h, rfl⟩
  · rintro ⟨row, hrow, rfl⟩
    have hprofile : r.profiles iccid = some row := hrow
    rw [hprofile]
    rfl

/-- A reported profile has the row it had if the flags are the reported ones. -/
theorem reportedRow_eq_iff {row : ProfileState} {profile : Euiccpkg.ProfileInfo}
    (heid : row.eid = eid) (hiccid : row.iccid = profile.iccid)
    (hrow : r.profiles profile.iccid = some row) :
    r.reportedRow eid profile = row ↔
      (row.isEnabled, row.isFallback) = (profile.isEnabled, profile.isFallback) := by
  subst heid
  rw [reportedRow, hrow, ← hiccid]
  cases row
  simp [eq_comm]

theorem rows_withInventory_iff
    (hkeyed : ∀ iccid row, r.profiles iccid = some row → row.eid = eid ∧ row.iccid = iccid)
    {profiles : List Euiccpkg.ProfileInfo} :
    (r.withInventory eid profiles).rows = r.rows ↔ r.rows.ShowsInventory profiles := by
  rw [withInventory, rows_withProfiles_iff]
  refine forall_congr' fun iccid => ?_
  change _ ↔ (r.profiles iccid).map _ = _
  cases hfind : profiles.reverse.find? fun profile =>
      profile.iccid ≠ [] ∧ profile.iccid = iccid with
  | none =>
      rw [Option.map_none, Option.map_none, Option.map_eq_none_iff]
      exact eq_comm
  | some profile =>
      have hfound := List.find?_some hfind
      obtain ⟨-, rfl⟩ := of_decide_eq_true hfound
      cases hrow : r.profiles profile.iccid with
      | none => simp
      | some row =>
          obtain ⟨heid, hiccid⟩ := hkeyed _ row hrow
          simp only [Option.map_some, Option.some.injEq]
          exact reportedRow_eq_iff heid hiccid hrow

theorem withoutFallback_eq_iff {row : ProfileState} :
    { row with isFallback := false } = row ↔ row.isFallback = false := by
  cases row
  simp [eq_comm]

theorem map_withoutFallback_iff {row : Option ProfileState} :
    (row.map fun row => { row with isFallback := false }) = row ↔
      ∀ row' ∈ row, row'.isFallback = false := by
  cases row with
  | none => simp
  | some row => simp [withoutFallback_eq_iff]

theorem rows_withoutFallback_iff : r.withoutFallback.rows = r.rows ↔ r.rows.ShowsNoFallback := by
  rw [withoutFallback, rows_withProfiles_iff]
  exact forall_congr' fun _ => map_withoutFallback_iff

theorem rows_withFallback_iff :
    (r.withFallback eid iccid).rows = r.rows ↔ r.rows.ShowsFallback iccid := by
  rw [withFallback, rows_withProfiles_iff]
  constructor
  · intro h
    have hself := h iccid
    rw [if_pos rfl] at hself
    refine ⟨Option.isSome_iff_exists.mpr ⟨_, hself.symm⟩, fun i row hrow => ?_⟩
    have hprofile : r.profiles i = some row := hrow
    by_cases hi : i = iccid
    · subst hi
      rw [hprofile] at hself
      rw [← Option.some.inj hself, decide_eq_true rfl]
    · have hother := h i
      rw [if_neg hi] at hother
      rw [map_withoutFallback_iff.mp hother row hprofile, decide_eq_false hi]
  · rintro ⟨hsome, hflags⟩ i
    split
    next hi =>
        subst hi
        obtain ⟨row, hrow⟩ := Option.isSome_iff_exists.mp hsome
        have hflag := hflags i row hrow
        have hprofile : r.profiles i = some row := hrow
        rw [decide_eq_true rfl] at hflag
        rw [hprofile, ← hflag]
        rfl
    next hi =>
        refine map_withoutFallback_iff.mpr fun row hrow => ?_
        rw [hflags i row hrow, decide_eq_false hi]

theorem rows_withDefaultSMDPAddress_iff {address : Bytes} :
    (r.withDefaultSMDPAddress eid address).rows = r.rows ↔
      r.rows.ShowsDefaultAddress eid address := by
  have hrows : (r.withDefaultSMDPAddress eid address).rows = r.rows ↔
      some { r.euicc.getD { eid := eid } with eid := eid, defaultSMDPAddress := address } =
        r.euicc := by
    simp [rows, withDefaultSMDPAddress, withEUICC]
  rw [hrows]
  constructor
  · intro h
    exact ⟨_, h.symm, rfl, rfl⟩
  · rintro ⟨state, hstate, rfl, rfl⟩
    have heuicc : r.euicc = some state := hstate
    rw [heuicc]
    rfl

theorem rows_withPSMO_iff
    (hkeyed : ∀ iccid row, r.profiles iccid = some row → row.eid = eid ∧ row.iccid = iccid)
    (pkg : EuiccPackage) (result : Option Result) :
    (r.withPSMO eid pkg result).rows = r.rows ↔ r.rows.ShowsPSMO eid pkg result := by
  unfold withPSMO DeviceRows.ShowsPSMO
  dsimp only
  cases (packagePSMO pkg).1 with
  | enable => exact rows_withEnabled_iff
  | disable => exact rows_withEnabled_iff
  | delete => exact rows_withProfile_iff
  | listProfileInfo =>
      cases result with
      | none => simp
      | some result =>
          simp only [Option.mem_def, Option.some.injEq, forall_eq']
          exact rows_withInventory_iff hkeyed
  | setFallbackAttribute => exact rows_withFallback_iff
  | unsetFallbackAttribute => exact rows_withoutFallback_iff
  | setDefaultDPAddress =>
      by_cases haddress : defaultDPAddressFromPackage pkg = []
      · simp [haddress]
      · simpa [haddress] using rows_withDefaultSMDPAddress_iff
  | _ => simp

theorem rows_withAssociation_iff {made : Except Error AssociatedEIM} :
    (r.withAssociation made).rows = r.rows ↔ r.rows.ShowsAssociation made := by
  cases made with
  | error e => simp [withAssociation, DeviceRows.ShowsAssociation]
  | ok row =>
      simp only [DeviceRows.ShowsAssociation, Except.ok.injEq, forall_eq']
      exact rows_withEIM_iff

theorem rows_withECO_iff (B : Bertlv) (pkg : EuiccPackage) (result : Option Result) :
    (r.withECO B eid pkg result).rows = r.rows ↔ r.rows.ShowsECO B eid pkg result := by
  rw [withECO, DeviceRows.ShowsECO]
  split
  next => exact rows_withAssociation_iff
  next => exact rows_withAssociation_iff
  next => exact rows_withEIM_iff
  next => simp

/-- Applying a result leaves the rows of the device as they are if and only if they show it. -/
theorem rows_apply_iff
    (hkeyed : ∀ iccid row, r.profiles iccid = some row → row.eid = eid ∧ row.iccid = iccid)
    (B : Bertlv) (pkg : EuiccPackage) (result : Option Result) :
    ((r.withPSMO eid pkg result).withECO B eid pkg result).rows = r.rows ↔
      r.rows.Shows B eid pkg result := by
  cases pkg with
  | psmo psmos =>
      refine (rows_withPSMO_iff hkeyed (.psmo psmos) result).trans ?_
      exact (and_iff_left trivial).symm
  | eco ecos =>
      refine (rows_withECO_iff B (.eco ecos) result).trans ?_
      exact (and_iff_right trivial).symm

end DeviceRecords

end OpenIotRsp.Storage
