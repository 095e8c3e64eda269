import OpenIotRsp.Verification.Storage.DeviceEffect

/-!
# Inventory synchronisation

A reported profile list replaces the stored one: what is stored afterwards is the
last report of each ICCID, with the address that was known before.
-/

namespace OpenIotRsp.Storage

open Octets Stateful Asn1

variable {tenantID : TenantID} {eid : Bytes} {s s' : Store} {key : DeviceKey}
  {profiles : List Euiccpkg.ProfileInfo}

/-- The last report of an ICCID that is not empty. -/
def lastReport (profiles : List Euiccpkg.ProfileInfo) (iccid : Bytes) : Option Euiccpkg.ProfileInfo :=
  profiles.reverse.find? fun profile => profile.iccid ≠ [] ∧ profile.iccid = iccid

/-- Only profile rows differ. -/
def OnlyProfiles (s s' : Store) : Prop :=
  { s' with profileStates := s.profileStates } = s

/-- The stored profiles of the device are the reported ones, and nothing else has changed. -/
structure Synced (key : DeviceKey) (profiles : List Euiccpkg.ProfileInfo) (s s' : Store) : Prop where
  rows : ∀ iccid, s'.profile key iccid = (lastReport profiles iccid).map fun profile => {
    eid := key.eid
    iccid := iccid
    isEnabled := profile.isEnabled
    isFallback := profile.isFallback
    smdpAddress := ((s.profile key iccid).map ProfileState.smdpAddress).getD [] }
  others : ∀ other, other ≠ key → s'.records other = s.records other
  rest : OnlyProfiles s s'

/-- No profile row differs, and nothing else. -/
structure Unchanged (s s' : Store) : Prop where
  rows : ∀ key iccid, s'.profile key iccid = s.profile key iccid
  rest : OnlyProfiles s s'

theorem iccid_of_lastReport {iccid : Bytes} {profile : Euiccpkg.ProfileInfo}
    (h : lastReport profiles iccid = some profile) : profile.iccid = iccid := by
  have hfound := List.find?_some h
  exact (of_decide_eq_true hfound).2

theorem onlyProfiles_of_keeps (h : { s' with profileStates := ∅ } = { s with profileStates := ∅ }) :
    OnlyProfiles s s' := by
  have hrest := congrArg (fun t : Store => ({ t with profileStates := s.profileStates } : Store)) h
  exact hrest

theorem onlyProfiles_sync (profiles : List Euiccpkg.ProfileInfo) (s : Store) :
    OnlyProfiles s (Euiccpkg.syncProfileInventory tenantID eid profiles s).2 :=
  onlyProfiles_of_keeps (keeps_syncProfileInventory
    (f := fun s : Store => { s with profileStates := ∅ })
    (fun _ _ => keeps_setProfileState fun _ => rfl)
    (fun _ => keeps_deleteProfileState fun _ => rfl) profiles s)

theorem records_sync (profiles : List Euiccpkg.ProfileInfo) (s : Store) {other : DeviceKey}
    (hother : other ≠ newDeviceKey tenantID eid) :
    (Euiccpkg.syncProfileInventory tenantID eid profiles s).2.records other = s.records other :=
  (ignoresState_records hother).syncProfileInventory profiles s

theorem synced (hknown : s.Knows (newDeviceKey tenantID eid))
    (profiles : List Euiccpkg.ProfileInfo) :
    Synced (newDeviceKey tenantID eid) profiles s
      (Euiccpkg.syncProfileInventory tenantID eid profiles s).2 := by
  obtain ⟨-, -, hrecords⟩ := changes_syncProfileInventory profiles s hknown
  refine ⟨fun iccid => ?_, fun other hother => records_sync profiles s hother,
    onlyProfiles_sync profiles s⟩
  have hrows := congrFun (congrArg DeviceRecords.profiles hrecords) iccid
  refine hrows.trans (Option.map_congr fun profile hprofile => ?_)
  have hiccid : profile.iccid = iccid := iccid_of_lastReport hprofile
  rw [DeviceRecords.reportedRow, hiccid]
  rfl

/-- A list that has been taken over is taken over again without a change. -/
theorem Synced.unchanged (h : Synced key profiles s s') {s'' : Store}
    (h' : Synced key profiles s' s'') : Unchanged s' s'' := by
  refine ⟨fun other iccid => ?_, h'.rest⟩
  by_cases hother : other = key
  · subst hother
    rw [h'.rows, h.rows]
    refine Option.map_congr fun profile hprofile => ?_
    rw [hprofile]
    rfl
  · exact congrFun (congrArg DeviceRecords.profiles (h'.others other hother)) iccid

/-- **Inventories.**  Both loops store exactly what is reported, do the same on the same list, and
change nothing when they are repeated. -/
theorem inventory_sync_exact (hknown : s.Knows (newDeviceKey tenantID eid)) :
    (∀ profiles, ∃ s' s'', Euiccpkg.syncProfileInventory tenantID eid profiles s = (.ok (), s') ∧
        Synced (newDeviceKey tenantID eid) profiles s s' ∧
        Euiccpkg.syncProfileInventory tenantID eid profiles s' = (.ok (), s'') ∧
        Unchanged s' s'') ∧
      ∀ data : IpaEuiccData, data.profileInfoListPresent ∨ data.profiles ≠ [] →
        Ipadata.syncProfileInventory tenantID eid data =
            Euiccpkg.syncProfileInventory tenantID eid (data.profiles.map reportOf) ∧
          Euiccpkg.syncProfileInventory tenantID eid
              (data.profiles.filterMap Euiccpkg.domainProfile) =
            Euiccpkg.syncProfileInventory tenantID eid (data.profiles.map reportOf) := by
  constructor
  · intro profiles
    obtain ⟨hok, hknown', -⟩ := changes_syncProfileInventory profiles s hknown
    obtain ⟨hok', -, -⟩ := changes_syncProfileInventory profiles _ hknown'
    exact ⟨_, _, Prod.ext hok rfl, synced hknown profiles, Prod.ext hok' rfl,
      (synced hknown profiles).unchanged (synced hknown' profiles)⟩
  · intro data hdata
    refine ⟨?_, syncProfileInventory_domainProfile tenantID eid data.profiles⟩
    rw [syncProfileInventory_eq, if_neg]
    rintro ⟨hpresent, hempty⟩
    rcases hdata with h | h
    · simp [h] at hpresent
    · exact h hempty

/-! A device with two stored profiles reports one of them twice, a new one, and one without an
ICCID. -/

def sampleInventoryStore : Store :=
  ((do
    registerDevice [] (text "eid")
    setProfileState [] ⟨text "eid", text "8910aa", false, false, text "smdp-a"⟩
    setProfileState [] ⟨text "eid", text "stale", true, false, []⟩ : StoreM Unit) Store.new).2

def sampleInventory : IpaEuiccData where
  profileInfoListPresent := true
  profiles := [⟨some [0x89, 0x10, 0xaa], some 0, false⟩, ⟨some [0x89, 0x10, 0xbb], none, true⟩,
    ⟨none, some 1, true⟩, ⟨some [0x89, 0x10, 0xaa], some 1, true⟩]

theorem inventory_sync_exact_reported :
    (∃ s' s'', Euiccpkg.syncProfileInventory [] (text "eid") (sampleInventory.profiles.map reportOf)
          sampleInventoryStore = (.ok (), s') ∧
        Synced (newDeviceKey [] (text "eid")) (sampleInventory.profiles.map reportOf)
          sampleInventoryStore s' ∧
        Euiccpkg.syncProfileInventory [] (text "eid") (sampleInventory.profiles.map reportOf) s' =
          (.ok (), s'') ∧
        Unchanged s' s'') ∧
      Ipadata.syncProfileInventory [] (text "eid") sampleInventory =
        Euiccpkg.syncProfileInventory [] (text "eid") (sampleInventory.profiles.map reportOf) := by
  have hknown : sampleInventoryStore.Knows (newDeviceKey [] (text "eid")) := by
    rw [Store.Knows]
    decide +kernel
  obtain ⟨hsync, hdata⟩ := inventory_sync_exact hknown
  exact ⟨hsync _, (hdata sampleInventory (.inl rfl)).1⟩

example : (listProfileStates [] (text "eid")
    (Ipadata.syncProfileInventory [] (text "eid") sampleInventory sampleInventoryStore).2).1 =
      .ok [⟨text "eid", text "8910aa", true, true, text "smdp-a"⟩,
        ⟨text "eid", text "8910bb", false, true, []⟩] := by
  decide +kernel

end OpenIotRsp.Storage
