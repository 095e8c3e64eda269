import OpenIotRsp.Library.Run
import OpenIotRsp.Model.Euiccpkg.Service
import OpenIotRsp.Verification.Storage.DeviceEffect
import OpenIotRsp.Verification.Storage.Queue

/-!
# The fallback profile

Applying package results and data responses leaves each device with at most one
profile that has the fallback attribute, as long as no reported inventory has
two.
-/

namespace OpenIotRsp.Storage

open Octets Stateful Asn1 Euiccpkg

/-! ## Rows with at most one fallback profile -/

/-- At most one row has the fallback attribute. -/
def SingleFallback (rows : Bytes → Option ProfileState) : Prop :=
  ∀ i j a b, rows i = some a → rows j = some b → a.isFallback → b.isFallback → i = j

/-- The reported profiles have distinct ICCIDs, and at most one of them is the fallback profile. -/
def Reportable (profiles : List Euiccpkg.ProfileInfo) : Prop :=
  profiles.Pairwise fun a b => a.iccid ≠ b.iccid ∧ ¬ (a.isFallback ∧ b.isFallback)

instance (profiles : List Euiccpkg.ProfileInfo) : Decidable (Reportable profiles) :=
  inferInstanceAs (Decidable (List.Pairwise _ _))

/-- Rows that have the attribute only where they had it before. -/
theorem SingleFallback.of_le {rows rows' : Bytes → Option ProfileState} (h : SingleFallback rows)
    (hle : ∀ i a, rows' i = some a → a.isFallback → ∃ b, rows i = some b ∧ b.isFallback) :
    SingleFallback rows' := by
  intro i j a b hi hj ha hb
  obtain ⟨a', hi', ha'⟩ := hle i a hi ha
  obtain ⟨b', hj', hb'⟩ := hle j b hj hb
  exact h i j a' b' hi' hj' ha' hb'

theorem SingleFallback.of_forall_eq {rows : Bytes → Option ProfileState} (iccid : Bytes)
    (h : ∀ i a, rows i = some a → a.isFallback → i = iccid) : SingleFallback rows :=
  fun i j a b hi hj ha hb => (h i a hi ha).trans (h j b hj hb).symm

namespace DeviceRecords

variable {r : DeviceRecords} {eid iccid : Bytes}

theorem singleFallback_withEnabled (enabled : Bool) (h : SingleFallback r.profiles) :
    SingleFallback (r.withEnabled eid iccid enabled).profiles := by
  refine h.of_le fun i a hi ha => ?_
  by_cases hne : i = iccid
  · subst hne
    obtain rfl : { (r.profiles i).getD { eid := eid, iccid := i } with isEnabled := enabled } = a := by
      simpa [withEnabled, withProfile] using hi
    cases hrow : r.profiles i with
    | none => simp [hrow] at ha
    | some b => exact ⟨b, rfl, by simpa [hrow] using ha⟩
  · exact ⟨a, by simpa [withEnabled, withProfile, hne] using hi, ha⟩

theorem singleFallback_erased (h : SingleFallback r.profiles) :
    SingleFallback (r.withProfile iccid none).profiles := by
  refine h.of_le fun i a hi ha => ⟨a, ?_, ha⟩
  by_cases hne : i = iccid
  · simp [withProfile, hne] at hi
  · simpa [withProfile, hne] using hi

theorem mem_of_withInventory {profiles : List Euiccpkg.ProfileInfo} {i : Bytes} {a : ProfileState}
    (h : (r.withInventory eid profiles).profiles i = some a) :
    ∃ profile ∈ profiles, profile.iccid = i ∧ a.isFallback = profile.isFallback := by
  obtain ⟨profile, hfind, rfl⟩ := Option.map_eq_some_iff.mp h
  have hfound := List.find?_some hfind
  have hiccid : profile.iccid ≠ [] ∧ profile.iccid = i := of_decide_eq_true hfound
  exact ⟨profile, List.mem_reverse.mp (List.mem_of_find?_eq_some hfind), hiccid.2, rfl⟩

theorem singleFallback_withInventory {profiles : List Euiccpkg.ProfileInfo}
    (h : Reportable profiles) : SingleFallback (r.withInventory eid profiles).profiles := by
  intro i j a b hi hj ha hb
  obtain ⟨p, hp, rfl, hpa⟩ := mem_of_withInventory hi
  obtain ⟨q, hq, rfl, hqb⟩ := mem_of_withInventory hj
  by_contra hne
  have hpq : p ≠ q := fun heq => hne (congrArg Euiccpkg.ProfileInfo.iccid heq)
  have hsymm : Std.Symm fun a b : Euiccpkg.ProfileInfo =>
      a.iccid ≠ b.iccid ∧ ¬ (a.isFallback ∧ b.isFallback) :=
    ⟨fun _ _ h => ⟨h.1.symm, fun hab => h.2 hab.symm⟩⟩
  exact (List.Pairwise.forall h hp hq hpq).2 ⟨hpa ▸ ha, hqb ▸ hb⟩

theorem eq_of_withFallback {i : Bytes} {a : ProfileState}
    (h : (r.withFallback eid iccid).profiles i = some a) (ha : a.isFallback) : i = iccid := by
  by_contra hne
  obtain ⟨b, -, rfl⟩ : ∃ b, r.profiles i = some b ∧ { b with isFallback := false } = a := by
    simpa [withFallback, hne] using h
  simp at ha

theorem exists_withFallback {e i : Bytes} (hkeyed : ∀ a, r.profiles i = some a → a.iccid = i) :
    ∃ a, (r.withFallback e i).profiles i = some a ∧ a.iccid = i ∧ a.isFallback := by
  refine ⟨_, if_pos rfl, ?_, rfl⟩
  cases hrow : r.profiles i with
  | none => rfl
  | some a => exact hkeyed a hrow

theorem singleFallback_withoutFallback : SingleFallback r.withoutFallback.profiles := by
  intro i j a b hi hj ha hb
  obtain ⟨c, -, rfl⟩ := Option.map_eq_some_iff.mp hi
  simp at ha

/-- Every package keeps the attribute on one profile at most. -/
theorem singleFallback_withPSMO (eid : Bytes) (pkg : EuiccPackage) {result : Option Result}
    (hresult : ∀ x ∈ result, Reportable x.profiles) (h : SingleFallback r.profiles) :
    SingleFallback (r.withPSMO eid pkg result).profiles := by
  unfold withPSMO
  cases (packagePSMO pkg).1 with
  | enable => exact singleFallback_withEnabled true h
  | disable => exact singleFallback_withEnabled false h
  | delete => exact singleFallback_erased h
  | listProfileInfo =>
      cases result with
      | none => exact h
      | some result => exact singleFallback_withInventory (hresult result rfl)
  | setFallbackAttribute => exact SingleFallback.of_forall_eq _ fun _ _ => eq_of_withFallback
  | unsetFallbackAttribute => exact singleFallback_withoutFallback
  | setDefaultDPAddress =>
      dsimp only
      split
      next => exact h
      next => exact h
  | _ => exact h

end DeviceRecords

/-! ## Stores -/

variable {tenantID : TenantID} {eid : Bytes} {s : Store}

/-- At most one profile of each device has the fallback attribute. -/
def FallbackUnique (s : Store) : Prop := ∀ key, SingleFallback (s.profile key)

theorem FallbackUnique.congr {s s' : Store} (h : FallbackUnique s)
    (heq : s'.profileStates = s.profileStates) : FallbackUnique s' := by
  intro key
  have hprofile : s'.profile key = s.profile key := by
    funext iccid
    rw [Store.profile, Store.profile, heq]
  exact hprofile ▸ h key

/-- A change of one device that keeps the attribute on one of its profiles at most. -/
theorem FallbackUnique.changed {m : StoreM Unit} {w : DeviceRecords → DeviceRecords}
    (h : FallbackUnique s) (hm : ChangesDevice tenantID eid m w)
    (hframe : ∀ {γ : Type} {f : Store → γ}, IgnoresState f tenantID eid → Keeps f m)
    (hw : ∀ r : DeviceRecords, SingleFallback r.profiles → SingleFallback (w r).profiles) :
    FallbackUnique (m s).2 := by
  by_cases hknown : s.Knows (newDeviceKey tenantID eid)
  · intro key
    by_cases hkey : key = newDeviceKey tenantID eid
    · subst hkey
      have hrows : (m s).2.profile (newDeviceKey tenantID eid) = (w (s.records _)).profiles :=
        congrArg DeviceRecords.profiles (hm s hknown).2.2
      rw [hrows]
      exact hw _ (h _)
    · have hrows : (m s).2.profile key = s.profile key :=
        congrArg DeviceRecords.profiles (hframe (ignoresState_records hkey) s)
      rw [hrows]
      exact h key
  · rw [eq_of_keeps_unless (hframe ignoresState_unless) hknown]
    exact h

theorem FallbackUnique.syncProfileInventory (h : FallbackUnique s)
    {profiles : List Euiccpkg.ProfileInfo} (hprofiles : Reportable profiles) :
    FallbackUnique (Euiccpkg.syncProfileInventory tenantID eid profiles s).2 :=
  h.changed (changes_syncProfileInventory profiles) (fun hf => hf.syncProfileInventory profiles)
    fun _ _ => DeviceRecords.singleFallback_withInventory hprofiles

theorem keeps_profileStates_applyECOState (B : Bertlv) (pkg : EuiccPackage)
    (result : Option Result) : Keeps Store.profileStates (applyECOState B tenantID eid pkg result) := by
  have hset : ∀ config, Keeps Store.profileStates (setAssociatedConfig B tenantID eid config) :=
    fun _ => (keeps_ofExcept _ _).bind fun _ => keeps_setAssociatedEIM fun _ => rfl
  rw [applyECOState]
  split
  next => exact hset _
  next => exact (keeps_updatedConfig _ B tenantID eid _).bind fun _ => hset _
  next => exact keeps_ignoreNotFound (keeps_deleteAssociatedEIM fun _ => rfl)
  next => exact keeps_pure _ ()

theorem FallbackUnique.applyPackageResultState (h : FallbackUnique s) (B : Bertlv)
    (pkg : EuiccPackage) {result : Option Result}
    (hresult : ∀ x ∈ result, Reportable x.profiles) :
    FallbackUnique (applyPackageResultState B tenantID eid pkg result s).2 := by
  have hpsmo : FallbackUnique (applyPSMOState tenantID eid pkg result s).2 :=
    h.changed (changes_applyPSMOState pkg result) (fun hf => hf.applyPSMOState pkg result)
      fun r => r.singleFallback_withPSMO eid pkg hresult
  exact hpsmo.congr (keeps_rest (fun _ => keeps_profileStates_applyECOState B pkg result) s)

/-- The profiles that a data response reports. -/
def reportedProfiles : IpaEuiccDataResponse → List Euiccpkg.ProfileInfo
  | .error _ => []
  | .data data => data.profiles.filterMap domainProfile

theorem FallbackUnique.applyResponse (h : FallbackUnique s) (B : Bertlv) (X : Ipadata.X509)
    {response : IpaEuiccDataResponse} (payload : Bytes)
    (hresponse : Reportable (reportedProfiles response)) :
    FallbackUnique (Ipadata.applyResponse B X tenantID eid response payload s).2 := by
  cases response with
  | error e => exact h
  | data data =>
      have hset : Keeps Store.profileStates
          (setEUICCState tenantID (Ipadata.stateFromResponse B X eid data payload)) :=
        keeps_setEUICCState fun _ => rfl
      have hstored := h.congr (hset s)
      rw [Ipadata.applyResponse]
      rcases hrun : setEUICCState tenantID (Ipadata.stateFromResponse B X eid data payload) s with
        ⟨r, s'⟩
      rw [hrun] at hstored
      cases r with
      | error e => rwa [bind_of_error hrun]
      | ok u =>
          rw [bind_of_ok hrun, syncProfileInventory_eq, ← syncProfileInventory_domainProfile]
          split
          next => exact hstored
          next => exact hstored.syncProfileInventory hresponse

/-! ## Runs -/

/-- What changes the stored profiles. -/
inductive ProfileEvent where
  | device (tenantID : TenantID) (eid : Bytes)
  | packageResult (tenantID : TenantID) (eid : Bytes) (pkg : EuiccPackage) (result : Option Result)
  | dataResponse (tenantID : TenantID) (eid : Bytes) (response : IpaEuiccDataResponse)
      (payload : Bytes)

namespace ProfileEvent

variable (B : Bertlv) (X : Ipadata.X509)

def step (s : Store) : ProfileEvent → Store
  | device tenantID eid => (registerDevice tenantID eid s).2
  | packageResult tenantID eid pkg result =>
      (applyPackageResultState B tenantID eid pkg result s).2
  | dataResponse tenantID eid response payload =>
      (Ipadata.applyResponse B X tenantID eid response payload s).2

/-- The inventory that an event reports. -/
def inventory : ProfileEvent → List Euiccpkg.ProfileInfo
  | device _ _ => []
  | packageResult _ _ _ result => (result.map Result.profiles).getD []
  | dataResponse _ _ response _ => reportedProfiles response

theorem fallbackUnique_step {event : ProfileEvent} (h : FallbackUnique s)
    (hevent : Reportable event.inventory) : FallbackUnique (event.step B X s) := by
  cases event with
  | device tenantID eid =>
      refine h.congr ?_
      rw [step, registerDevice_apply]
      split
      next => rfl
      next => rfl
  | packageResult tenantID eid pkg result =>
      refine h.applyPackageResultState B pkg ?_
      rintro x rfl
      exact hevent
  | dataResponse tenantID eid response payload => exact h.applyResponse B X payload hevent

/-- The store after events on an empty one. -/
def after (events : List ProfileEvent) : Store := Run.after (step B X) Store.new events

theorem fallbackUnique_after {events : List ProfileEvent}
    (hevents : ∀ event ∈ events, Reportable event.inventory) :
    FallbackUnique (after B X events) := by
  have hempty : FallbackUnique Store.new := fun _ _ _ _ _ h => nomatch h
  exact (Run.meets_of_forall hevents).invariant (P := FallbackUnique)
    (fun _ _ => fallbackUnique_step B X) hempty

end ProfileEvent

/-- The profiles of a device that have the fallback attribute. -/
def Store.fallbackProfiles (s : Store) (key : DeviceKey) : List ProfileState :=
  (s.profilesOf key).filter fun state => state.isFallback

theorem pairwise_profilesOf (s : Store) (key : DeviceKey) :
    (s.profilesOf key).Pairwise fun a b => a.iccid ≠ b.iccid := by
  rw [Store.profilesOf, List.pairwise_map]
  have hkeys : s.profileStates.entries.Pairwise fun a b => a.1 ≠ b.1 :=
    List.pairwise_map.mp s.profileStates.nodupKeys
  refine (hkeys.filter _).imp_of_mem ?_
  rintro ⟨⟨_, _, _⟩, a⟩ ⟨⟨_, _, _⟩, b⟩ ha hb hne hiccid
  obtain ⟨rfl, rfl⟩ := of_decide_eq_true (List.mem_filter.mp ha).2
  obtain ⟨rfl, rfl⟩ := of_decide_eq_true (List.mem_filter.mp hb).2
  exact hne (congrArg (ProfileStateKey.mk key.tenantID key.eid)
    (a.property.2.symm.trans (hiccid.trans b.property.2)))

theorem mem_fallbackProfiles {s : Store} {key : DeviceKey} {state : ProfileState} :
    state ∈ s.fallbackProfiles key ↔ s.profile key state.iccid = some state ∧ state.isFallback := by
  rw [Store.fallbackProfiles, List.mem_filter, mem_profilesOf]

/-- Rows with one ICCID are one row. -/
theorem length_fallbackProfiles_le {s : Store} {key : DeviceKey} (h : SingleFallback (s.profile key)) :
    (s.fallbackProfiles key).length ≤ 1 := by
  have hpairwise : (s.fallbackProfiles key).Pairwise fun _ _ => False := by
    refine ((pairwise_profilesOf s key).filter _).imp_of_mem fun {a b} ha hb hne => ?_
    obtain ⟨hrow, hfallback⟩ := mem_fallbackProfiles.mp ha
    obtain ⟨hrow', hfallback'⟩ := mem_fallbackProfiles.mp hb
    exact hne (h _ _ a b hrow hrow' hfallback hfallback')
  match hlist : s.fallbackProfiles key with
  | [] => simp
  | [_] => simp
  | a :: b :: rest =>
      rw [hlist] at hpairwise
      exact ((List.pairwise_cons.mp hpairwise).1 b List.mem_cons_self).elim

/-! ## Setting the attribute -/

/-- A successful application is that of a registered device. -/
theorem knows_of_setProfileFallback {iccid : Bytes} {s' : Store}
    (h : setProfileFallback tenantID eid iccid s = (.ok (), s')) :
    s.Knows (newDeviceKey tenantID eid) := by
  obtain ⟨states, t, hlist, -⟩ := Stateful.bind_eq_ok h
  exact knows_of_requireDevice hlist

/-- The rows after the attribute has been set. -/
theorem profile_of_setFallbackAttribute {B : Bertlv} {iccid : Bytes} {result : Option Result}
    {s' : Store}
    (h : applyPackageResultState B tenantID eid (Euiccpkg.setFallbackAttribute iccid) result s =
      (.ok (), s')) :
    s'.profile (newDeviceKey tenantID eid) =
      ((s.records (newDeviceKey tenantID eid)).withFallback eid (Hex.encode iccid)).profiles := by
  obtain ⟨u, t, hset, hrest⟩ := Stateful.bind_eq_ok h
  obtain rfl : t = s' := congrArg Prod.snd hrest
  have heffect := (changes_setProfileFallback (Hex.encode iccid) s
    (knows_of_setProfileFallback hset)).2.2
  have hstate : t = (setProfileFallback tenantID eid (Hex.encode iccid) s).2 :=
    (congrArg Prod.snd hset).symm
  rw [← hstate] at heffect
  exact congrArg DeviceRecords.profiles heffect

/-- Each device has at most one fallback profile after every run whose reported inventories have at
most one; setting the attribute makes it that of the profile, and changes nothing else of the
others. -/
theorem single_fallback_profile (B : Bertlv) (X : Ipadata.X509) {events : List ProfileEvent}
    (hevents : ∀ event ∈ events, Reportable event.inventory) :
    (∀ key, ((ProfileEvent.after B X events).fallbackProfiles key).length ≤ 1) ∧
      ∀ tenantID eid iccid result s',
        applyPackageResultState B tenantID eid (Euiccpkg.setFallbackAttribute iccid) result
          (ProfileEvent.after B X events) = (.ok (), s') →
        (s'.fallbackProfiles (newDeviceKey tenantID eid)).map ProfileState.iccid =
            [Hex.encode iccid] ∧
          ∀ other, other ≠ Hex.encode iccid →
            (s'.profile (newDeviceKey tenantID eid) other).map
                (fun state => (state.isEnabled, state.smdpAddress)) =
              ((ProfileEvent.after B X events).profile (newDeviceKey tenantID eid) other).map
                fun state => (state.isEnabled, state.smdpAddress) := by
  refine ⟨fun key => length_fallbackProfiles_le (ProfileEvent.fallbackUnique_after B X hevents key),
    fun tenantID eid iccid result s' happlied => ?_⟩
  have hrows := profile_of_setFallbackAttribute happlied
  constructor
  · have hsingle : SingleFallback (s'.profile (newDeviceKey tenantID eid)) := by
      rw [hrows]
      exact SingleFallback.of_forall_eq _ fun _ _ => DeviceRecords.eq_of_withFallback
    obtain ⟨state, hstate, hiccid, hfallback⟩ := DeviceRecords.exists_withFallback
      (r := (ProfileEvent.after B X events).records (newDeviceKey tenantID eid)) (e := eid)
      (i := Hex.encode iccid) fun row hrow => (profile_keyed hrow).2
    rw [← hrows] at hstate
    have hmem : state ∈ s'.fallbackProfiles (newDeviceKey tenantID eid) :=
      mem_fallbackProfiles.mpr ⟨hiccid.symm ▸ hstate, hfallback⟩
    obtain ⟨only, hlist⟩ := List.length_eq_one_iff.mp (le_antisymm
      (length_fallbackProfiles_le hsingle) (List.length_pos_of_mem hmem))
    rw [hlist, List.mem_singleton] at hmem
    rw [hlist, ← hmem, List.map_singleton, hiccid]
  · intro other hother
    rw [hrows]
    simp [DeviceRecords.withFallback, hother, Store.records, Function.comp_def]

/-- Two profiles are listed, and the attribute is moved from one to the other. -/
def sampleFallbackEvents : List ProfileEvent :=
  [.device [] (text "11"),
    .packageResult [] (text "11") Euiccpkg.listProfileInfo (some {
      ok := true
      operation := .listProfileInfo
      resultCode := ResultCode.ok
      profiles := [⟨text "89", true, true⟩, ⟨text "90", false, false⟩] }),
    .packageResult [] (text "11") (Euiccpkg.setFallbackAttribute [0x90]) none]

theorem single_fallback_profile_listed :
    (∀ event ∈ sampleFallbackEvents, Reportable event.inventory) ∧
      (∀ key, ((ProfileEvent.after .reference ⟨fun _ => none⟩ sampleFallbackEvents).fallbackProfiles
        key).length ≤ 1) ∧
      ((ProfileEvent.after .reference ⟨fun _ => none⟩ sampleFallbackEvents).fallbackProfiles
        ⟨defaultTenantID, text "11"⟩).map ProfileState.iccid = [text "90"] :=
  ⟨by decide, (single_fallback_profile .reference ⟨fun _ => none⟩ (by decide)).1, by decide⟩

end OpenIotRsp.Storage
