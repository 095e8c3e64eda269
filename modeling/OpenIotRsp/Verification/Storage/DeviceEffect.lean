import OpenIotRsp.Library.Effect
import OpenIotRsp.Verification.Storage.DeviceState

/-!
# The effect of state application

What applying a package result does to the records of its device, as functions
on the records: the loops over the stored rows become one change of all rows.
-/

namespace OpenIotRsp.Storage

open Octets Stateful Asn1 Euiccpkg

variable {rows : Bytes → Option ProfileState} {state : ProfileState} {states : List ProfileState}

/-- The device is registered. -/
def Store.Knows (key : DeviceKey) (s : Store) : Prop := (s.devices.lookup key).isSome

variable {tenantID : TenantID} {eid : Bytes} {s : Store} {key : DeviceKey}

theorem requireDevice_of_knows (h : s.Knows key) :
    ∃ device, require (fun s => s.devices.lookup key) s = (.ok device, s) := by
  obtain ⟨device, hdevice⟩ := Option.isSome_iff_exists.mp h
  exact ⟨device, by rw [require_apply, hdevice]⟩

theorem knows_of_requireDevice {α : Type} {k : MemoryDevice → StoreM α} {a : α} {s' : Store}
    (h : (require (fun s => s.devices.lookup key) >>= k) s = (.ok a, s')) : s.Knows key := by
  cases hdevice : s.devices.lookup key with
  | none => cases (require_of_none hdevice).symm.trans h
  | some device => exact Option.isSome_iff_exists.mpr ⟨device, hdevice⟩

/-! ## Rows of the device -/

namespace DeviceRecords

/-- With the row of a profile, or without one. -/
def withProfile (r : DeviceRecords) (iccid : Bytes) (row : Option ProfileState) : DeviceRecords :=
  { r with profiles := Function.update r.profiles iccid row }

def withEUICC (r : DeviceRecords) (state : EUICCState) : DeviceRecords :=
  { r with euicc := some state }

/-- With the row of an associated eIM, or without one. -/
def withEIM (r : DeviceRecords) (eimID : Bytes) (row : Option AssociatedEIM) : DeviceRecords :=
  { r with eims := Function.update r.eims eimID row }

end DeviceRecords

theorem profile_keyed {iccid : Bytes} (h : s.profile key iccid = some state) :
    state.eid = key.eid ∧ state.iccid = iccid := by
  obtain ⟨row, -, rfl⟩ := Option.map_eq_some_iff.mp h
  exact row.property

theorem mem_profilesOf : state ∈ s.profilesOf key ↔ s.profile key state.iccid = some state := by
  rw [Store.profilesOf, Store.profile, List.mem_map]
  constructor
  · rintro ⟨⟨⟨tenant, eid, iccid⟩, row, heid, hiccid⟩, hrow, rfl⟩
    obtain ⟨hmem, hkey⟩ := List.mem_filter.mp hrow
    obtain ⟨rfl, rfl⟩ := of_decide_eq_true hkey
    dsimp only at hiccid
    subst hiccid
    rw [AList.mem_lookup_iff.mpr hmem]
    rfl
  · intro h
    obtain ⟨row, hlookup, hstate⟩ := Option.map_eq_some_iff.mp h
    exact ⟨_, List.mem_filter.mpr ⟨AList.mem_lookup_iff.mp hlookup, by simp⟩, hstate⟩

/-- Rows in a list: each of them is there, with the ICCID it is found under. -/
structure Lists (rows : Bytes → Option ProfileState) (states : List ProfileState) : Prop where
  mem_iff : ∀ state, state ∈ states ↔ rows state.iccid = some state
  iccid_eq : ∀ {iccid state}, rows iccid = some state → state.iccid = iccid

theorem Lists.mem (h : Lists rows states) {iccid : Bytes} (hrow : rows iccid = some state) :
    state ∈ states := (h.mem_iff state).mpr ((h.iccid_eq hrow).symm ▸ hrow)

/-- The listing of a registered device has each of its rows. -/
theorem listProfileStates_of_knows (h : s.Knows (newDeviceKey tenantID eid)) :
    ∃ states, listProfileStates tenantID eid s = (.ok states, s) ∧
      Lists (s.records (newDeviceKey tenantID eid)).profiles states := by
  obtain ⟨device, hdevice⟩ := requireDevice_of_knows h
  refine ⟨sortProfileStates (s.profilesOf (newDeviceKey tenantID eid)), bind_of_ok hdevice,
    fun state => ?_, fun hrow => (profile_keyed hrow).2⟩
  rw [sortProfileStates, List.mem_insertionSort]
  exact mem_profilesOf

/-- Searching a listing for an ICCID is looking the row up. -/
theorem Lists.find? (h : Lists rows states) (iccid : Bytes) :
    (states.find? fun state => state.iccid = iccid) = rows iccid := by
  cases hfind : states.find? fun state => state.iccid = iccid with
  | some state =>
      have hfound := List.find?_some hfind
      have hiccid : state.iccid = iccid := of_decide_eq_true hfound
      rw [← hiccid]
      exact ((h.mem_iff state).mp (List.mem_of_find?_eq_some hfind)).symm
  | none =>
      cases hrow : rows iccid with
      | none => rfl
      | some state =>
          exact absurd (decide_eq_true (h.iccid_eq hrow))
            (List.find?_eq_none.mp hfind state (h.mem hrow))

/-! ## The writes -/

/-- The computation succeeds for a registered device and changes its records by the function. -/
abbrev ChangesDevice (tenantID : TenantID) (eid : Bytes) (m : StoreM Unit)
    (w : DeviceRecords → DeviceRecords) : Prop :=
  Changes (Store.Knows (newDeviceKey tenantID eid)) (Store.records (newDeviceKey tenantID eid)) m w

/-- The check for the device is passed. -/
theorem changes_requireDevice {γ : Type} {f : Store → γ} {k : MemoryDevice → StoreM Unit} {w : γ → γ}
    (hk : ∀ device, Changes (Store.Knows key) f (k device) w) :
    Changes (Store.Knows key) f (require (fun s => s.devices.lookup key) >>= k) w := by
  refine changes_read fun s hs => ?_
  obtain ⟨device, hdevice⟩ := requireDevice_of_knows hs
  exact ⟨device, w, hdevice, hk device, rfl⟩

/-- A row that is not there need not be deleted. -/
theorem changes_ignoreNotFound {γ : Type} {f : Store → γ} {m : StoreM Unit} {w : γ → γ}
    (h : ∀ s : Store, s.Knows key →
      (m s = (.error .notFound, s) ∧ w (f s) = f s) ∨
      ∃ s', m s = (.ok (), s') ∧ s'.Knows key ∧ f s' = w (f s)) :
    Changes (Store.Knows key) f (ignoreNotFound m) w := by
  intro s hs
  rw [ignoreNotFound, attempt_bind]
  obtain ⟨hrun, hsame⟩ | ⟨s', hrun, hs', heffect⟩ := h s hs
  · rw [hrun]
    exact ⟨rfl, hs, hsame.symm⟩
  · rw [hrun]
    exact ⟨rfl, hs', heffect⟩

theorem changes_setProfileState (heid : state.eid = eid) :
    ChangesDevice tenantID eid (setProfileState tenantID state)
      (·.withProfile state.iccid (some state)) := by
  subst heid
  refine changes_requireDevice fun _ => changes_modify fun s hs => ⟨hs, ?_⟩
  ext1
  case profiles =>
    funext iccid
    by_cases h : iccid = state.iccid
    · subst h
      simp [Store.records, Store.profile, DeviceRecords.withProfile, newProfileStateKey,
        newDeviceKey]
    · simp [Store.records, Store.profile, DeviceRecords.withProfile, newProfileStateKey,
        newDeviceKey, h]
  all_goals rfl

theorem changes_deleteProfileState (iccid : Bytes) :
    ChangesDevice tenantID eid (ignoreNotFound (deleteProfileState tenantID eid iccid))
      (·.withProfile iccid none) := by
  refine changes_ignoreNotFound fun s hs => ?_
  obtain ⟨device, hdevice⟩ := requireDevice_of_knows hs
  rw [deleteProfileState, bind_of_ok hdevice]
  cases hrow : s.profileStates.lookup (newProfileStateKey tenantID eid iccid) with
  | none =>
      refine .inl ⟨require_of_none hrow, ?_⟩
      have hnone : none = s.profile (newDeviceKey tenantID eid) iccid :=
        (congrArg (Option.map _) hrow).symm
      exact congrArg (fun profiles => { s.records (newDeviceKey tenantID eid) with
        profiles := profiles }) (Function.update_eq_self_iff.mpr hnone)
  | some row =>
      refine .inr ⟨_, require_of_some hrow, hs, ?_⟩
      ext1
      case profiles =>
        funext iccid'
        by_cases h : iccid' = iccid
        · subst h
          simp [Store.records, Store.profile, DeviceRecords.withProfile, newProfileStateKey,
            newDeviceKey]
        · simp [Store.records, Store.profile, DeviceRecords.withProfile, newProfileStateKey,
            newDeviceKey, h]
      all_goals rfl

theorem changes_setEUICCState {state : EUICCState} (heid : state.eid = eid) :
    ChangesDevice tenantID eid (setEUICCState tenantID state) (·.withEUICC state) := by
  subst heid
  refine changes_requireDevice fun _ => changes_modify fun s hs => ⟨hs, ?_⟩
  ext1
  case euicc => exact AList.lookup_insert _
  all_goals rfl

theorem changes_setAssociatedEIM {associated : AssociatedEIM} (heid : associated.eid = eid) :
    ChangesDevice tenantID eid (setAssociatedEIM tenantID associated)
      (·.withEIM associated.eimID (some associated)) := by
  subst heid
  refine changes_requireDevice fun _ => changes_modify fun s hs => ⟨hs, ?_⟩
  ext1
  case eims =>
    funext eimID
    by_cases h : eimID = associated.eimID
    · subst h
      simp [Store.records, DeviceRecords.withEIM, newAssociatedEIMKey, newDeviceKey]
    · simp [Store.records, DeviceRecords.withEIM, newAssociatedEIMKey, newDeviceKey, h]
  all_goals rfl

theorem changes_deleteAssociatedEIM (eimID : Bytes) :
    ChangesDevice tenantID eid (ignoreNotFound (deleteAssociatedEIM tenantID eid eimID))
      (·.withEIM eimID none) := by
  refine changes_ignoreNotFound fun s hs => ?_
  obtain ⟨device, hdevice⟩ := requireDevice_of_knows hs
  have hbind := bind_of_ok hdevice (k := fun _ => do
    let _ ← require fun s => s.associatedEIMs.lookup (newAssociatedEIMKey tenantID eid eimID)
    modify fun s => { s with
      associatedEIMs := s.associatedEIMs.erase (newAssociatedEIMKey tenantID eid eimID) })
  cases hrow : s.associatedEIMs.lookup (newAssociatedEIMKey tenantID eid eimID) with
  | none =>
      refine .inl ⟨hbind.trans (require_of_none hrow), ?_⟩
      have hnone : none = (s.records (newDeviceKey tenantID eid)).eims eimID := hrow.symm
      exact congrArg (fun eims => { s.records (newDeviceKey tenantID eid) with eims := eims })
        (Function.update_eq_self_iff.mpr hnone)
  | some row =>
      refine .inr ⟨_, hbind.trans (require_of_some hrow), hs, ?_⟩
      ext1
      case eims =>
        funext eimID'
        by_cases h : eimID' = eimID
        · subst h
          simp [Store.records, DeviceRecords.withEIM, newAssociatedEIMKey, newDeviceKey]
        · simp [Store.records, DeviceRecords.withEIM, newAssociatedEIMKey, newDeviceKey, h]
      all_goals rfl

/-! ## Profiles -/

namespace DeviceRecords

/-- A profile is enabled or disabled; one that was not seen before gets a row. -/
def withEnabled (eid iccid : Bytes) (enabled : Bool) (r : DeviceRecords) : DeviceRecords :=
  r.withProfile iccid (some { (r.profiles iccid).getD { eid := eid, iccid := iccid } with
    isEnabled := enabled })

/-- The row of a reported profile: the address of the old row is kept. -/
def reportedRow (r : DeviceRecords) (eid : Bytes) (profile : Euiccpkg.ProfileInfo) :
    ProfileState where
  eid := eid
  iccid := profile.iccid
  isEnabled := profile.isEnabled
  isFallback := profile.isFallback
  smdpAddress := ((r.profiles profile.iccid).map ProfileState.smdpAddress).getD []

/-- The last report of each ICCID, and no other row. -/
def withInventory (eid : Bytes) (profiles : List Euiccpkg.ProfileInfo) (r : DeviceRecords) :
    DeviceRecords :=
  { r with profiles := fun iccid =>
      ((profiles.reverse.find? fun profile => profile.iccid ≠ [] ∧ profile.iccid = iccid).map
        (r.reportedRow eid)) }

/-- Only the profile has the fallback attribute. -/
def withFallback (eid iccid : Bytes) (r : DeviceRecords) : DeviceRecords :=
  { r with profiles := fun i =>
      if i = iccid then
        some { (r.profiles iccid).getD { eid := eid, iccid := iccid } with isFallback := true }
      else (r.profiles i).map fun row => { row with isFallback := false } }

def withoutFallback (r : DeviceRecords) : DeviceRecords :=
  { r with profiles := fun i => (r.profiles i).map fun row => { row with isFallback := false } }

/-- Rows written one after the other. -/
theorem foldl_withProfile {α : Type} (key : α → Bytes) (row : α → Option ProfileState)
    (xs : List α) (r : DeviceRecords) :
    xs.foldl (fun r x => r.withProfile (key x) (row x)) r =
      { r with profiles := fun iccid =>
          ((xs.reverse.find? fun x => key x = iccid).map row).getD (r.profiles iccid) } := by
  have hfold : xs.foldl (fun r x => r.withProfile (key x) (row x)) r =
      { r with profiles :=
          xs.foldl (fun m x => Function.update m (key x) (row x)) r.profiles } := by
    induction xs generalizing r with
    | nil => rfl
    | cons x xs ih => exact ih (r.withProfile (key x) (row x))
  rw [hfold]
  congr 1
  funext iccid
  exact Function.foldl_update key row xs r.profiles iccid

end DeviceRecords

theorem findRow_getProfileState (iccid : Bytes) (s : Store) :
    findRow (getProfileState tenantID eid iccid) s =
      (.ok ((s.records (newDeviceKey tenantID eid)).profiles iccid), s) := by
  have hprofile : (s.records (newDeviceKey tenantID eid)).profiles iccid =
      (s.profileStates.lookup (newProfileStateKey tenantID eid iccid)).map Subtype.val := rfl
  rw [findRow, attempt_bind, getProfileState, hprofile]
  cases hrow : s.profileStates.lookup (newProfileStateKey tenantID eid iccid) with
  | none =>
      rw [require_of_none hrow]
      rfl
  | some row =>
      rw [require_of_some hrow]
      rfl

theorem changes_setProfileEnabled (iccid : Bytes) (enabled : Bool) :
    ChangesDevice tenantID eid (setProfileEnabled tenantID eid iccid enabled)
      (DeviceRecords.withEnabled eid iccid enabled) := by
  refine changes_read fun s _ => ⟨_, _, findRow_getProfileState iccid s,
    changes_setProfileState rfl, ?_⟩
  cases hrow : (s.records (newDeviceKey tenantID eid)).profiles iccid with
  | none => simp [DeviceRecords.withEnabled, hrow]
  | some state =>
      obtain ⟨heid, hiccid⟩ := profile_keyed hrow
      obtain rfl : state.eid = eid := heid
      simp [DeviceRecords.withEnabled, hrow, hiccid]

/-- What is read of a listing, in terms of the rows. -/
theorem Lists.inventoryState {r : DeviceRecords} (h : Lists r.profiles states) (eid : Bytes)
    (profile : Euiccpkg.ProfileInfo) :
    inventoryState states eid profile = r.reportedRow eid profile := by
  rw [Euiccpkg.inventoryState, DeviceRecords.reportedRow, h.find?]

/-- The rows after the reported ones have been written and the others deleted. -/
theorem Lists.rows_of_report (h : Lists rows states) {listed : List Euiccpkg.ProfileInfo}
    (row : Euiccpkg.ProfileInfo → ProfileState) (iccid : Bytes) :
    (((states.filter fun state => !(listed.any fun profile => profile.iccid = state.iccid)).reverse.find?
        fun state => state.iccid = iccid).map fun _ => none).getD
      (((listed.reverse.find? fun profile => profile.iccid = iccid).map fun profile =>
        some (row profile)).getD (rows iccid)) =
      (listed.reverse.find? fun profile => profile.iccid = iccid).map row := by
  cases hlisted : listed.reverse.find? fun profile => profile.iccid = iccid with
  | some profile =>
      have hfound := List.find?_some hlisted
      have hiccid : profile.iccid = iccid := of_decide_eq_true hfound
      have hmem : profile ∈ listed := List.mem_reverse.mp (List.mem_of_find?_eq_some hlisted)
      rw [List.find?_eq_none.mpr]
      · rfl
      · intro state hstate hsame
        have hgone := (List.mem_filter.mp (List.mem_reverse.mp hstate)).2
        simp only [Bool.not_eq_true', List.any_eq_false, decide_eq_true_eq] at hgone hsame
        exact hgone profile hmem (hiccid.trans hsame.symm)
  | none =>
      cases hgone : (states.filter fun state =>
          !(listed.any fun profile => profile.iccid = state.iccid)).reverse.find?
            fun state => state.iccid = iccid with
      | some state => rfl
      | none =>
          -- a row that is left would have been deleted
          cases hrow : rows iccid with
          | none => rfl
          | some state =>
              have hiccid := h.iccid_eq hrow
              have hnot : ∀ profile ∈ listed, profile.iccid ≠ state.iccid := by
                intro profile hprofile hsame
                exact List.find?_eq_none.mp hlisted profile (List.mem_reverse.mpr hprofile)
                  (decide_eq_true (hsame.trans hiccid))
              refine absurd (decide_eq_true hiccid) (List.find?_eq_none.mp hgone state ?_)
              refine List.mem_reverse.mpr (List.mem_filter.mpr ⟨h.mem hrow, ?_⟩)
              simpa using hnot

theorem changes_syncProfileInventory (profiles : List Euiccpkg.ProfileInfo) :
    ChangesDevice tenantID eid (Euiccpkg.syncProfileInventory tenantID eid profiles)
      (DeviceRecords.withInventory eid profiles) := by
  refine changes_read fun s hs => ?_
  obtain ⟨existing, hlist, hexisting⟩ := listProfileStates_of_knows hs
  have hwrite : ∀ profile, ChangesDevice tenantID eid
      (setProfileState tenantID (inventoryState existing eid profile))
      (·.withProfile profile.iccid (some (inventoryState existing eid profile))) :=
    fun _ => changes_setProfileState rfl
  refine ⟨existing, _, hlist, (Changes.forM fun profile _ => hwrite profile).bind
    fun _ => Changes.forM fun state _ => changes_deleteProfileState (ProfileState.iccid state), ?_⟩
  simp only [Function.comp_apply]
  rw [DeviceRecords.foldl_withProfile, DeviceRecords.foldl_withProfile,
    DeviceRecords.withInventory]
  congr 1
  funext iccid
  refine (hexisting.rows_of_report _ iccid).trans ?_
  rw [← List.filter_reverse, List.find?_filter]
  simp only [decide_eq_true_eq]
  rw [funext (hexisting.inventoryState eid)]

/-- The rows after some of the listed ones have been rewritten in place. -/
theorem Lists.rows_of_rewrite (h : Lists rows states) {p : ProfileState → Prop} [DecidablePred p] (g : ProfileState → ProfileState)
    (hg : ∀ state, ¬ p state → g state = state) (iccid : Bytes) :
    (((states.filter p).reverse.find? fun state => state.iccid = iccid).map fun state =>
      some (g state)).getD (rows iccid) = (rows iccid).map g := by
  cases hfind : (states.filter p).reverse.find? fun state => state.iccid = iccid with
  | some state =>
      have hfound := List.find?_some hfind
      have hiccid : state.iccid = iccid := of_decide_eq_true hfound
      have hmem := List.mem_of_mem_filter (List.mem_reverse.mp (List.mem_of_find?_eq_some hfind))
      rw [← hiccid, (h.mem_iff state).mp hmem]
      rfl
  | none =>
      cases hrow : rows iccid with
      | none => rfl
      | some state =>
          have hnot : ¬ p state := by
            intro hp
            refine absurd (decide_eq_true (h.iccid_eq hrow)) (List.find?_eq_none.mp hfind state ?_)
            exact List.mem_reverse.mpr (List.mem_filter.mpr ⟨h.mem hrow, decide_eq_true hp⟩)
          exact congrArg some (hg state hnot).symm

theorem changes_clearProfileFallback :
    ChangesDevice tenantID eid (clearProfileFallback tenantID eid) DeviceRecords.withoutFallback := by
  refine changes_read fun s hs => ?_
  obtain ⟨states, hlist, hstates⟩ := listProfileStates_of_knows hs
  have hwrite : ∀ state ∈ states, ChangesDevice tenantID eid
      (setProfileState tenantID { state with isFallback := false })
      (·.withProfile state.iccid (some { state with isFallback := false })) :=
    fun state hmem => changes_setProfileState (profile_keyed ((hstates.mem_iff state).mp hmem)).1
  refine ⟨states, _, hlist, Changes.forM_filter fun state hmem _ => hwrite state hmem, ?_⟩
  rw [DeviceRecords.foldl_withProfile, DeviceRecords.withoutFallback]
  congr 1
  funext iccid
  refine hstates.rows_of_rewrite (fun state => { state with isFallback := false })
    (fun state hnot => ?_) iccid
  rw [← Bool.eq_false_iff.mpr hnot]

/-- The rewritten rows, and a row for the profile if there was none. -/
theorem Lists.withFallback {r : DeviceRecords} (h : Lists r.profiles states) {eid iccid : Bytes} :
    (if (r.profiles iccid).isSome then id
      else fun r : DeviceRecords =>
        r.withProfile iccid (some { eid := eid, iccid := iccid, isFallback := true }))
      { r with profiles := fun i =>
          (r.profiles i).map fun state => { state with isFallback := state.iccid = iccid } } =
      r.withFallback eid iccid := by
  have hother : ∀ i, i ≠ iccid →
      ((r.profiles i).map fun state => { state with isFallback := state.iccid = iccid }) =
        (r.profiles i).map fun state => { state with isFallback := false } := by
    intro i hne
    cases hrow : r.profiles i with
    | none => rfl
    | some state => simp [h.iccid_eq hrow, hne]
  cases hrow : r.profiles iccid with
  | none =>
      ext1
      case profiles =>
        funext i
        by_cases hi : i = iccid
        · simp [DeviceRecords.withProfile, DeviceRecords.withFallback, hi, hrow]
        · simp [DeviceRecords.withProfile, DeviceRecords.withFallback, hi, hother]
      all_goals rfl
  | some state =>
      ext1
      case profiles =>
        funext i
        by_cases hi : i = iccid
        · simp [DeviceRecords.withFallback, hi, hrow, h.iccid_eq hrow]
        · simp [DeviceRecords.withFallback, hi, hother]
      all_goals rfl

theorem changes_setProfileFallback (iccid : Bytes) :
    ChangesDevice tenantID eid (setProfileFallback tenantID eid iccid)
      (DeviceRecords.withFallback eid iccid) := by
  refine changes_read fun s hs => ?_
  obtain ⟨states, hlist, hstates⟩ := listProfileStates_of_knows hs
  have hwrite : ∀ state ∈ states, ChangesDevice tenantID eid
      (setProfileState tenantID { state with isFallback := state.iccid = iccid })
      (·.withProfile state.iccid (some { state with isFallback := state.iccid = iccid })) :=
    fun state hmem => changes_setProfileState (profile_keyed ((hstates.mem_iff state).mp hmem)).1
  have hloop := Changes.forM_filter (p := fun state : ProfileState =>
    ¬ state.isFallback = decide (state.iccid = iccid)) fun state hmem _ => hwrite state hmem
  simp only [ite_not] at hloop
  refine ⟨states, _, hlist, hloop.bind fun _ =>
    Changes.ite (fun _ => changes_pure) fun _ => changes_setProfileState rfl, ?_⟩
  have hany : states.any (fun state => state.iccid = iccid) =
      ((s.records (newDeviceKey tenantID eid)).profiles iccid).isSome := by
    rw [← hstates.find? iccid, List.isSome_find?]
  have hrows := hstates.rows_of_rewrite
    (p := fun state => ¬ state.isFallback = decide (state.iccid = iccid))
    (fun state => { state with isFallback := state.iccid = iccid })
    fun state hnot => by rw [← not_not.mp hnot]
  simp only [Function.comp_apply]
  rw [DeviceRecords.foldl_withProfile, funext hrows, hany]
  exact hstates.withFallback

/-! ## Packages -/

namespace DeviceRecords

def withDefaultSMDPAddress (eid address : Bytes) (r : DeviceRecords) : DeviceRecords :=
  r.withEUICC { r.euicc.getD { eid := eid } with eid := eid, defaultSMDPAddress := address }

/-- The effect of a package with one PSMO. -/
def withPSMO (eid : Bytes) (pkg : EuiccPackage) (result : Option Result) :
    DeviceRecords → DeviceRecords :=
  let iccid := Hex.encode (packagePSMO pkg).2
  match (packagePSMO pkg).1 with
  | .enable => withEnabled eid iccid true
  | .disable => withEnabled eid iccid false
  | .delete => (·.withProfile iccid none)
  | .listProfileInfo =>
      match result with
      | none => id
      | some result => withInventory eid result.profiles
  | .setFallbackAttribute => withFallback eid iccid
  | .unsetFallbackAttribute => withoutFallback
  | .setDefaultDPAddress =>
      if defaultDPAddressFromPackage pkg = [] then id
      else withDefaultSMDPAddress eid (defaultDPAddressFromPackage pkg)
  | _ => id

end DeviceRecords

theorem changes_setEUICCDefaultSMDPAddress (address : Bytes) :
    ChangesDevice tenantID eid (setEUICCDefaultSMDPAddress tenantID eid address)
      (DeviceRecords.withDefaultSMDPAddress eid address) :=
  changes_read fun s _ =>
    ⟨_, _, findRow_require _ s, changes_setEUICCState rfl, rfl⟩

theorem changes_applyPSMOState (pkg : EuiccPackage) (result : Option Result) :
    ChangesDevice tenantID eid (applyPSMOState tenantID eid pkg result)
      (DeviceRecords.withPSMO eid pkg result) := by
  unfold applyPSMOState DeviceRecords.withPSMO
  dsimp only
  cases (packagePSMO pkg).1 with
  | enable => exact changes_setProfileEnabled _ true
  | disable => exact changes_setProfileEnabled _ false
  | delete => exact changes_deleteProfileState _
  | listProfileInfo =>
      cases result with
      | none => exact changes_pure
      | some result => exact changes_syncProfileInventory _
  | setFallbackAttribute => exact changes_setProfileFallback _
  | unsetFallbackAttribute => exact changes_clearProfileFallback
  | setDefaultDPAddress =>
      exact Changes.ite (fun _ => changes_pure) fun _ => changes_setEUICCDefaultSMDPAddress _
  | _ => exact changes_pure

/-! ## Devices that are not registered -/

/-- A store without the device. -/
def Store.unless (key : DeviceKey) (s : Store) : Option Store :=
  if (s.devices.lookup key).isSome then none else some s

theorem keeps_unless {k : MemoryDevice → StoreM Unit}
    (hk : ∀ device, Keeps Store.devices (k device)) :
    Keeps (Store.unless key) (require (fun s => s.devices.lookup key) >>= k) := by
  intro s
  cases hdevice : s.devices.lookup key with
  | none => rw [require_of_none hdevice]
  | some device =>
      rw [require_of_some hdevice, Store.unless, Store.unless, hk device s, hdevice]
      rfl

/-- Nothing is written for a device that is not registered. -/
theorem ignoresState_unless :
    IgnoresState (Store.unless (newDeviceKey tenantID eid)) tenantID eid where
  setProfile _ heid := heid ▸ keeps_unless fun _ => keeps_modify fun _ => rfl
  deleteProfile _ := keeps_unless fun _ =>
    (keeps_require _ _).bind fun _ => keeps_modify fun _ => rfl
  setEUICC _ heid := heid ▸ keeps_unless fun _ => keeps_modify fun _ => rfl
  setEIM _ heid := heid ▸ keeps_unless fun _ => keeps_modify fun _ => rfl
  deleteEIM _ := keeps_unless fun _ =>
    (keeps_require _ _).bind fun _ => keeps_modify fun _ => rfl

theorem eq_of_keeps_unless {α : Type} {m : StoreM α} (hm : Keeps (Store.unless key) m)
    (hs : ¬ s.Knows key) : (m s).2 = s := by
  have hkept := hm s
  rw [Store.unless, Store.unless, if_neg (c := (s.devices.lookup key).isSome) hs] at hkept
  split at hkept
  next => cases hkept
  next => exact Option.some.inj hkept

end OpenIotRsp.Storage
