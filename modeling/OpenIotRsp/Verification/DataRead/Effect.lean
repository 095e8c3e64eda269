import OpenIotRsp.Verification.DataRead.Objects
import OpenIotRsp.Verification.Storage.DeviceEffect

/-!
# What a data response does to the store

The eUICC state of the response replaces the stored one as a whole, and a profile
list that could not be read replaces the stored profiles by none.
-/

namespace OpenIotRsp.Ipadata

open Octets Ber Stateful Outcome Asn1 Storage

variable {B : Bertlv} {X : X509} {tenantID : TenantID} {eid payload : Bytes} {s : Store}
  {tlv child content : Tlv} {out out' data : IpaEuiccData} {response : IpaEuiccDataResponse}

/-- The device whose eUICC state is written. -/
def stateKey (tenantID : TenantID) (eid : Bytes) (data : IpaEuiccData) : DeviceKey :=
  newDeviceKey tenantID (stateEID eid data)

/-- The store with the eUICC state of the response. -/
def withState (B : Bertlv) (X : X509) (tenantID : TenantID) (eid : Bytes) (data : IpaEuiccData)
    (payload : Bytes) (s : Store) : Store :=
  { s with
    euiccStates := s.euiccStates.insert (stateKey tenantID eid data)
      (stateFromResponse B X eid data payload) }

theorem applyResponse_of_unknown (h : ¬ s.Knows (stateKey tenantID eid data)) :
    (applyResponse B X tenantID eid (.data data) payload s).2 = s := by
  have hset : setEUICCState tenantID (stateFromResponse B X eid data payload) s =
      (.error .notFound, s) := (setEUICCState_apply _ _ _).trans (if_neg h)
  exact congrArg Prod.snd (bind_of_error hset)

theorem applyResponse_of_known (h : s.Knows (stateKey tenantID eid data)) :
    applyResponse B X tenantID eid (.data data) payload s =
      syncProfileInventory tenantID eid data (withState B X tenantID eid data payload s) :=
  bind_of_ok ((setEUICCState_apply _ _ _).trans (if_pos h))

/-! ## Profile lists -/

/-- A profile list that was read. -/
def ListsProfiles (B : Bertlv) (tlv : Tlv) : Prop :=
  ∃ decoded, ProfileInfoListResponse.unmarshalBERTLV B tlv = .ok decoded ∧ decoded.error = none

/-- The object is a profile list that was read, or has a package result with one. -/
inductive CarriesList (B : Bertlv) (object : Tlv) : Prop where
  | list (hlist : ListsProfiles B object)
  | packageResult {results : List EuiccPackageResult} {signed : EuiccPackageResultSigned}
      {item : EuiccResultData} (htag : object.tag = contextConstructed 2)
      (hresults : unmarshalEuiccPackageResultList B object = .ok results)
      (hsigned : .ok signed ∈ results) (hitem : item ∈ signed.data.results)
      (hlist : ListsProfiles B item.raw)

/-- A response with `profileInfoListError` has no profiles. -/
theorem profiles_of_not_listsProfiles {decoded : ProfileInfoListResponse}
    (hdecoded : ProfileInfoListResponse.unmarshalBERTLV B tlv = .ok decoded)
    (hlist : ¬ ListsProfiles B tlv) : decoded.profiles = [] := by
  have herror : decoded.error ≠ none := fun h => hlist ⟨decoded, hdecoded, h⟩
  obtain ⟨-, h⟩ := unit_bind_eq_ok.mp hdecoded
  split at h
  next selected _ =>
      cases hselected : profileInfoListErrorTLV selected with
      | some errTLV =>
          rw [hselected] at h
          obtain ⟨code, -, h⟩ := bind_eq_ok.mp h
          obtain rfl := Except.ok.inj h
          rfl
      | none =>
          rw [hselected] at h
          obtain ⟨-, h⟩ := unit_bind_eq_ok.mp h
          obtain ⟨profiles, -, h⟩ := bind_eq_ok.mp h
          obtain rfl := Except.ok.inj h
          exact absurd rfl herror
  next => cases h

theorem profilesFromPackageResults_of_failed {results : List EuiccPackageResult}
    (hfailed : ∀ signed item, .ok signed ∈ results → item ∈ signed.data.results →
      ¬ ListsProfiles B item.raw) : profilesFromPackageResults B results = [] := by
  refine List.flatMap_eq_nil_iff.mpr fun result hresult => ?_
  cases result with
  | ok signed =>
      refine List.flatMap_eq_nil_iff.mpr fun item hitem => ?_
      have hlist := hfailed signed item hresult (List.mem_filter.mp hitem).1
      cases hdecoded : ProfileInfoListResponse.unmarshalBERTLV B item.raw with
      | error e => rfl
      | ok decoded => exact profiles_of_not_listsProfiles hdecoded hlist
  | errorSigned => rfl
  | errorUnsigned => rfl

theorem profiles_of_taken (h : Taken B out child out') (hlist : ¬ CarriesList B child) :
    out'.profiles = out.profiles := by
  cases h
  case packageResults results htag hresults =>
    have hnone : profilesFromPackageResults B results = [] :=
      profilesFromPackageResults_of_failed fun signed item hsigned hitem h =>
        hlist (.packageResult htag hresults hsigned hitem h)
    simp only [hnone, List.append_nil]
  case profileList decoded htag hdecoded =>
    have hnone : decoded.profiles = [] :=
      profiles_of_not_listsProfiles hdecoded fun h => hlist (.list h)
    simp only [hnone, List.append_nil]
  all_goals rfl

theorem present_of_taken (h : Taken B out child out') :
    out'.profileInfoListPresent = true ↔
      out.profileInfoListPresent = true ∨ child.tag = tagProfileInfoList := by
  cases h
  case profileList decoded htag hdecoded => simp [htag]
  case unknown htag =>
    have hother : child.tag ≠ tagProfileInfoList := fun h => htag (by rw [h]; decide)
    simp [hother]
  all_goals
    have hother : child.tag ≠ tagProfileInfoList := by
      rw [‹child.tag = _›]
      decide
    simp [hother]

theorem profiles_of_failed (hread : IpaEuiccData.unmarshal B content = .ok data)
    (hfailed : ∀ object ∈ content.children, ¬ CarriesList B object) : data.profiles = [] := by
  refine unmarshal_invariant
    (P := fun done out => (∀ object ∈ done, ¬ CarriesList B object) → out.profiles = [])
    (fun _ => rfl) ?_ hread hfailed
  intro done child out out' raw hdone htaken hall
  have hprofiles := profiles_of_taken htaken (hall child (by simp))
  exact hprofiles.trans (hdone fun object hobject => hall object (by simp [hobject]))

theorem present_iff (hread : IpaEuiccData.unmarshal B content = .ok data) :
    data.profileInfoListPresent = true ↔
      ∃ object ∈ content.children, object.tag = tagProfileInfoList := by
  refine unmarshal_invariant
    (P := fun done out => out.profileInfoListPresent = true ↔
      ∃ object ∈ done, object.tag = tagProfileInfoList) (by simp) ?_ hread
  intro done child out out' raw hdone htaken
  simp only [present_of_taken htaken, hdone, List.mem_append, List.mem_singleton, or_and_right,
    exists_or, exists_eq_left]

/-- Taking over an empty list removes every profile of the device. -/
theorem profile_sync_empty (hpresent : data.profileInfoListPresent = true)
    (hempty : data.profiles = []) (hknown : s.Knows (newDeviceKey tenantID eid)) (iccid : Bytes) :
    (syncProfileInventory tenantID eid data s).2.profile (newDeviceKey tenantID eid) iccid =
      none := by
  rw [syncProfileInventory_eq, if_neg (by simp [hpresent]), hempty]
  obtain ⟨-, -, hrecords⟩ := changes_syncProfileInventory [] s hknown
  exact congrFun (congrArg DeviceRecords.profiles hrecords) iccid

/-- Nothing is taken over without a list, or for a device that is not registered. -/
theorem sync_eq_self (h : data.profileInfoListPresent = false ∨ ¬ s.Knows (newDeviceKey tenantID eid))
    (hempty : data.profiles = []) : (syncProfileInventory tenantID eid data s).2 = s := by
  rw [syncProfileInventory]
  split
  next => rfl
  next hlist =>
      have hunknown : ¬ s.Knows (newDeviceKey tenantID eid) :=
        h.resolve_left fun habsent => hlist ⟨by rw [habsent]; rfl, hempty⟩
      have hlisting : listProfileStates tenantID eid s = (.error .notFound, s) :=
        require_of_none (Option.not_isSome_iff_eq_none.mp hunknown)
      exact congrArg Prod.snd (bind_of_error hlisting)

/-- **Failed reads.**  A response without a profile list that was read keeps the stored profiles
exactly when it does not carry `profileInfoListError` for a device with stored profiles. -/
theorem failed_read_keeps_iff (hread : IpaEuiccDataResponse.unmarshalBERTLV B tlv = .ok response)
    (hfailed : ∀ object ∈ ipaEuiccDataObjects tlv, ¬ CarriesList B object) :
    (∀ key iccid, (applyResponse B X tenantID eid response payload s).2.profile key iccid =
        s.profile key iccid) ↔
      ∀ data, response = .data data →
        (∃ object ∈ ipaEuiccDataObjects tlv, object.tag = tagProfileInfoList) →
        s.Knows (stateKey tenantID eid data) → s.Knows (newDeviceKey tenantID eid) →
        ∀ iccid, s.profile (newDeviceKey tenantID eid) iccid = none := by
  cases response with
  | error e =>
      refine ⟨fun _ data hdata => ?_, fun _ _ _ => rfl⟩
      cases hdata
  | data data =>
      obtain ⟨content, hcontent, hunmarshal⟩ := unmarshal_of_response hread
      rw [← hcontent] at hfailed ⊢
      have hempty := profiles_of_failed hunmarshal hfailed
      rw [← present_iff hunmarshal]
      let s' := withState B X tenantID eid data payload s
      constructor
      · intro hkeeps data' hdata hpresent hstate hknown iccid
        obtain rfl := IpaEuiccDataResponse.data.inj hdata
        have hrow := hkeeps (newDeviceKey tenantID eid) iccid
        rw [applyResponse_of_known hstate] at hrow
        exact hrow.symm.trans (profile_sync_empty (s := s') hpresent hempty hknown iccid)
      · intro hnone key iccid
        by_cases hstate : s.Knows (stateKey tenantID eid data)
        · rw [applyResponse_of_known hstate]
          by_cases h : data.profileInfoListPresent = false ∨ ¬ s.Knows (newDeviceKey tenantID eid)
          · have hrow := congrArg (Store.profile · key iccid) (sync_eq_self (s := s') h hempty)
            exact hrow
          · rw [not_or, Bool.not_eq_false, not_not] at h
            by_cases hkey : key = newDeviceKey tenantID eid
            · subst hkey
              have hrow := hnone data rfl h.1 hstate h.2 iccid
              exact (profile_sync_empty (s := s') h.1 hempty h.2 iccid).trans hrow.symm
            · have hframe := (ignoresState_records hkey).syncDataInventory data
              exact congrFun (congrArg DeviceRecords.profiles (hframe _)) iccid
        · rw [applyResponse_of_unknown hstate]

/-! A device with an enabled profile, and a response that reports why its profiles could not be
read. -/

def sampleReadStore : Store :=
  ((do
    registerDevice [] (text "eid")
    setProfileState [] ⟨text "eid", text "8910aa", true, false, []⟩ : StoreM Unit) Store.new).2

def sampleListError : Tlv :=
  .constructed tagIpaEuiccData [.constructed tagProfileInfoList [.primitive tagInteger [0x01]]]

def sampleX509 : X509 := ⟨fun _ => none⟩

theorem sampleListError_read :
    IpaEuiccDataResponse.unmarshalBERTLV Bertlv.reference sampleListError =
      .ok (.data { profileInfoListPresent := true, rawObjects := sampleListError.children }) := by
  decide +kernel

theorem sampleListError_failed :
    ∀ object ∈ ipaEuiccDataObjects sampleListError, ¬ CarriesList Bertlv.reference object := by
  intro object hobject hcarries
  obtain rfl := List.mem_singleton.mp hobject
  cases hcarries with
  | list hlist =>
      obtain ⟨decoded, hdecoded, hnone⟩ := hlist
      obtain rfl := Except.ok.inj hdecoded
      cases hnone
  | packageResult htag => exact absurd htag (by decide)

theorem failed_read_keeps_iff_error :
    (∀ key iccid, (applyResponse Bertlv.reference sampleX509 [] (text "eid")
        (.data { profileInfoListPresent := true, rawObjects := sampleListError.children }) []
        sampleReadStore).2.profile key iccid = sampleReadStore.profile key iccid) ↔
      ∀ data, IpaEuiccDataResponse.data
          { profileInfoListPresent := true, rawObjects := sampleListError.children } = .data data →
        (∃ object ∈ ipaEuiccDataObjects sampleListError, object.tag = tagProfileInfoList) →
        sampleReadStore.Knows (stateKey [] (text "eid") data) →
        sampleReadStore.Knows (newDeviceKey [] (text "eid")) →
        ∀ iccid, sampleReadStore.profile (newDeviceKey [] (text "eid")) iccid = none :=
  failed_read_keeps_iff sampleListError_read sampleListError_failed

/-- The profile is deleted. -/
theorem failed_read_erases :
    (∀ object ∈ ipaEuiccDataObjects sampleListError, ¬ CarriesList Bertlv.reference object) ∧
      (sampleReadStore.profile (newDeviceKey [] (text "eid")) (text "8910aa")).isSome ∧
      ∃ response, IpaEuiccDataResponse.unmarshalBERTLV Bertlv.reference sampleListError =
          .ok response ∧
        (applyResponse Bertlv.reference sampleX509 [] (text "eid") response [] sampleReadStore).1 =
          .ok () ∧
        (applyResponse Bertlv.reference sampleX509 [] (text "eid") response []
          sampleReadStore).2.profile (newDeviceKey [] (text "eid")) (text "8910aa") = none := by
  refine ⟨sampleListError_failed, by decide +kernel, _, sampleListError_read, ?_, ?_⟩
  · decide +kernel
  · decide +kernel

/-! ## The eUICC state -/

/-- The fields of the eUICC state that are read from data objects. -/
inductive StateField where
  | eidValue
  | defaultSMDPAddress
  | rootSMDSAddress
  | euiccInfo1
  | euiccInfo2
  | ipaCapabilities
  | deviceInfo
  | eumCertificate
  | euiccCertificate
  | certificateIdentifiers

namespace StateField

/-- The objects that a field is read from. -/
def tags : StateField → List Tag
  | eidValue => [tagEID]
  | defaultSMDPAddress => [context 1]
  | rootSMDSAddress => [context 3]
  | euiccInfo1 => [tagEUICCInfo1]
  | euiccInfo2 => [tagEUICCInfo2]
  | ipaCapabilities => [tagIPACapabilities]
  | deviceInfo => [contextConstructed 9]
  | eumCertificate => [contextConstructed 5]
  | euiccCertificate => [contextConstructed 6]
  | certificateIdentifiers =>
      [tagEUICCInfo1, tagEUICCInfo2, contextConstructed 5, contextConstructed 6]

def value : StateField → EUICCState → List Bytes
  | eidValue, state => [state.eidValue]
  | defaultSMDPAddress, state => [state.defaultSMDPAddress]
  | rootSMDSAddress, state => [state.rootSMDSAddress]
  | euiccInfo1, state => [state.euiccInfo1]
  | euiccInfo2, state => [state.euiccInfo2]
  | ipaCapabilities, state => [state.ipaCapabilities]
  | deviceInfo, state => [state.deviceInfo]
  | eumCertificate, state => [state.eumCertificate]
  | euiccCertificate, state => [state.euiccCertificate]
  | certificateIdentifiers, state => state.certificateIdentifiers

/-- The response does not carry the field. -/
def Absent (field : StateField) (objects : List Tlv) : Prop :=
  ∀ object ∈ objects, object.tag ∉ field.tags

/-- The field as it is before anything has been read. -/
def Blank (field : StateField) (state : EUICCState) : Prop :=
  field.value state = field.value { eid := [] }

/-- An object changes only the fields that are read from it. -/
theorem value_of_taken {field : StateField} (h : Taken B out child out')
    (habsent : child.tag ∉ field.tags) :
    field.value (stateFromResponse B X eid out' payload) =
      field.value (stateFromResponse B X eid out payload) := by
  cases h <;> cases field <;>
    first
    | rfl
    | exact absurd (by simp [tags, ‹child.tag = _›]) habsent

theorem blank_of_absent {field : StateField} (hread : IpaEuiccData.unmarshal B content = .ok data)
    (habsent : field.Absent content.children) :
    field.Blank (stateFromResponse B X eid data payload) := by
  refine unmarshal_invariant
    (P := fun done out => field.Absent done → field.Blank (stateFromResponse B X eid out payload))
    (fun _ => by cases field <;> rfl) ?_ hread habsent
  intro done child out out' raw hdone htaken hall
  have hvalue : field.value (stateFromResponse B X eid out' payload) =
      field.value (stateFromResponse B X eid { out with rawObjects := raw } payload) :=
    value_of_taken htaken (hall child (by simp))
  exact hvalue.trans (hdone fun object hobject => hall object (by simp [hobject]))

end StateField

theorem lookup_applyResponse_of_known (hstate : s.Knows (stateKey tenantID eid data))
    (key : DeviceKey) :
    (applyResponse B X tenantID eid (.data data) payload s).2.euiccStates.lookup key =
      (withState B X tenantID eid data payload s).euiccStates.lookup key := by
  have hkeeps : Keeps (fun s : Store => s.euiccStates.lookup key)
      (syncProfileInventory tenantID eid data) := by
    rw [syncProfileInventory_eq]
    refine Keeps.ite (fun _ => keeps_pure _ ()) fun _ => ?_
    exact keeps_syncProfileInventory (fun _ _ => keeps_setProfileState fun _ => rfl)
      (fun _ => keeps_deleteProfileState fun _ => rfl) _
  rw [applyResponse_of_known hstate]
  exact hkeeps _

/-- **Partial reads.**  A data response keeps what it does not carry exactly when nothing of that
is stored. -/
theorem partial_read_keeps_iff
    (hread : IpaEuiccDataResponse.unmarshalBERTLV B tlv = .ok (.data data)) :
    (∀ key old, s.euiccStates.lookup key = some old →
        ∃ new, (applyResponse B X tenantID eid (.data data) payload s).2.euiccStates.lookup key =
            some new ∧
          ∀ field : StateField, field.Absent (ipaEuiccDataObjects tlv) →
            field.value new = field.value old) ↔
      ∀ old, s.Knows (stateKey tenantID eid data) →
        s.euiccStates.lookup (stateKey tenantID eid data) = some old →
        ∀ field : StateField, field.Absent (ipaEuiccDataObjects tlv) → field.Blank old := by
  obtain ⟨content, hcontent, hunmarshal⟩ := unmarshal_of_response hread
  rw [← hcontent]
  have hnew : (withState B X tenantID eid data payload s).euiccStates.lookup
      (stateKey tenantID eid data) = some (stateFromResponse B X eid data payload) :=
    AList.lookup_insert _
  constructor
  · intro hkeeps old hstate hold field habsent
    obtain ⟨new, hlookup, hfields⟩ := hkeeps _ old hold
    rw [lookup_applyResponse_of_known hstate, hnew] at hlookup
    obtain rfl := Option.some.inj hlookup
    exact (hfields field habsent).symm.trans (StateField.blank_of_absent hunmarshal habsent)
  · intro hblank key old hold
    by_cases hstate : s.Knows (stateKey tenantID eid data)
    · rw [lookup_applyResponse_of_known hstate]
      by_cases hkey : key = stateKey tenantID eid data
      · subst hkey
        refine ⟨_, hnew, fun field habsent => ?_⟩
        have hwritten : field.Blank (stateFromResponse B X eid data payload) :=
          StateField.blank_of_absent hunmarshal habsent
        exact hwritten.trans (hblank old hstate hold field habsent).symm
      · exact ⟨old, (AList.lookup_insert_ne hkey).trans hold, fun _ _ => rfl⟩
    · rw [applyResponse_of_unknown hstate]
      exact ⟨old, hold, fun _ _ => rfl⟩

/-! The default SM-DP+ address has been set by a signed package, and a data read then returns only
the eUICC information. -/

def sampleAddressStore : Store :=
  ((do
    registerDevice [] (text "eid")
    Euiccpkg.setEUICCDefaultSMDPAddress [] (text "eid") (text "smdp") : StoreM Unit) Store.new).2

def sampleInfoResponse : Tlv :=
  .constructed tagIpaEuiccData [.constructed tagEUICCInfo1 []]

def sampleInfo : IpaEuiccData where
  euiccInfo1 := some ⟨[], [], []⟩
  euiccInfo1Raw := some (.constructed tagEUICCInfo1 [])
  rawObjects := sampleInfoResponse.children

theorem sampleInfoResponse_read :
    IpaEuiccDataResponse.unmarshalBERTLV Bertlv.reference sampleInfoResponse =
      .ok (.data sampleInfo) := by
  decide +kernel

theorem partial_read_keeps_iff_info :
    (∀ key old, sampleAddressStore.euiccStates.lookup key = some old →
        ∃ new, (applyResponse Bertlv.reference sampleX509 [] (text "eid") (.data sampleInfo) []
            sampleAddressStore).2.euiccStates.lookup key = some new ∧
          ∀ field : StateField, field.Absent (ipaEuiccDataObjects sampleInfoResponse) →
            field.value new = field.value old) ↔
      ∀ old, sampleAddressStore.Knows (stateKey [] (text "eid") sampleInfo) →
        sampleAddressStore.euiccStates.lookup (stateKey [] (text "eid") sampleInfo) = some old →
        ∀ field : StateField, field.Absent (ipaEuiccDataObjects sampleInfoResponse) →
          field.Blank old :=
  partial_read_keeps_iff sampleInfoResponse_read

/-- The address is gone although the response has no address object. -/
theorem partial_read_erases :
    IpaEuiccDataResponse.unmarshalBERTLV Bertlv.reference sampleInfoResponse =
        .ok (.data sampleInfo) ∧
      (∀ object ∈ ipaEuiccDataObjects sampleInfoResponse,
        object.tag ∉ StateField.defaultSMDPAddress.tags) ∧
      (sampleAddressStore.euiccStates.lookup (newDeviceKey [] (text "eid"))).map
          EUICCState.defaultSMDPAddress = some (text "smdp") ∧
      ((applyResponse Bertlv.reference sampleX509 [] (text "eid") (.data sampleInfo) []
          sampleAddressStore).2.euiccStates.lookup (newDeviceKey [] (text "eid"))).map
          EUICCState.defaultSMDPAddress = some [] := by
  refine ⟨sampleInfoResponse_read, by decide, ?_, ?_⟩
  · decide +kernel
  · decide +kernel

end OpenIotRsp.Ipadata
