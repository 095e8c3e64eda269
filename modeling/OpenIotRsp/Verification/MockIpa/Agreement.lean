import OpenIotRsp.Verification.Api.AssociationToken
import OpenIotRsp.Verification.MockIpa.Executed
import OpenIotRsp.Verification.Storage.ShownResults

/-!
# The eUICC and what the eIM has on it

An operation changes the emulated eUICC, and its result changes the rows that
the eIM keeps of it.  The association tokens agree before and after, and so do
the profiles that the eIM has been told of: a download is not reported, until
the profiles are listed.
-/

namespace OpenIotRsp.MockIpa

open Octets Ber Asn1 Storage Euiccpkg Outcome

variable {row : AssociatedEIM}

/-! ## The eUICC -/

namespace DeviceState

variable {d : DeviceState} {iccid : Bytes}

theorem profile_setProfile (record : ProfileRecord) (iccid : Bytes) :
    (d.setProfile record).profile iccid =
      if iccid = record.iccid then some record else d.profile iccid := by
  rw [profile, setProfile]
  split
  next h =>
      subst h
      rw [AList.lookup_insert]
      rfl
  next h =>
      rw [AList.lookup_insert_ne fun heq => h (Hex.encode_injective heq)]
      rfl

theorem profile_applyPSMO (hne : iccid ≠ []) (enabled : Bool) (other : Bytes) :
    (d.applyPSMO iccid enabled).profile other =
      if other = iccid then
        some { (d.profile iccid).getD { iccid := iccid } with iccid := iccid, enabled := enabled }
      else d.profile other := by
  rw [applyPSMO, if_neg hne]
  exact profile_setProfile _ other

theorem profile_deleteProfile (hne : iccid ≠ []) (other : Bytes) :
    (d.deleteProfile iccid).profile other = if other = iccid then none else d.profile other := by
  rw [deleteProfile, if_neg hne, profile]
  split
  next h =>
      subst h
      rw [AList.lookup_erase]
      rfl
  next h =>
      rw [AList.lookup_erase_ne fun heq => h (Hex.encode_injective heq)]
      rfl

theorem profile_assignFallback (fallback : Bytes → Bool) (iccid : Bytes) :
    (d.assignFallback fallback).profile iccid =
      (d.profile iccid).map fun record => { record with fallback := fallback (Hex.encode iccid) } := by
  have hlookup : (d.assignFallback fallback).profiles.lookup (Hex.encode iccid) =
      (d.profiles.lookup (Hex.encode iccid)).map fun record =>
        ⟨{ record.val with fallback := fallback (Hex.encode iccid) }, record.property⟩ :=
    List.dlookup_map₂ (Hex.encode iccid)
  rw [profile, hlookup, profile, Option.map_map, Option.map_map]
  rfl

theorem profile_setProfileFallback (hne : iccid ≠ []) (other : Bytes) :
    (d.setProfileFallback iccid).profile other =
      if other = iccid then some { (d.profile iccid).getD { iccid := iccid } with fallback := true }
      else (d.profile other).map fun record => { record with fallback := false } := by
  have hassigned (i : Bytes) : (d.assignFallback fun key => key = Hex.encode iccid).profile i =
      (d.profile i).map fun record => { record with fallback := i = iccid } := by
    rw [profile_assignFallback]
    simp only [Hex.encode_injective.eq_iff]
  rw [setProfileFallback, if_neg hne]
  dsimp only
  rw [hassigned]
  cases hprofile : d.profile iccid with
  | none =>
      simp only [Option.map_none, Option.isSome_none, Bool.false_eq_true, if_false,
        profile_setProfile, Option.getD_none, hassigned]
      split
      next => rfl
      next h => simp [h]
  | some record =>
      simp only [Option.map_some, Option.isSome_some, if_true, hassigned, Option.getD_some]
      split
      next h =>
          subst h
          simp [hprofile]
      next h => simp [h]

theorem associationToken_set {eimID : Bytes} (hne : eimID ≠ []) (token : Int) (other : Bytes) :
    (d.setAssociationToken eimID token).associationToken other =
      if other = eimID then some token else d.associationToken other := by
  rw [setAssociationToken, if_neg hne, associationToken, associationToken]
  split
  next h => rw [if_neg fun heq => hne (heq.symm.trans h)]
  next =>
      split
      next h => rw [h, AList.lookup_insert]
      next h => exact AList.lookup_insert_ne h

theorem associationToken_clear {eimID : Bytes} (hne : eimID ≠ []) (other : Bytes) :
    (d.clearAssociationToken eimID).associationToken other =
      if other = eimID then none else d.associationToken other := by
  rw [clearAssociationToken, if_neg hne, associationToken, associationToken]
  split
  next => rw [ite_self]
  next =>
      split
      next h => rw [h, AList.lookup_erase]
      next h => exact AList.lookup_erase_ne h

end DeviceState

/-! ## Agreement -/

/-- Whether a profile is enabled, and whether it has the fallback attribute. -/
def DeviceState.flags (d : DeviceState) (iccid : Bytes) : Option (Bool × Bool) :=
  (d.profile iccid).map fun record => (record.enabled, record.fallback)

def rowFlags (r : DeviceRecords) (iccid : Bytes) : Option (Bool × Bool) :=
  (r.profiles (Hex.encode iccid)).map fun row => (row.isEnabled, row.isFallback)

/-- The profile was not downloaded. -/
def DeviceState.Told (d : DeviceState) (iccid : Bytes) : Prop :=
  ∀ record, d.profile iccid = some record → record.smdp = []

/-- The eIM has the tokens of the eUICC, and its profiles apart from downloaded ones. -/
structure Agrees (B : Bertlv) (d : DeviceState) (r : DeviceRecords) : Prop where
  tokens : ∀ eimID, ∃ token, rowToken B (r.eims eimID) = .ok token ∧
    (eimID ≠ [] → token = d.associationToken eimID)
  profiles : ∀ iccid, iccid ≠ [] → d.Told iccid → rowFlags r iccid = d.flags iccid

/-- The eIM has the profiles of the eUICC, downloaded ones as well. -/
def SameProfiles (d : DeviceState) (r : DeviceRecords) : Prop :=
  ∀ iccid, iccid ≠ [] → rowFlags r iccid = d.flags iccid

section

open DeviceState

variable {B : Bertlv} {d : DeviceState} {r : DeviceRecords} {eid iccid : Bytes}

theorem Agrees.congr {r' : DeviceRecords} (h : Agrees B d r) (hprofiles : r'.profiles = r.profiles)
    (heims : r'.eims = r.eims) : Agrees B d r' where
  tokens := heims ▸ h.tokens
  profiles iccid hne htold := by
    rw [rowFlags, hprofiles]
    exact h.profiles iccid hne htold

/-! ### Profiles -/

theorem rowFlags_withProfile (row : Option ProfileState) (other : Bytes) :
    rowFlags (r.withProfile (Hex.encode iccid) row) other =
      if other = iccid then row.map fun row => (row.isEnabled, row.isFallback)
      else rowFlags r other := by
  rw [rowFlags, DeviceRecords.withProfile]
  split
  next h =>
      dsimp only
      rw [h, Function.update_self]
  next h =>
      dsimp only
      rw [Function.update_of_ne fun heq => h (Hex.encode_injective heq), rowFlags]

/-- Only the profile has changed, and its flags agree if the old ones do. -/
theorem Agrees.withProfile {d' : DeviceState} (h : Agrees B d r) {row : Option ProfileState}
    (htokens : ∀ eimID, d'.associationToken eimID = d.associationToken eimID)
    (hother : ∀ other, other ≠ [] → other ≠ iccid → d'.profile other = d.profile other)
    (hself : iccid ≠ [] → d'.Told iccid →
      (row.map fun row => (row.isEnabled, row.isFallback)) = d'.flags iccid) :
    Agrees B d' (r.withProfile (Hex.encode iccid) row) where
  tokens eimID := by
    rw [htokens]
    exact h.tokens eimID
  profiles other hne htold := by
    rw [rowFlags_withProfile]
    split
    next heq =>
        subst heq
        exact hself hne htold
    next heq =>
        rw [Told, hother other hne heq] at htold
        rw [flags, hother other hne heq]
        exact h.profiles other hne htold

/-- The flags of a profile that gets a record and a row if it has none. -/
theorem Agrees.flags_getD (h : Agrees B d r) (eid : Bytes) (hne : iccid ≠ [])
    (htold : ((d.profile iccid).getD { iccid := iccid }).smdp = []) :
    ((r.profiles (Hex.encode iccid)).getD { eid := eid, iccid := Hex.encode iccid }).isEnabled =
        ((d.profile iccid).getD { iccid := iccid }).enabled ∧
      ((r.profiles (Hex.encode iccid)).getD { eid := eid, iccid := Hex.encode iccid }).isFallback =
        ((d.profile iccid).getD { iccid := iccid }).fallback := by
  have hflags := h.profiles iccid hne
  rw [rowFlags, flags, Told] at hflags
  cases hold : d.profile iccid with
  | none =>
      rw [hold] at hflags
      rw [Option.map_eq_none_iff.mp (hflags nofun)]
      exact ⟨rfl, rfl⟩
  | some record =>
      rw [hold] at hflags htold
      obtain ⟨row, hrow, heq⟩ := Option.map_eq_some_iff.mp (hflags fun record' heq =>
        Option.some.inj heq ▸ htold)
      rw [hrow]
      exact Prod.mk.inj heq

theorem Agrees.enable (h : Agrees B d r) (eid iccid : Bytes) (enabled : Bool) :
    Agrees B (d.applyPSMO iccid enabled) (r.withEnabled eid (Hex.encode iccid) enabled) := by
  refine h.withProfile (fun eimID => ?_) (fun other hne hother => ?_) fun hne htold => ?_
  · rw [applyPSMO]
    split <;> rfl
  · by_cases hnil : iccid = []
    · rw [applyPSMO, if_pos hnil]
    · rw [profile_applyPSMO hnil, if_neg hother]
  · have hprofile := profile_applyPSMO (d := d) hne enabled iccid
    rw [if_pos rfl] at hprofile
    have htold := htold _ hprofile
    rw [flags, hprofile, Option.map_some, Option.map_some]
    exact congrArg some (Prod.ext rfl (h.flags_getD eid hne htold).2)

theorem Agrees.delete (h : Agrees B d r) (iccid : Bytes) :
    Agrees B (d.deleteProfile iccid) (r.withProfile (Hex.encode iccid) none) := by
  refine h.withProfile (fun eimID => ?_) (fun other hne hother => ?_) fun hne _ => ?_
  · rw [deleteProfile]
    split <;> rfl
  · by_cases hnil : iccid = []
    · rw [deleteProfile, if_pos hnil]
    · rw [profile_deleteProfile hnil, if_neg hother]
  · rw [flags, profile_deleteProfile hne, if_pos rfl]
    rfl

/-- The profile with another fallback attribute was downloaded if it was before. -/
theorem told_of_map {d' : DeviceState} {fallback : Bool}
    (hprofile : d'.profile iccid =
      (d.profile iccid).map fun record => { record with fallback := fallback })
    (h : d'.Told iccid) : d.Told iccid := by
  intro record hrecord
  rw [hrecord] at hprofile
  exact h { record with fallback := fallback } hprofile

/-- Both sides take the fallback attribute from the profile. -/
theorem Agrees.flags_cleared {d' : DeviceState} {r' : DeviceRecords} (h : Agrees B d r)
    (hne : iccid ≠ [])
    (hprofile : d'.profile iccid = (d.profile iccid).map fun record => { record with fallback := false })
    (hrow : r'.profiles (Hex.encode iccid) =
      (r.profiles (Hex.encode iccid)).map fun row => { row with isFallback := false })
    (htold : d'.Told iccid) : rowFlags r' iccid = d'.flags iccid := by
  have hflags := h.profiles iccid hne (told_of_map hprofile htold)
  have hmap := congrArg (Option.map fun flags : Bool × Bool => (flags.1, false)) hflags
  rw [rowFlags, flags, Option.map_map, Option.map_map] at hmap
  rw [rowFlags, flags, hprofile, hrow, Option.map_map, Option.map_map]
  exact hmap

theorem Agrees.clearFallback (h : Agrees B d r) :
    Agrees B d.clearProfileFallback r.withoutFallback :=
  ⟨h.tokens, fun _ hne htold =>
    h.flags_cleared hne (profile_assignFallback _ _) rfl htold⟩

theorem Agrees.setFallback (h : Agrees B d r) (eid : Bytes) (hne : iccid ≠ []) :
    Agrees B (d.setProfileFallback iccid) (r.withFallback eid (Hex.encode iccid)) := by
  refine ⟨fun eimID => ?_, fun other hother htold => ?_⟩
  · rw [DeviceState.setProfileFallback, if_neg hne]
    dsimp only
    split <;> exact h.tokens eimID
  · have hprofile := profile_setProfileFallback (d := d) hne other
    by_cases heq : other = iccid
    · subst heq
      rw [if_pos rfl] at hprofile
      have hrow : (r.withFallback eid (Hex.encode other)).profiles (Hex.encode other) = some
          { (r.profiles (Hex.encode other)).getD { eid := eid, iccid := Hex.encode other } with
            isFallback := true } := if_pos rfl
      have htold := htold _ hprofile
      rw [rowFlags, flags, hprofile, hrow, Option.map_some, Option.map_some]
      exact congrArg some (Prod.ext (h.flags_getD eid hne htold).1 rfl)
    · rw [if_neg heq] at hprofile
      exact h.flags_cleared hother hprofile (if_neg fun h => heq (Hex.encode_injective h)) htold

/-- What is reported of a profile. -/
theorem mem_profileInfos {profile : Euiccpkg.ProfileInfo} :
    profile ∈ d.profileInfos.filterMap domainProfile ↔ ∃ iccid record, iccid ≠ [] ∧
      d.profile iccid = some record ∧ profile = ⟨Hex.encode iccid, record.enabled, record.fallback⟩ := by
  have hreport (record : ProfileRecord) : reportOf record.info =
      ⟨Hex.encode record.iccid, record.enabled, record.fallback⟩ := by
    cases henabled : record.enabled <;>
      simp [reportOf, ProfileRecord.info, henabled, profileStateDisabled, profileStateEnabled]
  rw [filterMap_domainProfile, List.mem_filter, List.mem_map]
  constructor
  · rintro ⟨⟨info, hinfo, rfl⟩, hne⟩
    obtain ⟨⟨key, row⟩, hrow, rfl⟩ := List.mem_map.mp hinfo
    rw [hreport] at hne ⊢
    refine ⟨row.val.iccid, row.val, fun hnil => ?_, ?_, rfl⟩
    · simp [hnil, encode_eq_nil] at hne
    · obtain ⟨record, rfl⟩ := row
      rw [profile, AList.mem_lookup_iff.mpr hrow]
      rfl
  · rintro ⟨iccid, record, hne, hprofile, rfl⟩
    obtain ⟨row, hrow, rfl⟩ := Option.map_eq_some_iff.mp hprofile
    refine ⟨⟨row.val.info, List.mem_map.mpr ⟨⟨_, row⟩, AList.mem_lookup_iff.mp hrow, rfl⟩, ?_⟩, ?_⟩
    · rw [hreport, row.property]
    · simpa [encode_eq_nil] using hne

/-- Listed profiles agree, downloaded ones as well. -/
theorem rowFlags_withInventory (eid : Bytes) (hne : iccid ≠ []) :
    rowFlags (r.withInventory eid (d.profileInfos.filterMap domainProfile)) iccid =
      d.flags iccid := by
  have hfound : ∀ profile, ((d.profileInfos.filterMap domainProfile).reverse.find? fun profile =>
      profile.iccid ≠ [] ∧ profile.iccid = Hex.encode iccid) = some profile → d.flags iccid =
        some (profile.isEnabled, profile.isFallback) := by
    intro profile hprofile
    obtain ⟨other, record, -, hrecord, rfl⟩ :=
      mem_profileInfos.mp (List.mem_reverse.mp (List.mem_of_find?_eq_some hprofile))
    have hmatch := List.find?_some hprofile
    obtain rfl := Hex.encode_injective (of_decide_eq_true hmatch).2
    rw [flags, hrecord]
    rfl
  rw [rowFlags, DeviceRecords.withInventory, Option.map_map]
  cases hfind : (d.profileInfos.filterMap domainProfile).reverse.find? fun profile =>
      profile.iccid ≠ [] ∧ profile.iccid = Hex.encode iccid with
  | some profile =>
      rw [hfound profile hfind]
      rfl
  | none =>
      refine (Option.map_eq_none_iff.mpr (Option.eq_none_iff_forall_not_mem.mpr
        fun record hrecord => ?_)).symm
      have hmem := mem_profileInfos.mpr ⟨iccid, record, hne, hrecord, rfl⟩
      have hnot := List.find?_eq_none.mp hfind _ (List.mem_reverse.mpr hmem)
      simp [encode_eq_nil, hne] at hnot

theorem sameProfiles_apply {result : Result} {request : Option Tlv}
    (hreports : Reports d result (.psmo [.listProfileInfo request])) :
    SameProfiles d ((r.withPSMO eid (.psmo [.listProfileInfo request]) (some result)).withECO B eid
      (.psmo [.listProfileInfo request]) (some result)) := by
  intro iccid hne
  have hlist := rowFlags_withInventory (d := d) (r := r) eid hne
  rw [← show result.profiles = d.profileInfos.filterMap domainProfile from hreports] at hlist
  exact hlist

/-- A downloaded profile is none that the eIM was told of. -/
theorem Agrees.download (h : Agrees B d r) {profileID smdp : Bytes} (hsmdp : smdp ≠ []) :
    Agrees B (d.recordDownload profileID smdp) r := by
  have hprofile (iccid : Bytes) : (d.recordDownload profileID smdp).profile iccid =
      if iccid = profileIDToICCID profileID then
        some { iccid := profileIDToICCID profileID, smdp := smdp, enabled := true }
      else d.profile iccid := by
    rw [recordDownload, if_neg hsmdp]
    exact profile_setProfile _ iccid
  have htokens (eimID : Bytes) : (d.recordDownload profileID smdp).associationToken eimID =
      d.associationToken eimID := by
    rw [recordDownload, if_neg hsmdp]
    rfl
  refine ⟨fun eimID => ?_, fun iccid hne htold => ?_⟩
  · rw [htokens]
    exact h.tokens eimID
  · by_cases hself : iccid = profileIDToICCID profileID
    · have hrecord := hprofile iccid
      rw [if_pos hself] at hrecord
      exact absurd (htold _ hrecord) hsmdp
    · have hrecord := hprofile iccid
      rw [if_neg hself] at hrecord
      rw [flags, hrecord]
      exact h.profiles iccid hne fun record hfound => htold record (hrecord.trans hfound)

/-! ### Associated eIMs -/

theorem Agrees.withEIM {d' : DeviceState} (h : Agrees B d r) {eimID : Bytes}
    {row : Option AssociatedEIM} {token : Option Int}
    (hprofiles : ∀ iccid, d'.profile iccid = d.profile iccid)
    (hother : ∀ other, other ≠ eimID → d'.associationToken other = d.associationToken other)
    (hrow : rowToken B row = .ok token) (hself : eimID ≠ [] → token = d'.associationToken eimID) :
    Agrees B d' (r.withEIM eimID row) where
  tokens other := by
    rw [DeviceRecords.withEIM]
    dsimp only
    by_cases heq : other = eimID
    · subst heq
      rw [Function.update_self]
      exact ⟨token, hrow, hself⟩
    · rw [Function.update_of_ne heq, hother other heq]
      exact h.tokens other
  profiles iccid hne htold := by
    rw [Told, hprofiles] at htold
    rw [flags, hprofiles]
    exact h.profiles iccid hne htold

theorem rowToken_of_config (hB : B.Lawful) {config : EimConfigurationData} (hplain : config.Plain)
    (hsequence : config.CarriesSequence) (h : associatedEIMFromConfig B eid config = .ok row) :
    row.eimID = config.eimID ∧ rowToken B (some row) = .ok config.associationToken := by
  obtain ⟨payload, hpayload, h⟩ := bind_eq_ok.mp h
  obtain rfl := Except.ok.inj h
  have hdecode := (EimConfigurationData.decode_encode hB hplain hpayload).1 hsequence
  exact ⟨rfl, bind_eq_ok.mpr ⟨config, hdecode, rfl⟩⟩

theorem Agrees.associate (h : Agrees B d r) {eimID : Bytes} {token : Int} (heim : row.eimID = eimID)
    (hrow : rowToken B (some row) = .ok (some token)) :
    Agrees B (d.setAssociationToken eimID token) (r.withEIM row.eimID (some row)) := by
  subst heim
  refine h.withEIM (fun iccid => ?_) (fun other hother => ?_) hrow fun hne => ?_
  · rw [setAssociationToken]
    split <;> rfl
  · by_cases hnil : row.eimID = []
    · rw [setAssociationToken, if_pos hnil]
    · rw [associationToken_set hnil, if_neg hother]
  · rw [associationToken_set hne, if_pos rfl]

theorem Agrees.dissociate (h : Agrees B d r) (eimID : Bytes) :
    Agrees B (d.clearAssociationToken eimID) (r.withEIM eimID none) := by
  have hrow : rowToken B none = .ok none := rfl
  refine h.withEIM (fun iccid => ?_) (fun other hother => ?_) hrow fun hne => ?_
  · rw [clearAssociationToken]
    split <;> rfl
  · by_cases hnil : eimID = []
    · rw [clearAssociationToken, if_pos hnil]
    · rw [associationToken_clear hnil, if_neg hother]
  · rw [associationToken_clear hne, if_pos rfl]

/-! ### Operations -/

theorem Agrees.addEIM (hB : B.Lawful) (h : Agrees B d r) {config : EimConfigurationData}
    (hplain : config.Plain) (hsequence : config.CarriesSequence) {result : Result}
    (hresult : result.addEIMAssociationToken = some (addedToken config))
    (hrow : associatedEIMFromConfig B eid (addedConfig config (some result)) = .ok row) :
    Agrees B (d.setAssociationToken config.eimID (addedToken config))
      (r.withEIM row.eimID (some row)) := by
  have hconfig : addedConfig config (some result) =
      { config with associationToken := some (addedToken config) } := by
    simp only [addedConfig, Option.bind_some, hresult]
  rw [hconfig] at hrow
  obtain ⟨heim, htoken⟩ := rowToken_of_config hB
    (Api.plain_withToken hplain (some (addedToken config))) hsequence hrow
  exact h.associate heim htoken

theorem Agrees.updateEIM (hB : B.Lawful) (h : Agrees B d r) {config : EimConfigurationData}
    (hplain : config.Plain) (hsequence : config.CarriesSequence)
    (hrow : updatedRow B eid config (r.eims config.eimID) = .ok row) :
    Agrees B (d.applyOperation (.eco [.updateEIM (some config)]))
      (r.withEIM row.eimID (some row)) := by
  rw [updatedRow] at hrow
  rw [applyOperation]
  cases htoken : config.associationToken with
  | some token =>
      rw [htoken] at hrow
      obtain ⟨heim, hread⟩ := rowToken_of_config hB hplain hsequence hrow
      exact h.associate heim (hread.trans (congrArg _ htoken))
  | none =>
      rw [htoken] at hrow
      obtain ⟨token, hold, hrow⟩ := bind_eq_ok.mp hrow
      obtain ⟨heim, hread⟩ := rowToken_of_config hB (Api.plain_withToken hplain token) hsequence hrow
      obtain ⟨token', hold', hself⟩ := h.tokens config.eimID
      obtain rfl := Except.ok.inj (hold.symm.trans hold')
      exact h.withEIM (fun _ => rfl) (fun _ _ => rfl) hread (heim ▸ hself)

/-- **Operations.**  The eUICC carries an operation out, and the eIM applies the result that reports
it: they agree again. -/
theorem Agrees.apply (hB : B.Lawful) (h : Agrees B d r) {pkg : EuiccPackage} {result : Result}
    (hexecutable : Executable pkg) (hreports : Reports d result pkg)
    (happlied : (r.withPSMO eid pkg (some result)).outcomeECO B eid pkg (some result) = .ok ()) :
    Agrees B (d.applyOperation pkg)
      ((r.withPSMO eid pkg (some result)).withECO B eid pkg (some result)) := by
  unfold Executable at hexecutable
  split at hexecutable
  next psmo =>
      cases psmo with
      | enable iccid rollback => exact h.enable eid iccid true
      | disable iccid => exact h.enable eid iccid false
      | delete iccid => exact h.delete iccid
      | setFallbackAttribute iccid => exact h.setFallback eid (hexecutable rfl)
      | unsetFallbackAttribute => exact h.clearFallback
      | listProfileInfo request =>
          exact ⟨h.tokens, fun iccid hne _ => sameProfiles_apply hreports iccid hne⟩
      | setDefaultDPAddress request =>
          refine h.congr ?_ ?_
          all_goals
            simp only [DeviceRecords.withPSMO, packagePSMO, psmoOperation]
            split <;> rfl
      | _ => exact h
  next eco =>
      cases eco with
      | addEIM config =>
          cases config with
          | none => exact h
          | some config =>
              obtain ⟨row, hrow, -⟩ := map_eq_ok.mp happlied
              have hadded := h.addEIM hB (hexecutable.1 config rfl) (hexecutable.2 config rfl) hreports
                hrow
              simp only [DeviceRecords.withECO, packageECO, hrow, DeviceRecords.withAssociation]
              exact hadded
      | deleteEIM eimID => exact h.dissociate eimID
      | updateEIM config =>
          cases config with
          | none => exact h
          | some config =>
              have hsame : r.withPSMO eid (.eco [.updateEIM (some config)]) (some result) = r := rfl
              rw [hsame] at happlied ⊢
              obtain ⟨row, hrow, -⟩ := map_eq_ok.mp happlied
              have hupdated := h.updateEIM hB (hexecutable.1 config rfl) (hexecutable.2 config rfl) hrow
              simp only [DeviceRecords.withECO, packageECO, hrow, DeviceRecords.withAssociation]
              exact hupdated
      | listEIM => exact h
  next => exact hexecutable.elim

end

end OpenIotRsp.MockIpa
