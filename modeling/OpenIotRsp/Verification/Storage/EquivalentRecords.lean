import OpenIotRsp.Verification.Storage.StoreSimulation

/-!
# Records of a device in the two stores

The methods of both stores for devices, profile states, eUICC states, associated
eIMs, configurations and notifications agree where the arguments are text, the
payloads are not nil and the sequence numbers are positive.
-/

namespace OpenIotRsp.Storage

open Octets Stateful Postgres

variable {s : Store} {d : Database} {tenantID : TenantID} {eid : Bytes}

/-! ## Devices -/

theorem equivalent_registerDevice (h : Simulates s d)
    (htexts : [normalizeTenantID tenantID, eid].all isText) :
    Equivalent (Storage.registerDevice tenantID eid) (Postgres.registerDevice tenantID eid) s d := by
  refine equivalent_parameters htexts ?_
  set key := newDeviceKey tenantID eid with hkey
  let rows := Table.upsert DeviceRow.key (fun old _ => old) (newDevice key) d.tables.devices
  have hvalid : ({ d.tables with devices := rows } : Tables).Valid := by
    refine valid_devices d.valid (Table.nodup_upsert (d.valid.unique .devices) ?_) ?_
    · exact fun _ hold => hold
    · exact fun key hkey => (Table.mem_map_upsert fun _ hold => hold).mpr (.inl hkey)
  have heids : ∀ key' ∈ rows.map DeviceRow.key, isText key'.eid := by
    intro key' hkey'
    rcases (Table.mem_map_upsert fun _ hold => hold).mp hkey' with hold | rfl
    · exact h.eids key' hold
    · exact List.all_eq_true.mp htexts eid (by simp)
  suffices hdevices : ∃ devices, Table.Holds deviceEntry rows devices ∧
      Storage.registerDevice tenantID eid s = (.ok (), { s with devices := devices }) by
    obtain ⟨devices, hdevices, hrun⟩ := hdevices
    exact matches_of_ok hrun (statement_of_valid hvalid)
      { h with devices := hdevices, eids := heids }
  cases hlookup : s.devices.lookup key with
  | some device =>
      refine ⟨s.devices, ?_, ?_⟩
      · obtain ⟨row, hrow, hrowKey⟩ := List.mem_map.mp (h.lookup_eq_some hlookup)
        rw [show rows = d.tables.devices from Table.upsert_keep ⟨row, hrow, hrowKey⟩]
        exact h.devices
      · rw [Storage.registerDevice, get_bind, ← hkey, hlookup]
        rfl
  | none =>
      refine ⟨s.devices.insert key ⟨1, 1⟩, ?_, ?_⟩
      · exact h.devices.upsert rfl fun old hold hold' =>
          absurd hold' (h.devices.lookup_eq_none.mp hlookup old hold)
      · rw [Storage.registerDevice, get_bind, ← hkey, hlookup]
        rfl

/-- Changing the row of a device. -/
theorem Simulates.updateDevice (h : Simulates s d) {key : DeviceKey} {row : DeviceRow}
    (hrow : row ∈ d.tables.devices) (hkey : row.key = key) {f : DeviceRow → DeviceRow}
    (hf : ∀ row, (f row).key = row.key) :
    ∃ hvalid : ({ d.tables with
        devices := Table.update (fun row => row.key = key) f d.tables.devices } : Tables).Valid,
      Simulates { s with devices := s.devices.insert key (deviceEntry (f row)).2 }
        { d with
          tables := { d.tables with
            devices := Table.update (fun row => row.key = key) f d.tables.devices }
          valid := hvalid } := by
  have hkeys : (Table.update (fun row => row.key = key) f d.tables.devices).map DeviceRow.key =
      d.tables.devices.map DeviceRow.key := Table.map_update _ fun row _ _ => hf row
  have hdevices : Table.Holds deviceEntry
      (Table.update (fun row => row.key = key) f d.tables.devices)
      (s.devices.insert key (deviceEntry (f row)).2) := by
    refine h.devices.update (fun row _ => decide_eq_true_iff) ⟨row, hrow, hkey⟩ ?_
    intro row' hrow' hkey'
    have hunique : (d.tables.devices.map DeviceRow.key).Nodup := d.valid.unique .devices
    obtain rfl := Table.eq_of_key hunique hrow' hrow (hkey'.trans hkey.symm)
    exact Sigma.ext ((hf row').trans hkey) HEq.rfl
  refine ⟨valid_devices d.valid ?_ ?_, { h with devices := hdevices, eids := hkeys ▸ h.eids }⟩
  · rw [hkeys]
    exact d.valid.unique .devices
  · rw [hkeys]
    exact fun _ hold => hold

theorem equivalent_nextEUICCPackageCounter (h : Simulates s d)
    (htexts : [normalizeTenantID tenantID, eid].all isText) :
    Equivalent (Storage.nextEUICCPackageCounter tenantID eid)
      (Postgres.nextEUICCPackageCounter tenantID eid) s d := by
  refine equivalent_parameters htexts (equivalent_find h h.devices ?_)
  intro row device hrow hlookup hentry
  have hkey : row.key = newDeviceKey tenantID eid := congrArg Sigma.fst hentry
  obtain rfl : (deviceEntry row).2 = device := eq_of_heq (Sigma.mk.inj hentry).2
  obtain ⟨hvalid, hsimulates⟩ := h.updateDevice hrow hkey
    (f := fun row => { row with
      nextEUICCPackageCounter := row.nextEUICCPackageCounter + 1
      counter_pos := Int.lt_add_one_of_le row.counter_pos.le }) fun _ => rfl
  exact matches_of_ok rfl (bind_of_ok (statement_of_valid hvalid)) hsimulates

/-! ## Profile states -/

theorem equivalent_getProfileState (h : Simulates s d) {iccid : Bytes}
    (htexts : [normalizeTenantID tenantID, eid, iccid].all isText) :
    Equivalent (Storage.getProfileState tenantID eid iccid)
      (Postgres.getProfileState tenantID eid iccid) s d := by
  refine equivalent_parameters htexts (equivalent_find h h.profileStates ?_)
  intro row state _ _ hentry
  have hstate : row.state = state.val :=
    congrArg (fun e : Sigma StoredProfile => e.2.val) hentry
  rw [hstate]
  exact matches_pure h _

/-- What a conflict writes to the row of a profile state. -/
def setProfileRow (old excluded : ProfileStateRow) : ProfileStateRow :=
  { old with state := { old.state with
    isEnabled := excluded.state.isEnabled
    isFallback := excluded.state.isFallback
    smdpAddress := excluded.state.smdpAddress } }

theorem setProfileRow_eq {old new : ProfileStateRow} (hkey : old.key = new.key) :
    setProfileRow old new = new := by
  obtain ⟨htenant, heid, hiccid⟩ := ProfileStateKey.mk.inj hkey
  simp [setProfileRow, htenant, heid, hiccid]

theorem device_of_profileKey {row : ProfileStateRow} {tenant : TenantID} {eid iccid : Bytes}
    (hkey : row.key = ⟨tenant, eid, iccid⟩) : row.device = ⟨tenant, eid⟩ := by
  obtain ⟨htenant, heid, -⟩ := ProfileStateKey.mk.inj hkey
  exact congrArg₂ DeviceKey.mk htenant heid

theorem equivalent_setProfileState (h : Simulates s d) {state : ProfileState}
    (htexts : [normalizeTenantID tenantID, state.eid, state.iccid, state.smdpAddress].all isText) :
    Equivalent (Storage.setProfileState tenantID state) (Postgres.setProfileState tenantID state)
      s d := by
  set new : ProfileStateRow := ⟨normalizeTenantID tenantID, state⟩
  have hset : ∀ old : ProfileStateRow, old.key = new.key → (setProfileRow old new).key = new.key :=
    fun old hkey => by rw [setProfileRow_eq hkey]
  have hrun : Postgres.setProfileState tenantID state d = referenced (statement fun t => { t with
      profileState := Table.upsert ProfileStateRow.key setProfileRow new t.profileState }) d :=
    referenced_congr (by rw [parameters_of_text htexts, pure_bind]; rfl)
  refine (equivalent_upsert ProfileStateRow.device .profileState h
    (d.valid.references .profileState) hset (fun _ hkey => device_of_profileKey hkey)
    (unique_profileState d.valid (Table.nodup_upsert (d.valid.unique .profileState) hset))
    (references_profileState d.valid) id fun hvalid => ?_).congr rfl hrun
  refine { h with profileStates := h.profileStates.upsert ?_ fun old _ hkey => ?_ }
  · rfl
  · have hold : setProfileRow old new = new := setProfileRow_eq hkey
    rw [hold]
    rfl

theorem equivalent_deleteProfileState (h : Simulates s d) {iccid : Bytes}
    (htexts : [normalizeTenantID tenantID, eid, iccid].all isText) :
    Equivalent (Storage.deleteProfileState tenantID eid iccid)
      (Postgres.deleteProfileState tenantID eid iccid) s d := by
  have hunique : (d.tables.profileState.map ProfileStateRow.key).Nodup :=
    d.valid.unique .profileState
  refine equivalent_parameters htexts (equivalent_delete h h.profileStates ?_ ?_ ?_)
  · intro row hrow hkey
    have hthere : row.device ∈ d.tables.devices.map DeviceRow.key :=
      d.valid.references .profileState row hrow
    rw [device_of_profileKey hkey] at hthere
    exact hthere
  · refine ⟨unique_profileState d.valid (hunique.sublist (List.filter_sublist.map _)),
      references_profileState d.valid fun row hrow => ?_⟩
    exact d.valid.references .profileState row (List.mem_of_mem_filter hrow)
  · refine { h with profileStates := h.profileStates.delete fun row _ => ?_ }
    exact decide_eq_true_iff

/-- The rows of one device, in the order of their keys. -/
theorem equivalent_listProfileStates (h : Simulates s d) {collation : Bytes → Bytes → Bool}
    (htexts : [normalizeTenantID tenantID, eid].all isText)
    (hcollation : ∀ a ∈ s.profilesOf (newDeviceKey tenantID eid),
      ∀ b ∈ s.profilesOf (newDeviceKey tenantID eid), (collation a.iccid b.iccid ↔ a.iccid ≤ b.iccid)) :
    Equivalent (Storage.listProfileStates tenantID eid)
      (Postgres.listProfileStates collation tenantID eid) s d := by
  have hunique : (d.tables.profileState.map ProfileStateRow.key).Nodup :=
    d.valid.unique .profileState
  refine equivalent_parameters htexts (equivalent_select h h.profileStates hunique
    ProfileStateRow.device (d.valid.references .profileState) (fun row _ => ?_)
    (fun e => e.2.val) ProfileState.iccid (Table.nodup_select hunique ?_) hcollation)
  · exact decide_eq_decide.mpr deviceKey_eq_iff
  · intro a _ b _ ha hb hiccid
    have hdevice : a.device = b.device := (of_decide_eq_true ha).trans (of_decide_eq_true hb).symm
    obtain ⟨htenant, heid⟩ := DeviceKey.mk.inj hdevice
    exact ProfileStateKey.mk.injEq .. ▸ ⟨htenant, heid, hiccid⟩

/-! ## eUICC states -/

theorem equivalent_getEUICCState (h : Simulates s d)
    (htexts : [normalizeTenantID tenantID, eid].all isText) :
    Equivalent (Storage.getEUICCState tenantID eid) (Postgres.getEUICCState tenantID eid) s d := by
  rw [Storage.getEUICCState, ← bind_pure (require _)]
  refine equivalent_parameters htexts (equivalent_find h h.euiccStates ?_)
  intro row state _ _ hentry
  obtain rfl : row.state = state := eq_of_heq (Sigma.mk.inj hentry).2
  exact matches_pure h _

/-- Identifiers that are text are stored as they are. -/
theorem jsonParameter_of_text {strings : List Bytes} (h : strings.all isText) :
    jsonParameter strings = pure strings := by
  have htext : ∀ string ∈ strings, Text.toValidUTF8 string = string ∧ (0x00 : UInt8) ∉ string := by
    intro string hstring
    have hvalid := List.all_eq_true.mp h string hstring
    obtain ⟨hutf8, hnul⟩ := of_decide_eq_true hvalid
    exact ⟨of_decide_eq_true hutf8, hnul⟩
  rw [jsonParameter, if_pos, List.map_congr_left fun string hstring => (htext string hstring).1,
    List.map_id']
  exact List.all_eq_true.mpr fun string hstring => decide_eq_true (htext string hstring).2

/-- What a conflict writes to the row of an eUICC state. -/
def setEUICCRow (old excluded : EUICCStateRow) : EUICCStateRow :=
  { old with state := { excluded.state with eid := old.state.eid } }

theorem setEUICCRow_eq {old new : EUICCStateRow} (hkey : old.key = new.key) :
    setEUICCRow old new = new := by
  obtain ⟨htenant, heid⟩ := DeviceKey.mk.inj hkey
  simp [setEUICCRow, htenant, heid]

theorem equivalent_setEUICCState (h : Simulates s d) {state : EUICCState}
    (htexts : [normalizeTenantID tenantID, state.eid, state.defaultSMDPAddress,
      state.rootSMDSAddress].all isText)
    (hidentifiers : state.certificateIdentifiers.all isText) :
    Equivalent (Storage.setEUICCState tenantID state) (Postgres.setEUICCState tenantID state)
      s d := by
  set new : EUICCStateRow := ⟨normalizeTenantID tenantID, state⟩
  have hset : ∀ old : EUICCStateRow, old.key = new.key → (setEUICCRow old new).key = new.key :=
    fun old hkey => by rw [setEUICCRow_eq hkey]
  have hrun : Postgres.setEUICCState tenantID state d = referenced (statement fun t => { t with
      euiccState := Table.upsert EUICCStateRow.key setEUICCRow new t.euiccState }) d := by
    refine referenced_congr ?_
    rw [parameters_of_text htexts, pure_bind, jsonParameter_of_text hidentifiers, pure_bind]
    rfl
  refine (equivalent_upsert EUICCStateRow.key .euiccState h (d.valid.references .euiccState) hset
    (fun _ hkey => hkey)
    (unique_euiccState d.valid (Table.nodup_upsert (d.valid.unique .euiccState) hset))
    (references_euiccState d.valid) id fun hvalid => ?_).congr rfl hrun
  refine { h with euiccStates := h.euiccStates.upsert ?_ fun old _ hkey => ?_ }
  · rfl
  · have hold : setEUICCRow old new = new := setEUICCRow_eq hkey
    rw [hold]
    rfl

/-! ## Configurations and associated eIMs -/

/-- What a conflict writes to the row of a configuration. -/
def setConfigRow (old excluded : EIMConfigRow) : EIMConfigRow :=
  { old with config := { old.config with data := excluded.config.data } }

theorem setConfigRow_eq {old new : EIMConfigRow} (hkey : old.key = new.key) :
    setConfigRow old new = new := by
  obtain ⟨htenant, heimID⟩ := ConfigKey.mk.inj hkey
  simp [setConfigRow, htenant, heimID]

theorem equivalent_storeEIMConfig (h : Simulates s d) {eimID data : Bytes}
    (htexts : [normalizeTenantID tenantID, eimID].all isText) :
    Equivalent (Storage.storeEIMConfig tenantID ⟨eimID, data⟩)
      (Postgres.storeEIMConfig tenantID eimID (some data)) s d := by
  set new : EIMConfigRow := ⟨normalizeTenantID tenantID, eimID, data⟩
  have hset : ∀ old : EIMConfigRow, old.key = new.key → (setConfigRow old new).key = new.key :=
    fun old hkey => by rw [setConfigRow_eq hkey]
  have hvalid := valid_eimConfig d.valid
    (Table.nodup_upsert (d.valid.unique .eimConfig) hset)
  have hconfigs : Table.Holds configEntry
      (Table.upsert EIMConfigRow.key setConfigRow new d.tables.eimConfig)
      (s.eimConfigs.insert new.key new.config) := by
    refine h.eimConfigs.upsert ?_ fun old _ hkey => ?_
    · rfl
    · exact congrArg configEntry (setConfigRow_eq hkey)
  exact equivalent_parameters htexts
    (matches_of_ok rfl (statement_of_valid hvalid) { h with eimConfigs := hconfigs })

theorem equivalent_readEIMConfig (h : Simulates s d) {eimID : Bytes}
    (htexts : [normalizeTenantID tenantID, eimID].all isText) :
    Equivalent (Storage.readEIMConfig tenantID eimID) (Postgres.readEIMConfig tenantID eimID)
      s d := by
  rw [Storage.readEIMConfig, ← bind_pure (require _)]
  refine equivalent_parameters htexts (equivalent_find h h.eimConfigs ?_)
  intro row config _ _ hentry
  obtain rfl : row.config = config := eq_of_heq (Sigma.mk.inj hentry).2
  exact matches_pure h _

/-- What a conflict writes to the row of an associated eIM. -/
def setAssociatedRow (old excluded : AssociatedEIMRow) : AssociatedEIMRow :=
  { old with associated := { old.associated with
    eimIDType := excluded.associated.eimIDType
    configPayload := excluded.associated.configPayload } }

theorem setAssociatedRow_eq {old new : AssociatedEIMRow} (hkey : old.key = new.key) :
    setAssociatedRow old new = new := by
  obtain ⟨htenant, heid, heimID⟩ := AssociatedEIMKey.mk.inj hkey
  simp [setAssociatedRow, htenant, heid, heimID]

theorem device_of_associatedKey {row : AssociatedEIMRow} {tenant : TenantID} {eid eimID : Bytes}
    (hkey : row.key = ⟨tenant, eid, eimID⟩) : row.device = ⟨tenant, eid⟩ := by
  obtain ⟨htenant, heid, -⟩ := AssociatedEIMKey.mk.inj hkey
  exact congrArg₂ DeviceKey.mk htenant heid

theorem equivalent_setAssociatedEIM (h : Simulates s d) {eimID payload : Bytes}
    {eimIDType : Option Int} (htexts : [normalizeTenantID tenantID, eid, eimID].all isText) :
    Equivalent (Storage.setAssociatedEIM tenantID ⟨eid, eimID, eimIDType, payload⟩)
      (Postgres.setAssociatedEIM tenantID eid eimID eimIDType (some payload)) s d := by
  set new : AssociatedEIMRow := ⟨normalizeTenantID tenantID, eid, eimID, eimIDType, payload⟩
  have hset : ∀ old : AssociatedEIMRow, old.key = new.key →
      (setAssociatedRow old new).key = new.key :=
    fun old hkey => by rw [setAssociatedRow_eq hkey]
  have hrun : Postgres.setAssociatedEIM tenantID eid eimID eimIDType (some payload) d =
      referenced (statement fun t => { t with
        associatedEIM := Table.upsert AssociatedEIMRow.key setAssociatedRow new
          t.associatedEIM }) d :=
    referenced_congr (by rw [parameters_of_text htexts, pure_bind]; rfl)
  refine (equivalent_upsert AssociatedEIMRow.device .associatedEIM h
    (d.valid.references .associatedEIM) hset (fun _ hkey => device_of_associatedKey hkey)
    (unique_associatedEIM d.valid (Table.nodup_upsert (d.valid.unique .associatedEIM) hset))
    (references_associatedEIM d.valid) id fun hvalid => ?_).congr rfl hrun
  refine { h with associatedEIMs := h.associatedEIMs.upsert ?_ fun old _ hkey => ?_ }
  · rfl
  · have hold : setAssociatedRow old new = new := setAssociatedRow_eq hkey
    rw [hold]
    rfl

theorem equivalent_deleteAssociatedEIM (h : Simulates s d) {eimID : Bytes}
    (htexts : [normalizeTenantID tenantID, eid, eimID].all isText) :
    Equivalent (Storage.deleteAssociatedEIM tenantID eid eimID)
      (Postgres.deleteAssociatedEIM tenantID eid eimID) s d := by
  have hunique : (d.tables.associatedEIM.map AssociatedEIMRow.key).Nodup :=
    d.valid.unique .associatedEIM
  refine equivalent_parameters htexts (equivalent_delete h h.associatedEIMs ?_ ?_ ?_)
  · intro row hrow hkey
    have hthere : row.device ∈ d.tables.devices.map DeviceRow.key :=
      d.valid.references .associatedEIM row hrow
    rw [device_of_associatedKey hkey] at hthere
    exact hthere
  · refine ⟨unique_associatedEIM d.valid (hunique.sublist (List.filter_sublist.map _)),
      references_associatedEIM d.valid fun row hrow => ?_⟩
    exact d.valid.references .associatedEIM row (List.mem_of_mem_filter hrow)
  · refine { h with associatedEIMs := h.associatedEIMs.delete fun row _ => ?_ }
    exact decide_eq_true_iff

theorem equivalent_getAssociatedEIM (h : Simulates s d) {eimID : Bytes}
    (htexts : [normalizeTenantID tenantID, eid, eimID].all isText) :
    Equivalent (Storage.getAssociatedEIM tenantID eid eimID)
      (Postgres.getAssociatedEIM tenantID eid eimID) s d := by
  rw [Storage.getAssociatedEIM, ← bind_pure (require _)]
  refine equivalent_parameters htexts (equivalent_find h h.associatedEIMs ?_)
  intro row associated _ _ hentry
  obtain rfl : row.associated = associated := eq_of_heq (Sigma.mk.inj hentry).2
  exact matches_pure h _

theorem equivalent_listAssociatedEIMs (h : Simulates s d) {collation : Bytes → Bytes → Bool}
    (htexts : [normalizeTenantID tenantID, eid].all isText)
    (hcollation : ∀ a ∈ s.associatedEIMsOf (newDeviceKey tenantID eid),
      ∀ b ∈ s.associatedEIMsOf (newDeviceKey tenantID eid),
        (collation a.eimID b.eimID ↔ a.eimID ≤ b.eimID)) :
    Equivalent (Storage.listAssociatedEIMs tenantID eid)
      (Postgres.listAssociatedEIMs collation tenantID eid) s d := by
  have hunique : (d.tables.associatedEIM.map AssociatedEIMRow.key).Nodup :=
    d.valid.unique .associatedEIM
  refine equivalent_parameters htexts (equivalent_select h h.associatedEIMs hunique
    AssociatedEIMRow.device (d.valid.references .associatedEIM) (fun row _ => ?_)
    Sigma.snd AssociatedEIM.eimID (Table.nodup_select hunique ?_) hcollation)
  · exact decide_eq_decide.mpr deviceKey_eq_iff
  · intro a _ b _ ha hb heimID
    have hdevice : a.device = b.device := (of_decide_eq_true ha).trans (of_decide_eq_true hb).symm
    obtain ⟨htenant, heid⟩ := DeviceKey.mk.inj hdevice
    exact AssociatedEIMKey.mk.injEq .. ▸ ⟨htenant, heid, heimID⟩

/-! ## Notifications -/

/-- A number drawn for a serial column. -/
theorem Simulates.drawNotificationsID (h : Simulates s d) :
    Simulates s { d with notificationsID := d.notificationsID + 1 } :=
  { h with notificationsID := fun row hrow => Int.le_add_one (h.notificationsID row hrow) }

/-- What a conflict writes to the row of a notification. -/
def setNotificationRow (old excluded : NotificationRow) : NotificationRow :=
  ⟨old.id, old.tenantID,
    { old.notification with
      kind := excluded.notification.kind
      payload := excluded.notification.payload },
    old.sequence_pos⟩

theorem setNotificationRow_entry {old new : NotificationRow} (hkey : old.key = new.key) :
    notificationEntry (setNotificationRow old new) = notificationEntry new := by
  obtain ⟨id, tenant, ⟨eid, sequenceNumber, kind, payload⟩, hpos⟩ := new
  obtain ⟨rfl, rfl, rfl⟩ := NotificationKey.mk.inj hkey
  rfl

theorem equivalent_storeNotification (h : Simulates s d) {sequenceNumber : Int}
    {kind payload : Bytes} (htexts : [normalizeTenantID tenantID, eid, kind].all isText)
    (hsequence : 0 < sequenceNumber) :
    Equivalent (Storage.storeNotification tenantID ⟨eid, sequenceNumber, kind, payload⟩)
      (Postgres.storeNotification tenantID eid sequenceNumber kind (some payload)) s d := by
  set new : NotificationRow := ⟨d.notificationsID + 1, normalizeTenantID tenantID,
    ⟨eid, sequenceNumber, kind, payload⟩, hsequence⟩
  have hmemory : Storage.storeNotification tenantID ⟨eid, sequenceNumber, kind, payload⟩ s = (do
      let _ ← require fun s => s.devices.lookup new.device
      modify fun s => { s with
        notifications := s.notifications.insert new.key new.notification }) s := by
    rw [Storage.storeNotification, if_neg (not_le.mpr hsequence)]
    rfl
  have hrun : Postgres.storeNotification tenantID eid sequenceNumber kind (some payload) d =
      referenced (statement fun t => { t with
        notifications := Table.upsert NotificationRow.key setNotificationRow new t.notifications })
        { d with notificationsID := d.notificationsID + 1 } := by
    refine referenced_congr ?_
    rw [parameters_of_text htexts, pure_bind]
    change (if hpos : 0 < sequenceNumber then _ else _ : PgM Unit) _ = _
    rw [dif_pos hsequence]
    rfl
  have hnew : new.id ∉ d.tables.notifications.map NotificationRow.id := by
    intro hmem
    obtain ⟨row, hrow, hid⟩ := List.mem_map.mp hmem
    exact absurd (h.notificationsID row hrow) (by rw [hid]; exact not_le.mpr (Int.lt_succ _))
  have hset : ∀ old : NotificationRow, old.key = new.key →
      (setNotificationRow old new).key = new.key := fun _ hkey => hkey
  refine (equivalent_upsert NotificationRow.device .notifications h.drawNotificationsID
    (d.valid.references .notifications) hset (fun row hkey => ?_)
    (unique_notifications d.valid ?_
      (Table.nodup_upsert (d.valid.unique .notificationsSequence) hset))
    (references_notifications d.valid) id fun hvalid => ?_).congr hmemory hrun
  · obtain ⟨htenant, heid, -⟩ := NotificationKey.mk.inj hkey
    exact congrArg₂ DeviceKey.mk htenant heid
  · exact Table.nodup_map_upsert (d.valid.unique .notificationsID) (fun _ _ _ => rfl)
      fun _ => hnew
  · refine { h.drawNotificationsID with
      notifications := h.notifications.upsert rfl fun old _ hkey => setNotificationRow_entry hkey
      notificationsID := Table.forall_mem_upsert h.drawNotificationsID.notificationsID
        (fun old hold _ => h.drawNotificationsID.notificationsID old hold) le_rfl }

theorem equivalent_listNotifications (h : Simulates s d)
    (htexts : [normalizeTenantID tenantID, eid].all isText) :
    Equivalent (Storage.listNotifications tenantID eid) (Postgres.listNotifications tenantID eid)
      s d := by
  have hunique : (d.tables.notifications.map NotificationRow.key).Nodup :=
    d.valid.unique .notificationsSequence
  refine equivalent_parameters htexts (equivalent_select h h.notifications hunique
    NotificationRow.device (d.valid.references .notifications) (fun row _ => ?_)
    Sigma.snd Notification.sequenceNumber (Table.nodup_select hunique ?_) fun _ _ _ _ => Iff.rfl)
  · exact decide_eq_decide.mpr deviceKey_eq_iff
  · intro a _ b _ ha hb hsequence
    have hdevice : a.device = b.device := (of_decide_eq_true ha).trans (of_decide_eq_true hb).symm
    obtain ⟨htenant, heid⟩ := DeviceKey.mk.inj hdevice
    exact NotificationKey.mk.injEq .. ▸ ⟨htenant, heid, hsequence⟩

end OpenIotRsp.Storage
