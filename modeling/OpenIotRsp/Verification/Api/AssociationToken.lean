import OpenIotRsp.Library.Run
import OpenIotRsp.Verification.Api.Deliverable
import OpenIotRsp.Verification.Storage.DeviceEffect

/-!
# Association tokens

The token of an associated eIM is kept inside its encoded configuration, which
is written again with every operation on the eIM.  Reading it back gives the
token that was established last, as long as the X.509 object of each
configuration is a SEQUENCE.
-/

namespace OpenIotRsp.Asn1

open Octets Ber Euiccpkg

variable {B : Bertlv}

/-- A configuration that was written is read back exactly if its X.509 object is a SEQUENCE. -/
theorem EimConfigurationData.decode_encode (hB : B.Lawful) {config : EimConfigurationData}
    (hplain : config.Plain) {payload : Bytes}
    (h : Asn1.encode B (config.marshalBERTLV B) = .ok payload) :
    (config.CarriesSequence →
      Asn1.decode B (EimConfigurationData.unmarshalBERTLV B) payload = .ok config) ∧
    (¬ config.CarriesSequence → ∀ read,
      Asn1.decode B (EimConfigurationData.unmarshalBERTLV B) payload ≠ .ok read) := by
  obtain ⟨t, ht, hw⟩ := encode_eq_ok.mp h
  obtain ⟨cs, hcs, hcons⟩ := Outcome.bind_eq_ok.mp ht
  obtain ⟨F, rfl⟩ := exists_fields hB hplain hcs
  obtain rfl : .constructed tagSequence F.children = t := Except.ok.inj hcons
  have hwf : (Tlv.constructed tagSequence F.children).WellFormed :=
    ⟨by decide, by decide, F.wellFormed_children⟩
  have hdecode : Asn1.decode B (EimConfigurationData.unmarshalBERTLV B) payload =
      EimConfigurationData.unmarshalBERTLV B (.constructed tagSequence F.children) := by
    rw [Asn1.decode, parseTLV_marshalBinary hB hwf hw]
    rfl
  rw [F.unmarshalBERTLV_children hplain] at hdecode
  obtain ⟨hkey, hnokey⟩ := config.publicKey_written (contextConstructed 5)
  refine ⟨fun hseq => ?_, fun hseq read hok => ?_⟩
  · rw [hdecode, hkey hseq]
    rfl
  · rw [hdecode] at hok
    obtain ⟨key, hok, -⟩ := Outcome.bind_eq_ok.mp hok
    exact hnokey hseq key hok

end OpenIotRsp.Asn1

namespace OpenIotRsp.Api

open Octets Ber Stateful Asn1 Storage Euiccpkg Text

variable {B : Bertlv} {S : Service}

/-! ## Configurations that the API accepts -/

/-- The configurations of requests, and those read back from a stored one, with a token laid over
them. -/
inductive Accepted (B : Bertlv) (S : Service) : EimConfigurationData → Prop
  | request {r : EimConfigRequest} {pathEIMID : Bytes} {config : EimConfigurationData}
      (h : r.config B S pathEIMID = .ok config) : Accepted B S config
  | stored {config read : EimConfigurationData} {payload : Bytes} (h : Accepted B S config)
      (hwrite : Asn1.encode B (config.marshalBERTLV B) = .ok payload)
      (hread : Asn1.decode B (EimConfigurationData.unmarshalBERTLV B) payload = .ok read) :
      Accepted B S read
  | overlay {config : EimConfigurationData} (h : Accepted B S config) (token : Option Int) :
      Accepted B S (overlayInitialAssociationToken config token)

theorem plain_withToken {config : EimConfigurationData} (h : config.Plain) (token : Option Int) :
    { config with associationToken := token }.Plain :=
  ⟨h.trusted, h.protocol, h.proprietary, h.wellFormed⟩

theorem Accepted.plain (hB : B.Lawful) {config : EimConfigurationData} (h : Accepted B S config) :
    config.Plain := by
  induction h with
  | request h => exact (EimConfigRequest.config_eq_ok hB h).1
  | @stored config read payload _ hwrite hread ih =>
      obtain ⟨hsame, hunread⟩ := EimConfigurationData.decode_encode hB ih hwrite
      by_cases hseq : config.CarriesSequence
      · obtain rfl := Except.ok.inj (hread.symm.trans (hsame hseq))
        exact ih
      · exact absurd hread (hunread hseq read)
  | overlay _ token ih => exact plain_withToken ih _

/-! ## Operations on associated eIMs -/

/-- What changes the associated eIMs: results of applied operations, and initial associations. -/
inductive AssociationEvent where
  | addEIM (tenantID : TenantID) (eid : Bytes) (config : EimConfigurationData)
      (result : Option Result)
  | updateEIM (tenantID : TenantID) (eid : Bytes) (config : EimConfigurationData)
      (result : Option Result)
  | deleteEIM (tenantID : TenantID) (eid eimID : Bytes) (result : Option Result)
  | initial (tenantID : TenantID) (eid : Bytes) (config : EimConfigurationData)

namespace AssociationEvent

def run (B : Bertlv) : AssociationEvent → StoreM Unit
  | addEIM tenantID eid config result =>
      applyPackageResultState B tenantID eid (Euiccpkg.addEIM config) result
  | updateEIM tenantID eid config result =>
      applyPackageResultState B tenantID eid (Euiccpkg.updateEIM config) result
  | deleteEIM tenantID eid eimID result =>
      applyPackageResultState B tenantID eid (Euiccpkg.deleteEIM eimID) result
  | initial tenantID eid config => Euiccpkg.recordInitialEIMAssociation B tenantID eid config

def step (B : Bertlv) (s : Store) (event : AssociationEvent) : Store := (event.run B s).2

/-- The event is applied without an error. -/
def Applied (B : Bertlv) (s : Store) (event : AssociationEvent) : Prop :=
  (event.run B s).1 = .ok ()

instance (B : Bertlv) (s : Store) (event : AssociationEvent) : Decidable (event.Applied B s) :=
  inferInstanceAs (Decidable (_ = _))

/-- The configuration of the event. -/
def config? : AssociationEvent → Option EimConfigurationData
  | addEIM _ _ config _ => some config
  | updateEIM _ _ config _ => some config
  | deleteEIM .. => none
  | initial _ _ config => some config

/-- The tokens of the eIMs after the event, from those before it. -/
def establish (tokens : DeviceKey × Bytes → Option Int) :
    AssociationEvent → DeviceKey × Bytes → Option Int
  | addEIM tenantID eid config result =>
      Function.update tokens (newDeviceKey tenantID eid, config.eimID)
        ((result.bind Result.addEIMAssociationToken).or config.associationToken)
  | updateEIM tenantID eid config _ =>
      Function.update tokens (newDeviceKey tenantID eid, config.eimID)
        (config.associationToken.or (tokens (newDeviceKey tenantID eid, config.eimID)))
  | deleteEIM tenantID eid eimID _ =>
      Function.update tokens (newDeviceKey tenantID eid, eimID) none
  | initial tenantID eid config =>
      Function.update tokens (newDeviceKey tenantID eid, config.eimID) config.associationToken

end AssociationEvent

/-! ## What an applied event writes -/

/-- The row of an eIM of a device. -/
def eimRow (s : Store) (x : DeviceKey × Bytes) : Option AssociatedEIM := (s.records x.1).eims x.2

section

variable {tenantID : TenantID} {eid : Bytes} {s s' : Store}

/-- A change of one row of the device. -/
theorem eimRow_of_changes {m : StoreM Unit} {eimID : Bytes} {row : Option AssociatedEIM}
    (hm : ChangesDevice tenantID eid m (·.withEIM eimID row))
    (hframe : ∀ {γ : Type} {f : Store → γ}, IgnoresState f tenantID eid → Keeps f m)
    (hs : s.Knows (newDeviceKey tenantID eid)) :
    eimRow (m s).2 = Function.update (eimRow s) (newDeviceKey tenantID eid, eimID) row := by
  funext ⟨key, eimID'⟩
  rw [eimRow]
  by_cases hkey : key = newDeviceKey tenantID eid
  · subst hkey
    rw [(hm s hs).2.2]
    by_cases heimID : eimID' = eimID
    · subst heimID
      simp [DeviceRecords.withEIM]
    · simp [DeviceRecords.withEIM, heimID, eimRow]
  · rw [hframe (ignoresState_records hkey) s, Function.update_of_ne (by simp [hkey]), eimRow]

/-- The row of a configuration that has been stored. -/
theorem setAssociatedConfig_eq_ok {config : EimConfigurationData}
    (h : setAssociatedConfig B tenantID eid config s = (.ok (), s')) :
    ∃ payload, Asn1.encode B (config.marshalBERTLV B) = .ok payload ∧
      s.Knows (newDeviceKey tenantID eid) ∧ s'.Knows (newDeviceKey tenantID eid) ∧
      eimRow s' = Function.update (eimRow s) (newDeviceKey tenantID eid, config.eimID)
        (some ⟨eid, config.eimID, config.eimIDType, payload⟩) := by
  obtain ⟨associated, hassociated, hset⟩ := (readOnly_ofExcept _).bind_eq_ok h
  obtain ⟨payload, hpayload, heq⟩ := Outcome.bind_eq_ok.mp hassociated
  obtain rfl : (⟨eid, config.eimID, config.eimIDType, payload⟩ : AssociatedEIM) = associated :=
    Except.ok.inj heq
  have hknows : s.Knows (newDeviceKey tenantID eid) := knows_of_requireDevice hset
  have hs' : (setAssociatedEIM tenantID ⟨eid, config.eimID, config.eimIDType, payload⟩ s).2 = s' :=
    congrArg Prod.snd hset
  have hchanges : ChangesDevice tenantID eid
      (setAssociatedEIM tenantID ⟨eid, config.eimID, config.eimIDType, payload⟩)
      (·.withEIM config.eimID (some ⟨eid, config.eimID, config.eimIDType, payload⟩)) :=
    changes_setAssociatedEIM rfl
  refine ⟨payload, hpayload, hknows, ?_, ?_⟩
  · exact hs' ▸ (hchanges s hknows).2.1
  · rw [← hs']
    exact eimRow_of_changes hchanges (fun hf => hf.setEIM _ rfl) hknows

end

/-! ## Tokens that are kept track of -/

/-- The stored rows give the tokens, and belong to registered devices. -/
structure Tracks (B : Bertlv) (s : Store) (tokens : DeviceKey × Bytes → Option Int) : Prop where
  token : ∀ x, rowToken B (eimRow s x) = .ok (tokens x)
  known : ∀ x row, eimRow s x = some row → s.Knows x.1

namespace Tracks

variable {tenantID : TenantID} {eid : Bytes} {s s' : Store} {tokens : DeviceKey × Bytes → Option Int}
  {config : EimConfigurationData}

/-- One row is replaced, and the devices stay. -/
theorem update (h : Tracks B s tokens) {x : DeviceKey × Bytes} {row : Option AssociatedEIM}
    {token : Option Int} (hrows : eimRow s' = Function.update (eimRow s) x row)
    (hdevices : s'.devices = s.devices) (hknown : row.isSome → s.Knows x.1)
    (htoken : rowToken B row = .ok token) : Tracks B s' (Function.update tokens x token) := by
  refine ⟨fun y => ?_, fun y row' hrow => ?_⟩
  · by_cases hy : y = x
    · subst hy
      rw [hrows, Function.update_self, Function.update_self, htoken]
    · rw [hrows, Function.update_of_ne hy, Function.update_of_ne hy]
      exact h.token y
  · rw [Store.Knows, hdevices]
    rw [hrows] at hrow
    by_cases hy : y = x
    · subst hy
      rw [Function.update_self] at hrow
      exact hknown (hrow ▸ rfl)
    · rw [Function.update_of_ne hy] at hrow
      exact h.known y row' hrow

theorem set (hB : B.Lawful) (h : Tracks B s tokens) (hplain : config.Plain)
    (hseq : config.CarriesSequence)
    (hset : setAssociatedConfig B tenantID eid config s = (.ok (), s')) :
    Tracks B s' (Function.update tokens (newDeviceKey tenantID eid, config.eimID)
      config.associationToken) := by
  obtain ⟨payload, hpayload, hknows, -, hrows⟩ := setAssociatedConfig_eq_ok hset
  have hdevices : s'.devices = s.devices := by
    have hkept : Keeps Store.devices (setAssociatedConfig B tenantID eid config) :=
      (ignoresState_of_forall fun _ _ _ _ => rfl).setAssociatedConfig B config
    simpa [hset] using hkept s
  refine h.update hrows hdevices (fun _ => hknows) ?_
  simp only [rowToken]
  rw [(EimConfigurationData.decode_encode hB hplain hpayload).1 hseq]
  rfl

theorem updatedConfig_apply (h : Tracks B s tokens) :
    updatedConfig B tenantID eid config s =
      (.ok { config with
        associationToken :=
          config.associationToken.or (tokens (newDeviceKey tenantID eid, config.eimID)) }, s) := by
  have htoken : rowToken B ((s.records (newDeviceKey tenantID eid)).eims config.eimID) = _ :=
    h.token (newDeviceKey tenantID eid, config.eimID)
  rw [Euiccpkg.updatedConfig_apply, updatedFrom, htoken]
  obtain ⟨_, _, _, _, associationToken⟩ := config
  cases associationToken with
  | some token => rfl
  | none => rfl

theorem delete (h : Tracks B s tokens) (eimID : Bytes) :
    Tracks B (ignoreNotFound (deleteAssociatedEIM tenantID eid eimID) s).2
      (Function.update tokens (newDeviceKey tenantID eid, eimID) none) := by
  have hframe : ∀ {γ : Type} {f : Store → γ}, IgnoresState f tenantID eid →
      Keeps f (ignoreNotFound (deleteAssociatedEIM tenantID eid eimID)) :=
    fun hf => keeps_ignoreNotFound (hf.deleteEIM eimID)
  have hrows : eimRow (ignoreNotFound (deleteAssociatedEIM tenantID eid eimID) s).2 =
      Function.update (eimRow s) (newDeviceKey tenantID eid, eimID) none := by
    by_cases hknows : s.Knows (newDeviceKey tenantID eid)
    · exact eimRow_of_changes (changes_deleteAssociatedEIM eimID) hframe hknows
    · rw [eq_of_keeps_unless (hframe ignoresState_unless) hknows, eq_comm,
        Function.update_eq_self_iff]
      cases hrow : eimRow s (newDeviceKey tenantID eid, eimID) with
      | none => rfl
      | some row => exact absurd (h.known _ row hrow) hknows
  exact h.update hrows (hframe (ignoresState_of_forall fun _ _ _ _ => rfl) s) nofun rfl

end Tracks

namespace AssociationEvent

variable {s : Store} {tokens : DeviceKey × Bytes → Option Int} {event : AssociationEvent}

/-- The X.509 object of the configuration is a SEQUENCE. -/
def CarriesSequence (event : AssociationEvent) : Prop :=
  ∀ config, event.config? = some config → config.CarriesSequence

/-- The API accepts the configuration. -/
def Accepted (B : Bertlv) (S : Service) (event : AssociationEvent) : Prop :=
  ∀ config, event.config? = some config → Api.Accepted B S config

theorem addedConfig_eq (config : EimConfigurationData) (result : Option Result) :
    addedConfig config result = { config with
      associationToken :=
        (result.bind Result.addEIMAssociationToken).or config.associationToken } := by
  rw [addedConfig]
  cases result.bind Result.addEIMAssociationToken with
  | none => rfl
  | some token => rfl

/-- What an event that is applied stores: nothing, or a configuration with the token that it
establishes. -/
theorem applied_cases (h : Tracks B s tokens) (happlied : event.Applied B s) :
    (event.config? = none ∧ Tracks B (event.step B s) (event.establish tokens)) ∨
    ∃ tenantID eid config token, event.config? = some config ∧
      setAssociatedConfig B tenantID eid { config with associationToken := token } s =
        (.ok (), event.step B s) ∧
      event.establish tokens =
        Function.update tokens (newDeviceKey tenantID eid, config.eimID) token := by
  cases event with
  | addEIM tenantID eid config result =>
      refine .inr ⟨tenantID, eid, config, _, rfl, ?_, rfl⟩
      rw [← addedConfig_eq]
      exact Prod.ext happlied rfl
  | updateEIM tenantID eid config result =>
      refine .inr ⟨tenantID, eid, config, _, rfl, ?_, rfl⟩
      have hrun : (updateEIM tenantID eid config result).run B s = setAssociatedConfig B tenantID eid
          { config with
            associationToken :=
              config.associationToken.or (tokens (newDeviceKey tenantID eid, config.eimID)) } s :=
        bind_of_ok h.updatedConfig_apply
      rw [← hrun]
      exact Prod.ext happlied rfl
  | deleteEIM tenantID eid eimID result => exact .inl ⟨rfl, h.delete eimID⟩
  | initial tenantID eid config =>
      obtain ⟨-, -, hset⟩ := (readOnly_ofExcept _).bind_eq_ok (Prod.ext happlied rfl)
      exact .inr ⟨tenantID, eid, config, _, rfl, hset, rfl⟩

theorem tracks_step (hB : B.Lawful) (h : Tracks B s tokens) (happlied : event.Applied B s)
    (haccepted : event.Accepted B S) (hseq : event.CarriesSequence) :
    Tracks B (event.step B s) (event.establish tokens) := by
  obtain ⟨-, htracks⟩ | ⟨tenantID, eid, config, token, hconfig, hset, hestablish⟩ :=
    applied_cases h happlied
  · exact htracks
  · rw [hestablish]
    exact h.set hB (plain_withToken ((haccepted config hconfig).plain hB) token)
      (hseq config hconfig) hset

/-! ## Runs -/

/-- The stored configurations are read, and give the tokens. -/
def Answers (B : Bertlv) (s : Store) (tokens : DeviceKey × Bytes → Option Int) : Prop :=
  ∀ tenantID eid eimID, (associationTokenForEIM B tenantID eid eimID s).1 =
    .ok (tokens (newDeviceKey tenantID eid, eimID))

theorem answers_of_tracks (h : Tracks B s tokens) : Answers B s tokens := by
  intro tenantID eid eimID
  rw [associationTokenForEIM_apply]
  exact h.token (newDeviceKey tenantID eid, eimID)

/-- A configuration that is stored and not read back. -/
theorem not_answers_of_unread (hB : B.Lawful) (h : Tracks B s tokens)
    (happlied : event.Applied B s) (haccepted : event.Accepted B S) (hseq : ¬ event.CarriesSequence)
    (tokens' : DeviceKey × Bytes → Option Int) : ¬ Answers B (event.step B s) tokens' := by
  intro hanswers
  obtain ⟨hnone, -⟩ | ⟨tenantID, eid, config, token, hconfig, hset, -⟩ := applied_cases h happlied
  · exact hseq fun config hconfig => nomatch hnone.symm.trans hconfig
  · have hnotseq : ¬ { config with associationToken := token }.CarriesSequence := by
      intro hcarries
      refine hseq fun config' hconfig' => ?_
      obtain rfl := Option.some.inj (hconfig.symm.trans hconfig')
      exact hcarries
    obtain ⟨payload, hpayload, -, -, hrows⟩ := setAssociatedConfig_eq_ok hset
    have hrow : rowToken B (eimRow (event.step B s) (newDeviceKey tenantID eid, config.eimID)) =
        .ok (tokens' (newDeviceKey tenantID eid, config.eimID)) := by
      rw [← hanswers tenantID eid config.eimID, associationTokenForEIM_apply]
      rfl
    rw [hrows, Function.update_self] at hrow
    obtain ⟨read, hread, -⟩ := Outcome.bind_eq_ok.mp hrow
    exact (EimConfigurationData.decode_encode hB
      (plain_withToken ((haccepted config hconfig).plain hB) token) hpayload).2 hnotseq read hread

/-- The tokens that the events establish, the last one for each eIM. -/
def established (events : List AssociationEvent) : DeviceKey × Bytes → Option Int :=
  Run.after establish (fun _ => none) events

theorem answers_iff_of_tracks (hB : B.Lawful) {events : List AssociationEvent}
    (h : Tracks B s tokens) (haccepted : ∀ event ∈ events, event.Accepted B S)
    (happlied : Run.Meets (step B) (Applied B) s events) :
    (∀ pre, pre <+: events →
      Answers B (Run.after (step B) s pre) (Run.after establish tokens pre)) ↔
      ∀ event ∈ events, event.CarriesSequence := by
  induction events generalizing s tokens with
  | nil =>
      refine iff_of_true (fun pre hpre => ?_) (by simp)
      obtain rfl := List.prefix_nil.mp hpre
      exact answers_of_tracks h
  | cons event events ih =>
      have hfirst := haccepted event List.mem_cons_self
      have hrest := fun e he => haccepted e (List.mem_cons_of_mem event he)
      constructor
      · intro hanswers
        have hseq : event.CarriesSequence := by
          by_contra hseq
          exact not_answers_of_unread hB h happlied.1 hfirst hseq _
            (hanswers [event] (List.prefix_append [event] events))
        have hnext := tracks_step hB h happlied.1 hfirst hseq
        refine List.forall_mem_cons.mpr ⟨hseq, (ih hnext hrest happlied.2).mp fun pre hpre => ?_⟩
        exact hanswers (event :: pre) ((List.prefix_cons_inj event).mpr hpre)
      · intro hseq pre hpre
        cases pre with
        | nil => exact answers_of_tracks h
        | cons e pre =>
            obtain ⟨rfl, htail⟩ := List.cons_prefix_cons.mp hpre
            have hnext := tracks_step hB h happlied.1 hfirst (hseq e List.mem_cons_self)
            exact (ih hnext hrest happlied.2).mpr
              (fun e' he => hseq e' (List.mem_cons_of_mem e he)) pre htail

/-- After every part of a run the token of each eIM is the one established last, exactly if the
X.509 object of each configuration is a SEQUENCE. -/
theorem token_continuity_iff (hB : B.Lawful) {events : List AssociationEvent}
    (hempty : s.associatedEIMs = ∅) (haccepted : ∀ event ∈ events, event.Accepted B S)
    (happlied : Run.Meets (step B) (Applied B) s events) :
    (∀ pre, pre <+: events → Answers B (Run.after (step B) s pre) (established pre)) ↔
      ∀ event ∈ events, event.CarriesSequence := by
  have hnone : ∀ x, eimRow s x = none := by
    intro x
    simp [eimRow, Store.records, hempty]
  have htracks : Tracks B s fun _ => none := by
    refine ⟨fun x => ?_, fun x row hrow => ?_⟩
    · rw [hnone x]
      rfl
    · cases (hnone x).symm.trans hrow
  exact answers_iff_of_tracks hB htracks haccepted happlied

end AssociationEvent

/-! An eIM that is associated with a token, updated without one and deleted. -/

def sampleTokenRequest (token : Option Int) (publicKey : String) : EimConfigRequest where
  eimID := text "e2"
  eimFQDN := text "eim.example"
  associationToken := token
  eimPublicKeyDataBase64 := text publicKey

def sampleTokenConfig (token : Option Int) : EimConfigurationData where
  eimID := text "e2"
  eimFQDN := some (text "eim.example")
  counterValue := some 1
  associationToken := token
  eimPublicKeyData := some ⟨.subjectPublicKeyInfo, .constructed tagSequence []⟩

def sampleTokenEvents : List AssociationEvent :=
  [.initial [] sampleDevice (sampleTokenConfig (some 7)),
    .updateEIM [] sampleDevice (sampleTokenConfig none) none,
    .deleteEIM [] sampleDevice (text "e2") none]

theorem accepted_sampleTokenEvents :
    ∀ event ∈ sampleTokenEvents, event.Accepted .reference sampleService := by
  have hconfig : ∀ token ∈ [some 7, none],
      (sampleTokenRequest token "MAA=").config .reference sampleService [] =
        .ok (sampleTokenConfig token) := by
    decide +kernel
  have haccepted : ∀ token ∈ [some 7, none],
      Accepted .reference sampleService (sampleTokenConfig token) :=
    fun token htoken => .request (hconfig token htoken)
  intro event hevent config hof
  simp only [sampleTokenEvents, List.mem_cons, List.not_mem_nil, or_false] at hevent
  obtain rfl | rfl | rfl := hevent
  · exact Option.some.inj hof ▸ haccepted (some 7) (by simp)
  · exact Option.some.inj hof ▸ haccepted none (by simp)
  · cases hof

/-- The store in which only the device is registered. -/
def sampleRegistered : Store := (registerDevice [] sampleDevice Store.new).2

theorem token_continuity_sample :
    Run.Meets (AssociationEvent.step .reference) (AssociationEvent.Applied .reference)
        sampleRegistered sampleTokenEvents ∧
      ((∀ pre, pre <+: sampleTokenEvents → AssociationEvent.Answers .reference
          (Run.after (AssociationEvent.step .reference) sampleRegistered pre)
          (AssociationEvent.established pre)) ↔
        ∀ event ∈ sampleTokenEvents, event.CarriesSequence) := by
  have happlied : Run.Meets (AssociationEvent.step .reference)
      (AssociationEvent.Applied .reference) sampleRegistered sampleTokenEvents := by
    decide +kernel
  exact ⟨happlied, AssociationEvent.token_continuity_iff Bertlv.reference_lawful rfl
    accepted_sampleTokenEvents happlied⟩

/-- An association with a public key that is a NULL is recorded, and its token is not read back. -/
theorem recorded_token_unread :
    (recordInitialEIMAssociation .reference sampleService [] sampleDevice
      (sampleTokenRequest (some 7) "BQA=") Store.new).1.isOk = true ∧
    (associationTokenForEIM .reference [] sampleDevice (text "e2")
      (recordInitialEIMAssociation .reference sampleService [] sampleDevice
        (sampleTokenRequest (some 7) "BQA=") Store.new).2).1.isOk = false := by
  decide +kernel

end OpenIotRsp.Api
