import OpenIotRsp.Library.Ber.Field
import OpenIotRsp.Verification.Package.Identifier

/-!
# Packages that were written and are read back

A queued package is decoded and encoded again before it is delivered.  For each
object of a package: the tree its writer produced is well formed, and it is read
as a value of the same spelling exactly when the object is deliverable.
-/

namespace OpenIotRsp.Asn1

open Octets Ber

/-! ## Trees that are read back -/

section

variable {α β : Type}

/-- `t` is read, and what is read is written as `t` again. -/
def Rereads (marshal : α → Except Error Tlv) (unmarshal : Tlv → Except Error α) (t : Tlv) : Prop :=
  ∃ a, unmarshal t = .ok a ∧ marshal a = .ok t

/-- The tree of a value that is deliverable under a condition. -/
structure Written (marshal : α → Except Error Tlv) (unmarshal : Tlv → Except Error α)
    (deliverable : Prop) (t : Tlv) : Prop where
  wellFormed : t.WellFormed
  rereads : deliverable → Rereads marshal unmarshal t
  unread : ¬ deliverable → ∀ a, unmarshal t ≠ .ok a

variable {marshal : α → Except Error Tlv} {unmarshal : Tlv → Except Error α}

theorem Written.of_rereads (hwf : t.WellFormed) (h : Rereads marshal unmarshal t) :
    Written marshal unmarshal True t :=
  ⟨hwf, fun _ => h, fun hnot => absurd trivial hnot⟩

theorem mapM_rereads {ts : List Tlv} (h : ∀ t ∈ ts, Rereads marshal unmarshal t) :
    ∃ as, ts.mapM unmarshal = .ok as ∧ as.mapM marshal = .ok ts := by
  induction ts with
  | nil => exact ⟨[], rfl, rfl⟩
  | cons t ts ih =>
      obtain ⟨a, hread, hwrite⟩ := h t (by simp)
      obtain ⟨as, hreads, hwrites⟩ := ih fun t ht => h t (by simp [ht])
      refine ⟨a :: as, ?_, ?_⟩
      · simp [List.mapM_cons, hread, hreads]
      · simp [List.mapM_cons, hwrite, hwrites]

/-- The children of a field that was written, and the value it is read as. -/
theorem exists_field {field : Option α} {write : α → Except Error Tlv} {read : Tlv → Except Error α}
    (hwrite : optionalChild field write = .ok cs)
    (hwritten : ∀ a t, write a = .ok t → t.tag = tag ∧ t.WellFormed)
    (hread : ∀ a t, field = some a → write a = .ok t → read t = .ok a) :
    ∃ f : Field tag, cs = f.children ∧ optionalValue f.tlv read = .ok field := by
  cases field with
  | none => exact ⟨⟨none, by simp, by simp⟩, (Except.ok.inj hwrite).symm, rfl⟩
  | some a =>
      obtain ⟨t, ht, hcs⟩ := Outcome.bind_eq_ok.mp hwrite
      obtain ⟨htag, hwf⟩ := hwritten a t ht
      refine ⟨.of t htag hwf, (Except.ok.inj hcs).symm, ?_⟩
      simp [optionalValue, hread a t rfl ht]

end

/-! ## Primitive fields -/

variable {B : Bertlv} {tag : Tag} {t : Tlv} {cs : List Tlv}

theorem integerTLV_eq_ok {v : Int} (h : integerTLV B tag v = .ok t) :
    ∃ b, B.marshalInt v = some b ∧ t = .primitive tag b := by
  cases hmarshal : B.marshalInt v with
  | none => simp [integerTLV, hmarshal] at h
  | some b =>
      have ht : Tlv.primitive tag b = t := by simpa [integerTLV, hmarshal] using h
      exact ⟨b, rfl, ht.symm⟩

theorem integerTLV_written (htag : tag.Valid ∧ tag.isConstructed = false) {v : Int}
    (h : integerTLV B tag v = .ok t) : t.tag = tag ∧ t.WellFormed := by
  obtain ⟨b, -, rfl⟩ := integerTLV_eq_ok h
  exact ⟨rfl, htag⟩

theorem integerValue_marshalInt (hB : B.Lawful) {v : Int} {b : Bytes} (h : B.marshalInt v = some b) :
    integerValue B (some (.primitive tag b)) = .ok v := by
  simp [integerValue, hB.unmarshalInt_marshalInt v b tag h]

theorem integerValue_written (hB : B.Lawful) {v : Int} (h : integerTLV B tag v = .ok t) :
    integerValue B (some t) = .ok v := by
  obtain ⟨b, hb, rfl⟩ := integerTLV_eq_ok h
  exact integerValue_marshalInt hB hb

theorem integer_field (hB : B.Lawful) (htag : tag.Valid ∧ tag.isConstructed = false)
    {field : Option Int} (h : optionalChild field (integerTLV B tag) = .ok cs) :
    ∃ f : Field tag, cs = f.children ∧
      optionalValue f.tlv (fun c => integerValue B c) = .ok field := by
  apply exists_field h
  · intro v t hv
    exact integerTLV_written htag hv
  · intro v t _ hv
    exact integerValue_written hB hv

theorem utf8_field (htag : tag.Valid ∧ tag.isConstructed = false) {field : Option Bytes}
    (h : optionalChild field (fun v => .ok (utf8TLV tag v)) = .ok cs) :
    ∃ f : Field tag, cs = f.children ∧ optionalValue f.tlv (fun c => utf8Value c) = .ok field := by
  apply exists_field h
  · rintro v t ⟨⟩
    exact ⟨rfl, htag⟩
  · rintro v t - ⟨⟩
    rfl

theorem octet_field (htag : tag.Valid ∧ tag.isConstructed = false) {field : Option Bytes}
    (h : optionalChild field (fun v => .ok (octetTLV tag v)) = .ok cs) :
    ∃ f : Field tag, cs = f.children ∧ optionalValue f.tlv (fun c => octetValue c) = .ok field :=
  utf8_field htag h

@[simp]
theorem optionalValue_none {α : Type} (read : Tlv → Except Error α) :
    optionalValue none read = .ok none :=
  rfl

@[simp]
theorem utf8Value_primitive (tag : Tag) (value : Bytes) :
    utf8Value (some (.primitive tag value)) = .ok value :=
  rfl

@[simp]
theorem octetValue_primitive (tag : Tag) (value : Bytes) :
    octetValue (some (.primitive tag value)) = .ok value :=
  rfl

theorem optionalChild_of_none {α : Type} {field : Option α} {write : α → Except Error Tlv}
    (h : field = none) : optionalChild field write = .ok [] := by
  rw [h]
  rfl

/-! ## eIM configuration data -/

theorem unmarshalX509Choice_marshal (tag : Tag) (choice : X509Choice) :
    unmarshalX509Choice (marshalX509Choice tag choice) =
      if choice.data.tag = tagSequence then .ok choice
      else .error (.message "asn1: X.509 CHOICE arm does not carry an X.509 object") := by
  obtain ⟨kind, data⟩ := choice
  have harm : contextConstructed 1 ≠ contextConstructed 0 := by decide
  cases kind with
  | subjectPublicKeyInfo =>
      by_cases htag : data.tag = tagSequence <;>
        simp [unmarshalX509Choice, marshalX509Choice, x509ChoiceArmTag, x509ChoiceArmObject,
          htag]
  | certificate =>
      by_cases htag : data.tag = tagSequence <;>
        simp [unmarshalX509Choice, marshalX509Choice, x509ChoiceArmTag, x509ChoiceArmObject,
          htag, harm]

theorem wellFormed_marshalX509Choice (htag : tag.Valid ∧ tag.isConstructed = true)
    {choice : X509Choice} (hdata : choice.data.WellFormed) :
    (marshalX509Choice tag choice).WellFormed := by
  have harm : (x509ChoiceArmTag choice.kind).Valid ∧
      (x509ChoiceArmTag choice.kind).isConstructed = true := by
    cases choice.kind <;> decide
  exact ⟨htag.1, htag.2, ⟨harm.1, harm.2, hdata, trivial⟩, trivial⟩

namespace EimConfigurationData

/-- The configurations that the constructors of `euiccpkg` build. -/
structure Plain (e : EimConfigurationData) : Prop where
  trusted : e.trustedPublicKeyDataTLS = none
  protocol : e.eimSupportedProtocol = none
  proprietary : e.esipaProprietaryProtocolInformation = none
  wellFormed : ∀ choice, e.eimPublicKeyData = some choice → choice.data.WellFormed

/-- The X.509 object is a SEQUENCE, as the reader of the CHOICE arm requires. -/
def CarriesSequence (e : EimConfigurationData) : Prop :=
  ∀ choice, e.eimPublicKeyData = some choice → choice.data.tag = tagSequence

theorem publicKey_field {e : EimConfigurationData} (hplain : e.Plain)
    (h : optionalChild e.eimPublicKeyData
      (fun v => .ok (marshalX509Choice (contextConstructed 5) v)) = .ok cs) :
    ∃ f : Field (contextConstructed 5), cs = f.children ∧
      f.tlv = e.eimPublicKeyData.map (marshalX509Choice (contextConstructed 5)) := by
  cases hkey : e.eimPublicKeyData with
  | none =>
      rw [hkey] at h
      exact ⟨⟨none, by simp, by simp⟩, (Except.ok.inj h).symm, rfl⟩
  | some choice =>
      rw [hkey] at h
      exact ⟨.of (marshalX509Choice (contextConstructed 5) choice) rfl
        (wellFormed_marshalX509Choice (by decide) (hplain.wellFormed choice hkey)),
        (Except.ok.inj h).symm, rfl⟩

/-- The fields of a configuration as they are written, each with the value it is read as. -/
structure Fields (B : Bertlv) (e : EimConfigurationData) where
  eimFQDN : Field (context 1)
  eimIDType : Field (context 2)
  counterValue : Field (context 3)
  associationToken : Field (context 4)
  eimPublicKeyData : Field (contextConstructed 5)
  euiccCIPKID : Field (context 8)
  eimFQDN_eq : optionalValue eimFQDN.tlv (fun c => utf8Value c) = .ok e.eimFQDN
  eimIDType_eq : optionalValue eimIDType.tlv (fun c => integerValue B c) = .ok e.eimIDType
  counterValue_eq : optionalValue counterValue.tlv (fun c => integerValue B c) = .ok e.counterValue
  associationToken_eq :
    optionalValue associationToken.tlv (fun c => integerValue B c) = .ok e.associationToken
  eimPublicKeyData_eq :
    eimPublicKeyData.tlv = e.eimPublicKeyData.map (marshalX509Choice (contextConstructed 5))
  euiccCIPKID_eq : optionalValue euiccCIPKID.tlv (fun c => octetValue c) = .ok e.euiccCIPKID

namespace Fields

variable {e : EimConfigurationData} (F : Fields B e)

def children : List Tlv :=
  (Field.primitive (context 0) (by decide) e.eimID).children ++ F.eimFQDN.children ++
    F.eimIDType.children ++ F.counterValue.children ++ F.associationToken.children ++
    F.eimPublicKeyData.children ++ F.euiccCIPKID.children ++
    (Field.flag (context 9) (by decide) e.indirectProfileDownload).children

theorem wellFormed_children : Tlv.AllWellFormed F.children := by
  apply Tlv.allWellFormed_iff.mpr
  intro t ht
  simp only [children, List.mem_append] at ht
  obtain ((((((ht | ht) | ht) | ht) | ht) | ht) | ht) | ht := ht <;>
    exact Field.wellFormed_of_mem ht

/-- The fields are read as they were, but for the X.509 object. -/
theorem unmarshalBERTLV_children (hplain : e.Plain) :
    unmarshalBERTLV B (.constructed tagSequence F.children) = (do
      let key ← optionalValue
        (e.eimPublicKeyData.map (marshalX509Choice (contextConstructed 5))) unmarshalX509Choice
      return { e with eimPublicKeyData := key }) := by
  obtain ⟨htrusted, hprotocol, hproprietary, -⟩ := hplain
  simp (disch := decide) only [unmarshalBERTLV, expectTag, Tlv.tag_constructed, if_true, Tlv.first,
    Tlv.children_constructed, children, List.find?_append, Field.find_self, Field.find_ne,
    Option.none_or, Option.or_none, Outcome.ok_bind, Field.tlv_primitive, Field.isSome_flag,
    F.eimFQDN_eq, F.eimIDType_eq, F.counterValue_eq, F.associationToken_eq, F.eimPublicKeyData_eq,
    F.euiccCIPKID_eq, utf8Value_primitive, optionalValue_none, htrusted, hprotocol, hproprietary]

end Fields

theorem exists_fields (hB : B.Lawful) {e : EimConfigurationData} (hplain : e.Plain)
    (h : e.marshalChildren B = .ok cs) : ∃ F : Fields B e, cs = F.children := by
  obtain ⟨fqdn, hfqdn, h⟩ := Outcome.bind_eq_ok.mp h
  obtain ⟨idType, hidType, h⟩ := Outcome.bind_eq_ok.mp h
  obtain ⟨counter, hcounter, h⟩ := Outcome.bind_eq_ok.mp h
  obtain ⟨token, htoken, h⟩ := Outcome.bind_eq_ok.mp h
  obtain ⟨key, hkey, h⟩ := Outcome.bind_eq_ok.mp h
  simp only [optionalChild_of_none hplain.trusted, optionalChild_of_none hplain.protocol,
    optionalChild_of_none hplain.proprietary, Outcome.ok_bind] at h
  obtain ⟨cipkid, hcipkid, h⟩ := Outcome.bind_eq_ok.mp h
  obtain ⟨f1, rfl, hf1⟩ := utf8_field (by decide) hfqdn
  obtain ⟨f2, rfl, hf2⟩ := integer_field hB (by decide) hidType
  obtain ⟨f3, rfl, hf3⟩ := integer_field hB (by decide) hcounter
  obtain ⟨f4, rfl, hf4⟩ := integer_field hB (by decide) htoken
  obtain ⟨f5, rfl, hf5⟩ := publicKey_field hplain hkey
  obtain ⟨f8, rfl, hf8⟩ := octet_field (by decide) hcipkid
  refine ⟨⟨f1, f2, f3, f4, f5, f8, hf1, hf2, hf3, hf4, hf5, hf8⟩, ?_⟩
  obtain rfl := Except.ok.inj h
  cases hflag : e.indirectProfileDownload <;>
    simp [Fields.children, Field.children, Field.flag, hflag, utf8TLV, nullTLV]

end EimConfigurationData

theorem EimConfigurationData.publicKey_written (e : EimConfigurationData) (tag : Tag) :
    (e.CarriesSequence →
      optionalValue (e.eimPublicKeyData.map (marshalX509Choice tag)) unmarshalX509Choice =
        .ok e.eimPublicKeyData) ∧
    (¬ e.CarriesSequence → ∀ key,
      optionalValue (e.eimPublicKeyData.map (marshalX509Choice tag)) unmarshalX509Choice ≠
        .ok key) := by
  unfold CarriesSequence
  cases e.eimPublicKeyData with
  | none => simp
  | some choice =>
      by_cases htag : choice.data.tag = tagSequence <;>
        simp [optionalValue, unmarshalX509Choice_marshal, htag]

theorem unmarshalTaggedEimConfig_written (hB : B.Lawful) {config : EimConfigurationData}
    (hplain : config.Plain) (htag : tag.Valid ∧ tag.isConstructed = true)
    (h : marshalTaggedEimConfig B tag (some config) = .ok t) :
    t.tag = tag ∧ t.WellFormed ∧
      (config.CarriesSequence → unmarshalTaggedEimConfig B t = .ok config) ∧
      (¬ config.CarriesSequence → ∀ read, unmarshalTaggedEimConfig B t ≠ .ok read) := by
  obtain ⟨cs, hcs, ht⟩ := Outcome.bind_eq_ok.mp h
  obtain ⟨F, rfl⟩ := EimConfigurationData.exists_fields hB hplain hcs
  obtain rfl : .constructed tag F.children = t := Except.ok.inj ht
  have hread : unmarshalTaggedEimConfig B (.constructed tag F.children) = _ :=
    F.unmarshalBERTLV_children hplain
  obtain ⟨hkey, hnokey⟩ := config.publicKey_written (contextConstructed 5)
  refine ⟨rfl, ⟨htag.1, htag.2, F.wellFormed_children⟩, ?_, ?_⟩
  · intro hseq
    rw [hread, hkey hseq]
    rfl
  · intro hseq read hok
    rw [hread] at hok
    obtain ⟨key, hok, -⟩ := Outcome.bind_eq_ok.mp hok
    exact hnokey hseq key hok

/-! ## Operations -/

def Eco.Plain : Eco → Prop
  | .addEIM config => ∀ c, config = some c → c.Plain
  | .updateEIM config => ∀ c, config = some c → c.Plain
  | _ => True

def Eco.Deliverable : Eco → Prop
  | .addEIM config => ∀ c, config = some c → c.CarriesSequence
  | .updateEIM config => ∀ c, config = some c → c.CarriesSequence
  | _ => True

theorem Eco.written_config (hB : B.Lawful) {arm : Option EimConfigurationData → Eco}
    (htag : tag.Valid ∧ tag.isConstructed = true)
    (hmarshal : ∀ config, (arm config).marshalBERTLV B = marshalTaggedEimConfig B tag config)
    (hunmarshal : ∀ t : Tlv, t.tag = tag →
      Eco.unmarshalBERTLV B t = do return arm (← unmarshalTaggedEimConfig B t))
    {config : Option EimConfigurationData} (hplain : ∀ c, config = some c → c.Plain)
    (h : (arm config).marshalBERTLV B = .ok t) :
    Written (Eco.marshalBERTLV B) (Eco.unmarshalBERTLV B)
      (∀ c, config = some c → c.CarriesSequence) t := by
  cases config with
  | none =>
      rw [hmarshal] at h
      cases h
  | some config =>
      obtain ⟨htag, hwf, hread, hunread⟩ :=
        unmarshalTaggedEimConfig_written hB (hplain config rfl) htag ((hmarshal _).symm.trans h)
      refine ⟨hwf, ?_, ?_⟩
      · intro hseq
        refine ⟨arm (some config), ?_, h⟩
        rw [hunmarshal t htag, hread (hseq config rfl)]
        rfl
      · intro hseq read hok
        rw [hunmarshal t htag] at hok
        obtain ⟨config', hconfig, -⟩ := Outcome.bind_eq_ok.mp hok
        refine hunread ?_ config' hconfig
        simpa using hseq

theorem Eco.written (hB : B.Lawful) {eco : Eco} (hplain : eco.Plain)
    (h : eco.marshalBERTLV B = .ok t) :
    Written (Eco.marshalBERTLV B) (Eco.unmarshalBERTLV B) eco.Deliverable t := by
  cases eco with
  | addEIM config =>
      refine written_config hB (by decide) (fun _ => rfl) ?_ hplain h
      intro t ht
      rw [unmarshalBERTLV, if_pos ht]
  | deleteEIM eimID =>
      obtain rfl := Except.ok.inj h
      exact .of_rereads ⟨by decide, by decide, ⟨by decide, by decide⟩, trivial⟩
        ⟨.deleteEIM eimID, rfl, rfl⟩
  | updateEIM config =>
      refine written_config hB (by decide) (fun _ => rfl) ?_ hplain h
      intro t ht
      rw [unmarshalBERTLV, if_neg (by rw [ht]; decide), if_neg (by rw [ht]; decide), if_pos ht]
  | listEIM =>
      obtain rfl := Except.ok.inj h
      exact .of_rereads ⟨by decide, by decide, trivial⟩ ⟨.listEIM, rfl, rfl⟩

/-- The identifier that `configureImmediateEnable` carries, if any, is read back. -/
def ConfigureImmediateEnable.Deliverable (value : ConfigureImmediateEnable) : Prop :=
  value.defaultSMDPOID ≠ [] → Asn1.Deliverable value.defaultSMDPOID

namespace ConfigureImmediateEnable

/-- The tree of a `configureImmediateEnable` with the fields. -/
def tree (flag : Bool) (oid : Field (context 1)) (address : Field (context 2)) : Tlv :=
  .constructed (contextConstructed 7)
    ((Field.flag (context 0) (by decide) flag).children ++ oid.children ++ address.children)

theorem wellFormed_tree (flag : Bool) (oid : Field (context 1)) (address : Field (context 2)) :
    (tree flag oid address).WellFormed := by
  refine ⟨by decide, by decide, Tlv.allWellFormed_iff.mpr ?_⟩
  intro t ht
  simp only [List.mem_append] at ht
  obtain (ht | ht) | ht := ht <;> exact Field.wellFormed_of_mem ht

theorem unmarshal_tree (flag : Bool) (oid : Field (context 1)) (address : Field (context 2)) :
    unmarshalConfigureImmediateEnable (tree flag oid address) = (do
      let oid ← optionalValue oid.tlv fun c => oidValue c
      let address ← optionalValue address.tlv fun c => utf8Value c
      return ⟨flag, oid.getD [], address⟩) := by
  simp (disch := decide) only [unmarshalConfigureImmediateEnable, tree, Tlv.first,
    Tlv.children_constructed, List.find?_append, Field.find_self, Field.find_ne, Option.none_or,
    Option.or_none, Field.isSome_flag]

theorem marshal_tree {value : ConfigureImmediateEnable} {oid : Field (context 1)}
    {address : Field (context 2)}
    (hoid : optionalChild (if value.defaultSMDPOID = [] then none else some value.defaultSMDPOID)
      (oidTLV B (context 1)) = .ok oid.children)
    (haddress : optionalChild value.defaultSMDPAddress (fun v => .ok (utf8TLV (context 2) v)) =
      .ok address.children) :
    marshalConfigureImmediateEnable B (some value) =
      .ok (tree value.immediateEnableFlag oid address) := by
  rw [marshalConfigureImmediateEnable, hoid, haddress]
  cases hflag : value.immediateEnableFlag <;> simp [tree, Field.children, Field.flag, nullTLV]

theorem written (hB : B.Lawful) {value : ConfigureImmediateEnable}
    (h : marshalConfigureImmediateEnable B (some value) = .ok t) :
    Written (fun v => marshalConfigureImmediateEnable B (some v))
      unmarshalConfigureImmediateEnable value.Deliverable t := by
  obtain ⟨oid, hoid, h'⟩ := Outcome.bind_eq_ok.mp h
  obtain ⟨address, haddress, -⟩ := Outcome.bind_eq_ok.mp h'
  obtain ⟨f2, rfl, hf2⟩ := utf8_field (by decide) haddress
  by_cases hnil : value.defaultSMDPOID = []
  · obtain rfl : [] = oid := by simpa [hnil, optionalChild] using hoid
    let f1 : Field (context 1) := ⟨none, by simp, by simp⟩
    obtain rfl : tree value.immediateEnableFlag f1 f2 = t :=
      Except.ok.inj ((marshal_tree hoid haddress).symm.trans h)
    refine ⟨wellFormed_tree _ _ _, ?_, ?_⟩
    · intro _
      refine ⟨value, ?_, h⟩
      rw [unmarshal_tree, hf2]
      simp [f1, ← hnil]
    · intro hnot
      exact absurd hnil (by simpa using fun h => hnot fun hne => absurd h hne)
  · rw [if_neg hnil] at hoid
    obtain ⟨t1, ht1, hoid'⟩ := Outcome.bind_eq_ok.mp hoid
    obtain rfl : [t1] = oid := Except.ok.inj hoid'
    obtain ⟨contents, -, rfl⟩ := oidTLV_eq_ok hB ht1
    let f1 := Field.primitive (context 1) (by decide) contents
    obtain ⟨hread, hunread⟩ := oidValue_written hB ht1
    obtain rfl : tree value.immediateEnableFlag f1 f2 = t :=
      Except.ok.inj ((marshal_tree (by rw [if_neg hnil]; exact hoid) haddress).symm.trans h)
    refine ⟨wellFormed_tree _ _ _, ?_, ?_⟩
    · intro hdeliverable
      obtain ⟨read, hvalue, hagain, hne⟩ := hread (hdeliverable hnil)
      refine ⟨⟨value.immediateEnableFlag, read, value.defaultSMDPAddress⟩, ?_, ?_⟩
      · rw [unmarshal_tree, hf2]
        simp [f1, optionalValue, hvalue]
      · refine marshal_tree ?_ haddress
        simp only [hne, if_false, optionalChild, hagain]
        rfl
    · intro hnot read hok
      have hunreadable : ¬ Asn1.Deliverable value.defaultSMDPOID :=
        fun hdeliverable => hnot fun _ => hdeliverable
      rw [unmarshal_tree] at hok
      obtain ⟨oid, hvalue, -⟩ := Outcome.bind_eq_ok.mp hok
      obtain ⟨arcs, hvalue, -⟩ := Outcome.bind_eq_ok.mp hvalue
      exact hunread hunreadable arcs hvalue

end ConfigureImmediateEnable

namespace Psmo

/-- The `listProfileInfo` request of a package has its own tag. -/
def Plain : Psmo → Prop
  | .listProfileInfo request =>
      ∀ t, request = some t → t.tag = tagProfileInfoList ∧ t.WellFormed
  | _ => True

def Deliverable : Psmo → Prop
  | .configureImmediateEnable value => ∀ v, value = some v → v.Deliverable
  | _ => True

theorem written_configureImmediateEnable (hB : B.Lawful) {value : Option ConfigureImmediateEnable}
    (h : (configureImmediateEnable value).marshalBERTLV B = .ok t) :
    Written (marshalBERTLV B) unmarshalBERTLV (configureImmediateEnable value).Deliverable t := by
  cases value with
  | none =>
      obtain rfl := Except.ok.inj h
      refine ⟨⟨by decide, by decide, trivial⟩, ?_, ?_⟩
      · intro _
        exact ⟨.configureImmediateEnable (some ⟨false, [], none⟩), rfl, rfl⟩
      · intro hnot
        exact absurd (by rintro v ⟨⟩) hnot
  | some value =>
      have hwritten := ConfigureImmediateEnable.written hB h
      have hunmarshal : unmarshalBERTLV t =
          (do return .configureImmediateEnable (some (← unmarshalConfigureImmediateEnable t))) := by
        have htag : t.tag = contextConstructed 7 := by
          obtain ⟨oid, -, hrest⟩ := Outcome.bind_eq_ok.mp h
          obtain ⟨address, -, hrest⟩ := Outcome.bind_eq_ok.mp hrest
          obtain rfl := Except.ok.inj hrest
          rfl
        simp only [unmarshalBERTLV, htag]
        rfl
      refine ⟨hwritten.wellFormed, ?_, ?_⟩
      · intro hdeliverable
        obtain ⟨read, hread, hagain⟩ := hwritten.rereads (hdeliverable value rfl)
        refine ⟨.configureImmediateEnable (some read), ?_, hagain⟩
        rw [hunmarshal, hread]
        rfl
      · intro hnot read hok
        rw [hunmarshal] at hok
        obtain ⟨read, hread, -⟩ := Outcome.bind_eq_ok.mp hok
        refine hwritten.unread ?_ read hread
        intro hdeliverable
        exact hnot fun v hv => Option.some.inj hv ▸ hdeliverable

theorem written (hB : B.Lawful) {psmo : Psmo} (hplain : psmo.Plain)
    (h : psmo.marshalBERTLV B = .ok t) :
    Written (marshalBERTLV B) unmarshalBERTLV psmo.Deliverable t := by
  cases psmo with
  | enable iccid rollback =>
      obtain rfl := Except.ok.inj h
      cases rollback with
      | false =>
          exact .of_rereads ⟨by decide, by decide, ⟨by decide, by decide⟩, trivial⟩
            ⟨.enable iccid false, rfl, rfl⟩
      | true =>
          exact .of_rereads
            ⟨by decide, by decide, ⟨by decide, by decide⟩, ⟨by decide, by decide⟩, trivial⟩
            ⟨.enable iccid true, rfl, rfl⟩
  | disable iccid =>
      obtain rfl := Except.ok.inj h
      exact .of_rereads ⟨by decide, by decide, ⟨by decide, by decide⟩, trivial⟩
        ⟨.disable iccid, rfl, rfl⟩
  | delete iccid =>
      obtain rfl := Except.ok.inj h
      exact .of_rereads ⟨by decide, by decide, ⟨by decide, by decide⟩, trivial⟩
        ⟨.delete iccid, rfl, rfl⟩
  | listProfileInfo request =>
      cases request with
      | none => cases h
      | some request =>
          obtain rfl := Except.ok.inj h
          obtain ⟨htag, hwf⟩ := hplain request rfl
          refine .of_rereads hwf ⟨.listProfileInfo (some request), ?_, rfl⟩
          simp only [unmarshalBERTLV, htag]
          rfl
  | getRAT =>
      obtain rfl := Except.ok.inj h
      exact .of_rereads ⟨by decide, by decide, trivial⟩ ⟨.getRAT, rfl, rfl⟩
  | configureImmediateEnable value => exact written_configureImmediateEnable hB h
  | setFallbackAttribute iccid =>
      obtain rfl := Except.ok.inj h
      exact .of_rereads ⟨by decide, by decide, ⟨by decide, by decide⟩, trivial⟩
        ⟨.setFallbackAttribute iccid, rfl, rfl⟩
  | unsetFallbackAttribute =>
      obtain rfl := Except.ok.inj h
      exact .of_rereads ⟨by decide, by decide, trivial⟩ ⟨.unsetFallbackAttribute, rfl, rfl⟩
  | setDefaultDPAddress request =>
      cases request with
      | none => cases h
      | some request =>
          obtain rfl := Except.ok.inj h
          exact .of_rereads ⟨by decide, by decide, ⟨by decide, by decide⟩, trivial⟩
            ⟨.setDefaultDPAddress (some request), rfl, rfl⟩

end Psmo

/-! ## Packages -/

namespace EuiccPackage

def Plain : EuiccPackage → Prop
  | .psmo psmos => ∀ psmo ∈ psmos, psmo.Plain
  | .eco ecos => ∀ eco ∈ ecos, eco.Plain

def Deliverable : EuiccPackage → Prop
  | .psmo psmos => ∀ psmo ∈ psmos, psmo.Deliverable
  | .eco ecos => ∀ eco ∈ ecos, eco.Deliverable

end EuiccPackage

/-- A list of objects is read back when each of them is. -/
theorem Written.mapM {α : Type} {marshal : α → Except Error Tlv}
    {unmarshal : Tlv → Except Error α} {deliverable : α → Prop} {as : List α} {ts : List Tlv}
    (h : as.mapM marshal = .ok ts)
    (hwritten : ∀ a ∈ as, ∀ t, marshal a = .ok t → Written marshal unmarshal (deliverable a) t) :
    (∀ t ∈ ts, t.WellFormed) ∧
    ((∀ a ∈ as, deliverable a) → ∃ read, ts.mapM unmarshal = .ok read ∧ read.mapM marshal = .ok ts) ∧
    ((¬ ∀ a ∈ as, deliverable a) → ∀ read, ts.mapM unmarshal ≠ .ok read) := by
  refine ⟨?_, ?_, ?_⟩
  · intro t ht
    obtain ⟨a, ha, hat⟩ := Outcome.exists_source_of_mapM h ht
    exact (hwritten a ha t hat).wellFormed
  · intro hall
    apply mapM_rereads
    intro t ht
    obtain ⟨a, ha, hat⟩ := Outcome.exists_source_of_mapM h ht
    exact (hwritten a ha t hat).rereads (hall a ha)
  · intro hnot read hread
    apply hnot
    intro a ha
    by_contra hna
    obtain ⟨t, ht, hat⟩ := Outcome.exists_ok_of_mapM h ha
    obtain ⟨b, -, hb⟩ := Outcome.exists_ok_of_mapM hread ht
    exact (hwritten a ha t hat).unread hna b hb


theorem EuiccPackage.written (hB : B.Lawful) {pkg : EuiccPackage} (hplain : pkg.Plain)
    (h : pkg.marshalBERTLV B = .ok t) :
    Written (EuiccPackage.marshalBERTLV B) (fun t => EuiccPackage.unmarshalBERTLV B (some t))
      pkg.Deliverable t := by
  cases pkg with
  | psmo psmos =>
      obtain ⟨ts, hts, h⟩ := Outcome.bind_eq_ok.mp h
      obtain rfl : .constructed (contextConstructed 0) ts = t := Except.ok.inj h
      obtain ⟨hwf, hread, hunread⟩ :=
        Written.mapM hts fun psmo hmem t ht => Psmo.written hB (hplain psmo hmem) ht
      refine ⟨⟨by decide, by decide, Tlv.allWellFormed_iff.mpr hwf⟩, ?_, ?_⟩
      · intro hall
        obtain ⟨read, hread, hagain⟩ := hread hall
        refine ⟨.psmo read, ?_, ?_⟩
        · simp [unmarshalBERTLV, hread]
        · simp [marshalBERTLV, hagain]
      · intro hnot read hok
        simp only [unmarshalBERTLV, Tlv.tag_constructed, Tlv.children_constructed, if_true] at hok
        obtain ⟨read, hread, -⟩ := Outcome.bind_eq_ok.mp hok
        exact hunread hnot read hread
  | eco ecos =>
      obtain ⟨ts, hts, h⟩ := Outcome.bind_eq_ok.mp h
      obtain rfl : .constructed (contextConstructed 1) ts = t := Except.ok.inj h
      obtain ⟨hwf, hread, hunread⟩ :=
        Written.mapM hts fun eco hmem t ht => Eco.written hB (hplain eco hmem) ht
      have htag : contextConstructed 1 ≠ contextConstructed 0 := by decide
      refine ⟨⟨by decide, by decide, Tlv.allWellFormed_iff.mpr hwf⟩, ?_, ?_⟩
      · intro hall
        obtain ⟨read, hread, hagain⟩ := hread hall
        refine ⟨.eco read, ?_, ?_⟩
        · simp [unmarshalBERTLV, htag, hread]
        · simp [marshalBERTLV, hagain]
      · intro hnot read hok
        simp only [unmarshalBERTLV, Tlv.tag_constructed, Tlv.children_constructed, htag, if_false,
          if_true] at hok
        obtain ⟨read, hread, -⟩ := Outcome.bind_eq_ok.mp hok
        exact hunread hnot read hread

theorem EuiccPackage.tag_written {pkg : EuiccPackage} (h : pkg.marshalBERTLV B = .ok t) :
    t.tag = contextConstructed 0 ∨ t.tag = contextConstructed 1 := by
  cases pkg with
  | psmo psmos =>
      obtain ⟨ts, -, h⟩ := Outcome.bind_eq_ok.mp h
      exact .inl (Except.ok.inj h ▸ rfl)
  | eco ecos =>
      obtain ⟨ts, -, h⟩ := Outcome.bind_eq_ok.mp h
      exact .inr (Except.ok.inj h ▸ rfl)

theorem optionalValue_octetValue (child : Option Tlv) :
    optionalValue child (fun c => octetValue c) = .ok (child.map Tlv.value) := by
  cases child <;> rfl

namespace EuiccPackageSigned

/-- The tree of a signed object with the fields; the package has one of two tags. -/
def tree (s : EuiccPackageSigned) (counter : Field (context 1)) (transactionID : Field (context 2))
    (pkg : Field tag) : Tlv :=
  .constructed tagSequence
    ((Field.primitive (context 0) (by decide) s.eimID).children ++
      (Field.primitive tagEID (by decide) s.eid).children ++ counter.children ++
      transactionID.children ++ pkg.children)

theorem wellFormed_tree (s : EuiccPackageSigned) (counter : Field (context 1))
    (transactionID : Field (context 2)) (pkg : Field tag) :
    (s.tree counter transactionID pkg).WellFormed := by
  refine ⟨by decide, by decide, Tlv.allWellFormed_iff.mpr ?_⟩
  intro t ht
  simp only [List.mem_append] at ht
  obtain (((ht | ht) | ht) | ht) | ht := ht <;> exact Field.wellFormed_of_mem ht

theorem unmarshal_tree (s : EuiccPackageSigned) {counter : Field (context 1)}
    {transactionID : Field (context 2)} (pkg : Field tag)
    (htag : tag = contextConstructed 0 ∨ tag = contextConstructed 1)
    (hcounter : integerValue B counter.tlv = .ok s.counterValue)
    (htransaction : transactionID.tlv.map Tlv.value = s.eimTransactionID) :
    unmarshalBERTLV B (s.tree counter transactionID pkg) = (do
      return { s with euiccPackage := ← EuiccPackage.unmarshalBERTLV B pkg.tlv }) := by
  rcases htag with rfl | rfl <;>
    simp (disch := decide) only [unmarshalBERTLV, tree, expectTag, Tlv.tag_constructed, if_true,
      Tlv.first, Tlv.children_constructed, List.find?_append, Field.find_self, Field.find_ne,
      Option.none_or, Option.or_none, Outcome.ok_bind, Field.tlv_primitive, utf8Value_primitive,
      octetValue_primitive, hcounter, htransaction]

/-- What is written for a signed object is such a tree. -/
theorem exists_tree (hB : B.Lawful) {s : EuiccPackageSigned} (hplain : s.euiccPackage.Plain)
    (h : s.marshalBERTLV B = .ok t) :
    ∃ (counter : Field (context 1)) (transactionID : Field (context 2)) (pkg : Tlv)
      (hwf : pkg.WellFormed),
      t = s.tree counter transactionID (.of pkg rfl hwf) ∧
      integerValue B counter.tlv = .ok s.counterValue ∧
      transactionID.tlv.map Tlv.value = s.eimTransactionID ∧
      s.euiccPackage.marshalBERTLV B = .ok pkg := by
  obtain ⟨counter, hcounter, h⟩ := Outcome.bind_eq_ok.mp h
  obtain ⟨pkg, hpkg, h⟩ := Outcome.bind_eq_ok.mp h
  obtain ⟨transaction, htransaction, h⟩ := Outcome.bind_eq_ok.mp h
  obtain ⟨f2, rfl, hf2⟩ := octet_field (by decide) htransaction
  rw [optionalValue_octetValue] at hf2
  obtain ⟨hcounterTag, hcounterWF⟩ := integerTLV_written (by decide) hcounter
  exact ⟨.of counter hcounterTag hcounterWF, f2, pkg,
    (EuiccPackage.written hB hplain hpkg).wellFormed, (Except.ok.inj h).symm,
    integerValue_written hB hcounter, Except.ok.inj hf2, hpkg⟩

/-- The signed object is read as it was written, but for its package. -/
theorem unmarshalBERTLV_written (hB : B.Lawful) {s : EuiccPackageSigned}
    (hplain : s.euiccPackage.Plain) (h : s.marshalBERTLV B = .ok t) :
    ∃ pkg, s.euiccPackage.marshalBERTLV B = .ok pkg ∧ t.tag = tagSequence ∧ t.WellFormed ∧
      unmarshalBERTLV B t = (do
        return { s with euiccPackage := ← EuiccPackage.unmarshalBERTLV B (some pkg) }) := by
  obtain ⟨counter, transactionID, pkg, hwf, rfl, hcounter, htransaction, hpkg⟩ :=
    exists_tree hB hplain h
  exact ⟨pkg, hpkg, rfl, s.wellFormed_tree _ _ _,
    s.unmarshal_tree _ (EuiccPackage.tag_written hpkg) hcounter htransaction⟩

/-- The counter stands in its own field of what is written. -/
theorem counter_written (hB : B.Lawful) {s : EuiccPackageSigned} (hplain : s.euiccPackage.Plain)
    (h : s.marshalBERTLV B = .ok t) :
    integerValue B (t.first (context 1)) = .ok s.counterValue := by
  obtain ⟨counter, transactionID, pkg, hwf, rfl, hcounter, -, hpkg⟩ := exists_tree hB hplain h
  have hne : pkg.tag ≠ context 1 := by
    rcases EuiccPackage.tag_written hpkg with htag | htag <;> rw [htag] <;> decide
  rw [← hcounter]
  simp (disch := first | decide | exact hne) only [tree, Tlv.first, Tlv.children_constructed,
    List.find?_append, Field.find_self, Field.find_ne, Option.none_or, Option.or_none]

end EuiccPackageSigned

namespace EuiccPackageRequest

/-- The request with another package under the signature. -/
def withPackage (r : EuiccPackageRequest) (pkg : EuiccPackage) : EuiccPackageRequest :=
  { r with euiccPackageSigned := { r.euiccPackageSigned with euiccPackage := pkg } }

theorem marshalBERTLV_withPackage {r : EuiccPackageRequest} {pkg : EuiccPackage}
    (h : pkg.marshalBERTLV B = r.euiccPackageSigned.euiccPackage.marshalBERTLV B) :
    (r.withPackage pkg).marshalBERTLV B = r.marshalBERTLV B := by
  simp only [withPackage, marshalBERTLV, EuiccPackageSigned.marshalBERTLV, h]

/-- The request is read as it was written, but for the package under the signature. -/
theorem unmarshalBERTLV_written (hB : B.Lawful) {r : EuiccPackageRequest}
    (hplain : r.euiccPackageSigned.euiccPackage.Plain) (h : r.marshalBERTLV B = .ok t) :
    ∃ pkg, r.euiccPackageSigned.euiccPackage.marshalBERTLV B = .ok pkg ∧ t.WellFormed ∧
      unmarshalBERTLV B t = (do
        return r.withPackage (← EuiccPackage.unmarshalBERTLV B (some pkg))) := by
  obtain ⟨signed, hsigned, h⟩ := Outcome.bind_eq_ok.mp h
  obtain rfl := Except.ok.inj h
  obtain ⟨pkg, hpkg, htag, hwf, hread⟩ :=
    EuiccPackageSigned.unmarshalBERTLV_written hB hplain hsigned
  have hne : tagSequence ≠ tagSignature := by decide
  refine ⟨pkg, hpkg, ⟨by decide, by decide, hwf, ⟨by decide, by decide⟩, trivial⟩, ?_⟩
  simp only [unmarshalBERTLV, expectTag, Tlv.tag_constructed, if_true, Tlv.children_constructed,
    Tlv.first, List.find?_cons, htag, hne, decide_false, octetTLV, Tlv.tag_primitive, decide_true,
    octetValue_primitive, hread, Outcome.ok_bind]
  cases EuiccPackage.unmarshalBERTLV B (some pkg) <;> rfl

/-- A request whose package is deliverable is read back as a request of the same spelling. -/
theorem written (hB : B.Lawful) {r : EuiccPackageRequest}
    (hplain : r.euiccPackageSigned.euiccPackage.Plain) (h : r.marshalBERTLV B = .ok t) :
    Written (marshalBERTLV B) (unmarshalBERTLV B)
      r.euiccPackageSigned.euiccPackage.Deliverable t := by
  obtain ⟨pkg, hpkg, hwf, hread⟩ := unmarshalBERTLV_written hB hplain h
  have hwritten := EuiccPackage.written hB hplain hpkg
  refine ⟨hwf, ?_, ?_⟩
  · intro hdeliverable
    obtain ⟨read, hpackage, hagain⟩ := hwritten.rereads hdeliverable
    refine ⟨r.withPackage read, ?_, ?_⟩
    · simp only [hread, hpackage, Outcome.ok_bind, Outcome.pure_eq]
    · rw [marshalBERTLV_withPackage (hagain.trans hpkg.symm), h]
  · intro hnot read hok
    rw [hread] at hok
    obtain ⟨pkg', hpackage, -⟩ := Outcome.bind_eq_ok.mp hok
    exact hwritten.unread hnot pkg' hpackage

end EuiccPackageRequest

end OpenIotRsp.Asn1
