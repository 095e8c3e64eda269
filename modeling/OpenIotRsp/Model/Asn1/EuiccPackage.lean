import OpenIotRsp.Library.Ber.ObjectIdentifier
import OpenIotRsp.Model.Asn1.Codec

/-!
# eUICC packages

`asn1/euicc_package.go`: eIM configuration data, PSMO and ECO commands, and the
signed package request.  A CHOICE is an inductive type; a Go pointer that may be
nil is an `Option`.
-/

namespace OpenIotRsp.Asn1

open Octets Ber

/-! ## eIM configuration data -/

inductive X509ChoiceKind where
  | subjectPublicKeyInfo
  | certificate
deriving DecidableEq

structure X509Choice where
  kind : X509ChoiceKind
  data : Tlv
deriving DecidableEq

structure EimConfigurationData where
  eimID : Bytes
  eimFQDN : Option Bytes := none
  eimIDType : Option Int := none
  counterValue : Option Int := none
  associationToken : Option Int := none
  eimPublicKeyData : Option X509Choice := none
  trustedPublicKeyDataTLS : Option X509Choice := none
  eimSupportedProtocol : Option (List Bool) := none
  euiccCIPKID : Option Bytes := none
  indirectProfileDownload : Bool := false
  esipaProprietaryProtocolInformation : Option Tlv := none
deriving DecidableEq

def x509ChoiceArmTag : X509ChoiceKind → Tag
  | .subjectPublicKeyInfo => contextConstructed 0
  | .certificate => contextConstructed 1

def marshalX509Choice (tag : Tag) (choice : X509Choice) : Tlv :=
  .constructed tag [.constructed (x509ChoiceArmTag choice.kind) [choice.data]]

/-- The X.509 object of a CHOICE arm: nested as a SEQUENCE, or with its fields as siblings. -/
def x509ChoiceArmObject (arm : Tlv) : Except Error Tlv :=
  match arm.children with
  | [] => .error (.message "asn1: X.509 CHOICE arm does not carry an X.509 object")
  | [child] =>
      if child.tag = tagSequence then .ok child
      else .error (.message "asn1: X.509 CHOICE arm does not carry an X.509 object")
  | children => .ok (.constructed tagSequence children)

def unmarshalX509Choice (tlv : Tlv) : Except Error X509Choice :=
  match tlv.children with
  | [arm] =>
      if arm.tag = contextConstructed 0 then do
        return ⟨.subjectPublicKeyInfo, ← x509ChoiceArmObject arm⟩
      else if arm.tag = contextConstructed 1 then do
        return ⟨.certificate, ← x509ChoiceArmObject arm⟩
      else .error (.message "asn1: X.509 choice missing A0/A1 CHOICE wrapper")
  | _ => .error (.message "asn1: X.509 choice must contain exactly one child")

section

variable (B : Bertlv)

def EimConfigurationData.marshalChildren (e : EimConfigurationData) : Except Error (List Tlv) := do
  let eimFQDN ← optionalChild e.eimFQDN fun v => .ok (utf8TLV (context 1) v)
  let eimIDType ← optionalChild e.eimIDType (integerTLV B (context 2))
  let counterValue ← optionalChild e.counterValue (integerTLV B (context 3))
  let associationToken ← optionalChild e.associationToken (integerTLV B (context 4))
  let eimPublicKeyData ← optionalChild e.eimPublicKeyData fun v =>
    .ok (marshalX509Choice (contextConstructed 5) v)
  let trustedPublicKeyDataTLS ← optionalChild e.trustedPublicKeyDataTLS fun v =>
    .ok (marshalX509Choice (contextConstructed 6) v)
  let eimSupportedProtocol ← optionalChild e.eimSupportedProtocol fun v =>
    .ok (bitStringTLV (context 7) v)
  let euiccCIPKID ← optionalChild e.euiccCIPKID fun v => .ok (octetTLV (context 8) v)
  let proprietary ← optionalChild e.esipaProprietaryProtocolInformation .ok
  return [utf8TLV (context 0) e.eimID] ++ eimFQDN ++ eimIDType ++ counterValue ++
    associationToken ++ eimPublicKeyData ++ trustedPublicKeyDataTLS ++ eimSupportedProtocol ++
    euiccCIPKID ++ (if e.indirectProfileDownload then [nullTLV (context 9)] else []) ++ proprietary

def EimConfigurationData.marshalBERTLV (e : EimConfigurationData) : Except Error Tlv := do
  return .constructed tagSequence (← e.marshalChildren B)

def EimConfigurationData.unmarshalBERTLV (tlv : Tlv) : Except Error EimConfigurationData := do
  expectTag tlv tagSequence
  return {
    eimID := ← utf8Value (tlv.first (context 0))
    eimFQDN := ← optionalValue (tlv.first (context 1)) fun c => utf8Value c
    eimIDType := ← optionalValue (tlv.first (context 2)) fun c => integerValue B c
    counterValue := ← optionalValue (tlv.first (context 3)) fun c => integerValue B c
    associationToken := ← optionalValue (tlv.first (context 4)) fun c => integerValue B c
    eimPublicKeyData := ← optionalValue (tlv.first (contextConstructed 5)) unmarshalX509Choice
    trustedPublicKeyDataTLS :=
      ← optionalValue (tlv.first (contextConstructed 6)) unmarshalX509Choice
    eimSupportedProtocol := ← optionalValue (tlv.first (context 7)) fun c => bitStringValue c
    euiccCIPKID := ← optionalValue (tlv.first (context 8)) fun c => octetValue c
    indirectProfileDownload := (tlv.first (context 9)).isSome
    esipaProprietaryProtocolInformation := tlv.first (contextConstructed 10) }

/-! ## eIM configuration operations -/

inductive Eco where
  | addEIM (config : Option EimConfigurationData)
  | deleteEIM (eimID : Bytes)
  | updateEIM (config : Option EimConfigurationData)
  | listEIM
deriving DecidableEq

def marshalTaggedEimConfig (tag : Tag) : Option EimConfigurationData → Except Error Tlv
  | none => .error (.message "asn1: missing EimConfigurationData")
  | some config => do return .constructed tag (← config.marshalChildren B)

def unmarshalTaggedEimConfig (tlv : Tlv) : Except Error EimConfigurationData :=
  EimConfigurationData.unmarshalBERTLV B (.constructed tagSequence tlv.children)

def Eco.marshalBERTLV : Eco → Except Error Tlv
  | .addEIM config => marshalTaggedEimConfig B (contextConstructed 8) config
  | .deleteEIM eimID => .ok (.constructed (contextConstructed 9) [utf8TLV (context 0) eimID])
  | .updateEIM config => marshalTaggedEimConfig B (contextConstructed 10) config
  | .listEIM => .ok (.constructed (contextConstructed 11) [])

def Eco.unmarshalBERTLV (tlv : Tlv) : Except Error Eco :=
  if tlv.tag = contextConstructed 8 then do
    return .addEIM (← unmarshalTaggedEimConfig B tlv)
  else if tlv.tag = contextConstructed 9 then do
    return .deleteEIM (← utf8Value (tlv.first (context 0)))
  else if tlv.tag = contextConstructed 10 then do
    return .updateEIM (← unmarshalTaggedEimConfig B tlv)
  else if tlv.tag = contextConstructed 11 then .ok .listEIM
  else .error (.unknownTag "ECO" tlv.tag)

/-! ## Profile state management operations -/

structure ConfigureImmediateEnable where
  immediateEnableFlag : Bool
  defaultSMDPOID : ObjectIdentifier
  defaultSMDPAddress : Option Bytes
deriving DecidableEq

structure SetDefaultDPAddressRequest where
  defaultDPAddress : Bytes
deriving DecidableEq

inductive Psmo where
  | enable (iccid : Bytes) (rollbackFlag : Bool)
  | disable (iccid : Bytes)
  | delete (iccid : Bytes)
  | listProfileInfo (request : Option Tlv)
  | getRAT
  | configureImmediateEnable (value : Option ConfigureImmediateEnable)
  | setFallbackAttribute (iccid : Bytes)
  | unsetFallbackAttribute
  | setDefaultDPAddress (request : Option SetDefaultDPAddressRequest)
deriving DecidableEq

def lengthBytes (length : Nat) : Bytes :=
  if length < 0x80 then [UInt8.ofNat length]
  else if length ≤ 0xff then [0x81, UInt8.ofNat length]
  else [0x82, UInt8.ofNat (length / 256), UInt8.ofNat length]

def tagOID : Tag := TagClass.universal.primitive 6

/-- `stdasn1.Marshal` of an identifier. -/
def marshalOID (oid : ObjectIdentifier) : Option Bytes :=
  (marshalObjectIdentifier oid).bind fun contents => Ber.encode (.primitive tagOID contents)

/-- The encoded identifier is taken apart again by `parseTLV`. -/
def oidTLV (tag : Tag) (oid : ObjectIdentifier) : Except Error Tlv :=
  match marshalOID oid with
  | none => .error (.message "asn1: structure error: invalid object identifier")
  | some der => do
      let tlv ← parseTLV B der
      expectTag tlv tagOID
      return .primitive tag tlv.value

def oidValue : Option Tlv → Except Error ObjectIdentifier
  | none => .error (.message "asn1: missing OBJECT IDENTIFIER")
  | some tlv =>
      match unmarshalObjectIdentifier (0x06 :: lengthBytes tlv.value.length ++ tlv.value) with
      | none => .error (.message "asn1: OBJECT IDENTIFIER")
      | some (oid, []) => .ok oid
      | some (_, _ :: _) => .error (.message "asn1: trailing OBJECT IDENTIFIER data")

def marshalConfigureImmediateEnable : Option ConfigureImmediateEnable → Except Error Tlv
  | none => .ok (.constructed (contextConstructed 7) [])
  | some value => do
      let oid ← optionalChild
        (if value.defaultSMDPOID = [] then none else some value.defaultSMDPOID)
        (oidTLV B (context 1))
      let address ← optionalChild value.defaultSMDPAddress fun v => .ok (utf8TLV (context 2) v)
      return .constructed (contextConstructed 7)
        ((if value.immediateEnableFlag then [nullTLV (context 0)] else []) ++ oid ++ address)

def unmarshalConfigureImmediateEnable (tlv : Tlv) : Except Error ConfigureImmediateEnable := do
  let oid ← optionalValue (tlv.first (context 1)) fun c => oidValue c
  let address ← optionalValue (tlv.first (context 2)) fun c => utf8Value c
  return ⟨(tlv.first (context 0)).isSome, oid.getD [], address⟩

def SetDefaultDPAddressRequest.marshalBERTLV (r : SetDefaultDPAddressRequest) : Tlv :=
  .constructed tagSetDefaultDPAddress [utf8TLV tagUTF8 r.defaultDPAddress]

def SetDefaultDPAddressRequest.unmarshalBERTLV (tlv : Tlv) :
    Except Error SetDefaultDPAddressRequest := do
  expectTag tlv tagSetDefaultDPAddress
  match tlv.children with
  | [child] => return ⟨← utf8Value child⟩
  | _ => throw (.message "asn1: SetDefaultDPAddressRequest requires one child")

def Psmo.marshalBERTLV : Psmo → Except Error Tlv
  | .enable iccid rollbackFlag =>
      .ok (.constructed (contextConstructed 3)
        ([octetTLV tagEID iccid] ++ if rollbackFlag then [nullTLV tagNull] else []))
  | .disable iccid => .ok (.constructed (contextConstructed 4) [octetTLV tagEID iccid])
  | .delete iccid => .ok (.constructed (contextConstructed 5) [octetTLV tagEID iccid])
  | .listProfileInfo none => .error (.message "asn1: missing ProfileInfoListRequest TLV")
  | .listProfileInfo (some request) => .ok request
  | .getRAT => .ok (.constructed (contextConstructed 6) [])
  | .configureImmediateEnable value => marshalConfigureImmediateEnable B value
  | .setFallbackAttribute iccid =>
      .ok (.constructed (contextConstructed 8) [octetTLV tagEID iccid])
  | .unsetFallbackAttribute => .ok (.constructed (contextConstructed 9) [])
  | .setDefaultDPAddress none => .error (.message "asn1: missing SetDefaultDPAddressRequest")
  | .setDefaultDPAddress (some request) => .ok request.marshalBERTLV

def Psmo.unmarshalBERTLV (tlv : Tlv) : Except Error Psmo :=
  if tlv.tag = contextConstructed 3 then do
    return .enable (← octetValue (tlv.first tagEID)) (tlv.first tagNull).isSome
  else if tlv.tag = contextConstructed 4 then do
    return .disable (← octetValue (tlv.first tagEID))
  else if tlv.tag = contextConstructed 5 then do
    return .delete (← octetValue (tlv.first tagEID))
  else if tlv.tag = tagProfileInfoList then .ok (.listProfileInfo (some tlv))
  else if tlv.tag = contextConstructed 6 then .ok .getRAT
  else if tlv.tag = contextConstructed 7 then do
    return .configureImmediateEnable (some (← unmarshalConfigureImmediateEnable tlv))
  else if tlv.tag = contextConstructed 8 then do
    return .setFallbackAttribute (← octetValue (tlv.first tagEID))
  else if tlv.tag = contextConstructed 9 then .ok .unsetFallbackAttribute
  else if tlv.tag = tagSetDefaultDPAddress then do
    return .setDefaultDPAddress (some (← SetDefaultDPAddressRequest.unmarshalBERTLV tlv))
  else .error (.unknownTag "PSMO" tlv.tag)

/-! ## Packages and signed requests -/

inductive EuiccPackage where
  | psmo (psmos : List Psmo)
  | eco (ecos : List Eco)
deriving DecidableEq

def EuiccPackage.marshalBERTLV : EuiccPackage → Except Error Tlv
  | .psmo psmos => do
      return .constructed (contextConstructed 0) (← psmos.mapM (Psmo.marshalBERTLV B))
  | .eco ecos => do
      return .constructed (contextConstructed 1) (← ecos.mapM (Eco.marshalBERTLV B))

def EuiccPackage.unmarshalBERTLV : Option Tlv → Except Error EuiccPackage
  | none => .error (.message "asn1: missing EuiccPackage")
  | some tlv =>
      if tlv.tag = contextConstructed 0 then do
        return .psmo (← tlv.children.mapM Psmo.unmarshalBERTLV)
      else if tlv.tag = contextConstructed 1 then do
        return .eco (← tlv.children.mapM (Eco.unmarshalBERTLV B))
      else .error (.unknownTag "EuiccPackage" tlv.tag)

structure EuiccPackageSigned where
  eimID : Bytes
  eid : Bytes
  counterValue : Int
  eimTransactionID : Option Bytes
  euiccPackage : EuiccPackage
deriving DecidableEq

def EuiccPackageSigned.marshalBERTLV (s : EuiccPackageSigned) : Except Error Tlv := do
  let counter ← integerTLV B (context 1) s.counterValue
  let pkg ← s.euiccPackage.marshalBERTLV B
  let transactionID ← optionalChild s.eimTransactionID fun v => .ok (octetTLV (context 2) v)
  return .constructed tagSequence
    ([utf8TLV (context 0) s.eimID, octetTLV tagEID s.eid, counter] ++ transactionID ++ [pkg])

def EuiccPackageSigned.unmarshalBERTLV (tlv : Tlv) : Except Error EuiccPackageSigned := do
  expectTag tlv tagSequence
  return {
    eimID := ← utf8Value (tlv.first (context 0))
    eid := ← octetValue (tlv.first tagEID)
    counterValue := ← integerValue B (tlv.first (context 1))
    eimTransactionID := (tlv.first (context 2)).map Tlv.value
    euiccPackage := ← EuiccPackage.unmarshalBERTLV B
      ((tlv.first (contextConstructed 0)).or (tlv.first (contextConstructed 1))) }

structure EuiccPackageRequest where
  euiccPackageSigned : EuiccPackageSigned
  eimSignature : Bytes
deriving DecidableEq

def EuiccPackageRequest.marshalBERTLV (r : EuiccPackageRequest) : Except Error Tlv := do
  let signed ← r.euiccPackageSigned.marshalBERTLV B
  return .constructed tagEuiccPkg [signed, octetTLV tagSignature r.eimSignature]

def EuiccPackageRequest.unmarshalBERTLV (tlv : Tlv) : Except Error EuiccPackageRequest := do
  expectTag tlv tagEuiccPkg
  match tlv.children with
  | signed :: _ :: _ =>
      return {
        euiccPackageSigned := ← EuiccPackageSigned.unmarshalBERTLV B signed
        eimSignature := ← octetValue (tlv.first tagSignature) }
  | _ => throw (.message "asn1: EuiccPackageRequest requires signed data and signature")

end

end OpenIotRsp.Asn1
