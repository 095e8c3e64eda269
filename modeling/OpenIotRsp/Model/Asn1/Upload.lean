import OpenIotRsp.Model.Asn1.Esipa

/-!
# Results at the IPA

The other direction of `asn1/result.go`: the results of operations, as the IPA
writes them.
-/

namespace OpenIotRsp.Asn1

open Octets Ber

section

variable (B : Bertlv)

def integerEuiccResult (tagNumber : Nat) (value : Int) : Except Error EuiccResultData := do
  return ⟨← integerTLV B (context tagNumber) value⟩

def SetDefaultDPAddressResponse.marshalBERTLV (r : SetDefaultDPAddressResponse) :
    Except Error Tlv := do
  return .constructed tagSetDefaultDPAddress [← integerTLV B tagInteger r.result]

def setDefaultDPAddressEuiccResult (result : SetDefaultDPAddressResponse) :
    Except Error EuiccResultData := do
  return ⟨← result.marshalBERTLV B⟩

def profileStateDisabled : Int := 0

/-- The fallback attribute is written where it is set. -/
def ProfileInfo.marshalBERTLV (p : ProfileInfo) : Except Error Tlv := do
  let state ← optionalChild p.profileState (integerTLV B tagProfileState)
  let fallback ← optionalChild (if p.fallbackAttribute then some true else none)
    (booleanTLV B tagFallbackAttribute)
  return .constructed tagProfileInfo (p.iccid.toList.map (octetTLV tagEID) ++ state ++ fallback)

def ProfileInfoListResponse.marshalBERTLV (r : ProfileInfoListResponse) : Except Error Tlv :=
  match r.error with
  | some code => do return .constructed tagProfileInfoList [← integerTLV B tagInteger code]
  | none => do
      return .constructed tagProfileInfoList
        [.constructed tagSequence (← r.profiles.mapM (ProfileInfo.marshalBERTLV B))]

def profileInfoListEuiccResult (result : ProfileInfoListResponse) :
    Except Error EuiccResultData := do
  return ⟨← result.marshalBERTLV B⟩

def AddEimResult.marshalBERTLV : AddEimResult → Except Error Tlv
  | .associationToken token => integerTLV B (context 4) token
  | .code value => integerTLV B tagInteger value

def addEimEuiccResult (result : AddEimResult) : Except Error EuiccResultData := do
  return ⟨.constructed (contextConstructed 8) [← result.marshalBERTLV B]⟩

def EimIDInfo.marshalBERTLV (i : EimIDInfo) : Except Error Tlv := do
  let idType ← optionalChild i.eimIDType (integerTLV B (context 2))
  return .constructed tagSequence ([utf8TLV (context 0) i.eimID] ++ idType)

def ListEimResult.marshalBERTLV : ListEimResult → Except Error Tlv
  | .error value => integerTLV B tagInteger value
  | .eimIDList list => do
      return .constructed tagSequence (← list.mapM (EimIDInfo.marshalBERTLV B))

def listEimEuiccResult (result : ListEimResult) : Except Error EuiccResultData := do
  return ⟨.constructed (contextConstructed 11) [← result.marshalBERTLV B]⟩

end

end OpenIotRsp.Asn1
