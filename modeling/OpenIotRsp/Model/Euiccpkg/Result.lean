import OpenIotRsp.Model.Euiccpkg.Operation

/-!
# Domain results

The part of `euiccpkg/service.go` that reads the result data of a package as
the result of its single operation.
-/

namespace OpenIotRsp.Euiccpkg

open Octets Ber Asn1

structure EIMInfo where
  eimID : Bytes
  eimIDType : Option Int
deriving DecidableEq

/-- A profile as `listProfileInfo` reports it, with the ICCID in hexadecimal. -/
structure ProfileInfo where
  iccid : Bytes
  isEnabled : Bool
  isFallback : Bool
deriving DecidableEq

/-- A code that the result leaves at its zero value is absent. -/
structure Result where
  ok : Bool := false
  operation : OperationKind := .none
  resultCode : Option ResultCode := none
  ecoResultCode : Option ECOResultCode := none
  rawResultCode : Int := 0
  addEIMAssociationToken : Option Int := none
  lastEIMDeleted : Bool := false
  eims : List EIMInfo := []
  profiles : List ProfileInfo := []
  rulesAuthorisationTable : Option Tlv := none
  packageError : Option PackageError := none
  rawPackageError : Int := 0
  unsignedPackageError : Option UnsignedPackageError := none
  rawUnsignedError : Int := 0
deriving DecidableEq

section

variable (B : Bertlv)

/-! ## PSMO results -/

def integerResult (tlv : Tlv) : Except Error Int :=
  match B.unmarshalInt tlv with
  | some value => .ok value
  | none => .error (.message "primitive: unmarshal INTEGER")

def integerOperationResult (operation : OperationKind) (raw : Tlv) : Except Error Result := do
  let value ← integerResult B raw
  let code := mapOperationResult operation value
  return { ok := code = .ok, operation := operation, resultCode := code, rawResultCode := value }

def resultDataByTag (results : List EuiccResultData) (wantTag : Nat) : Option Tlv :=
  (results.find? fun r => r.raw.tag.isContextSpecific ∧ r.raw.tag.number = wantTag).map (·.raw)

/-- The sole result when it carries the base type INTEGER in place of the alternative's tag. -/
def baseTypeIntegerResult (operation : OperationKind) (results : List EuiccResultData) :
    Option Tlv :=
  match operation with
  | .listProfileInfo | .getRAT | .setDefaultDPAddress => none
  | _ =>
      match results with
      | [r] => if r.raw.tag = tagInteger then some r.raw else none
      | _ => none

/-- Profiles without an ICCID are passed over. -/
def domainProfile (profile : Asn1.ProfileInfo) : Option ProfileInfo :=
  match profile.iccid.getD [] with
  | [] => none
  | b :: bs =>
      some ⟨Hex.encode (b :: bs), profile.profileState = some profileStateEnabled,
        profile.fallbackAttribute⟩

def listProfileInfoResult (raw : Tlv) : Except Error Result := do
  let decoded ← ProfileInfoListResponse.unmarshalBERTLV B raw
  match decoded.error with
  | some value =>
      return {
        operation := .listProfileInfo
        resultCode := mapOperationResult .listProfileInfo value
        rawResultCode := value }
  | none =>
      return {
        ok := true
        operation := .listProfileInfo
        resultCode := ResultCode.ok
        profiles := decoded.profiles.filterMap domainProfile }

def setDefaultDPAddressResult (raw : Tlv) : Except Error Result := do
  let decoded ← SetDefaultDPAddressResponse.unmarshalBERTLV B raw
  let code := mapOperationResult .setDefaultDPAddress decoded.result
  return {
    ok := code = .ok
    operation := .setDefaultDPAddress
    resultCode := code
    rawResultCode := decoded.result }

def psmoOperationResult (operation : OperationKind) (results : List EuiccResultData) :
    Except Error Result :=
  match resultDataByTag results operation.resultTag with
  | some raw =>
      match operation with
      | .listProfileInfo => listProfileInfoResult B raw
      | .getRAT =>
          .ok {
            ok := true
            operation := operation
            resultCode := ResultCode.ok
            rulesAuthorisationTable := raw }
      | .setDefaultDPAddress => setDefaultDPAddressResult B raw
      | _ => integerOperationResult B operation raw
  | none =>
      match baseTypeIntegerResult operation results with
      | some raw => integerOperationResult B operation raw
      | none => .error (.resultNotFound operation.string)

/-! ## eCO results -/

def explicitResultChild (raw : Tlv) (tag : Nat) : Except Error Tlv :=
  if raw.tag.isContextSpecific ∧ raw.tag.number = tag then
    match raw.children with
    | [child] => .ok child
    | _ => .error (.message "euiccpkg: explicit ECO result must contain one child")
  else .error (.message "euiccpkg: result tag")

def addEIMResult (raw : Tlv) : Except Error Result := do
  let child ← explicitResultChild raw 8
  match ← AddEimResult.unmarshalBERTLV B child with
  | .associationToken token =>
      return {
        ok := true
        operation := .addEIM
        ecoResultCode := ECOResultCode.ok
        addEIMAssociationToken := token }
  | .code value =>
      let code := mapAddEIMResult value
      return { ok := code = .ok, operation := .addEIM, ecoResultCode := code, rawResultCode := value }

def deleteEIMResult (raw : Tlv) : Except Error Result := do
  let value ← integerResult B raw
  let code := mapDeleteEIMResult value
  return {
    ok := code = .ok ∨ code = .lastEIMDeleted
    operation := .deleteEIM
    ecoResultCode := code
    rawResultCode := value
    lastEIMDeleted := code = .lastEIMDeleted }

def updateEIMResult (raw : Tlv) : Except Error Result := do
  let value ← integerResult B raw
  let code := mapUpdateEIMResult value
  return { ok := code = .ok, operation := .updateEIM, ecoResultCode := code, rawResultCode := value }

def listEIMResult (raw : Tlv) : Except Error Result := do
  let child ← explicitResultChild raw 11
  match ← ListEimResult.unmarshalBERTLV B child with
  | .error value =>
      return { operation := .listEIM, ecoResultCode := mapListEIMResult value, rawResultCode := value }
  | .eimIDList list =>
      return {
        ok := true
        operation := .listEIM
        ecoResultCode := ECOResultCode.ok
        eims := list.map fun item => ⟨item.eimID, item.eimIDType⟩ }

def ecoOperationResult (operation : OperationKind) (results : List EuiccResultData) :
    Except Error Result :=
  match resultDataByTag results operation.resultTag with
  | none => .error (.resultNotFound operation.string)
  | some raw =>
      match operation with
      | .addEIM => addEIMResult B raw
      | .deleteEIM => deleteEIMResult B raw
      | .updateEIM => updateEIMResult B raw
      | .listEIM => listEIMResult B raw
      | _ => .error (.message "euiccpkg: unsupported ECO operation")

/-- `operationResult`, also exported as `ParseOperationResult`: a package that is not a single
operation has nothing to report. -/
def operationResult (pkg : EuiccPackage) (results : List EuiccResultData) : Except Error Result :=
  if (packagePSMO pkg).1 ≠ .none then psmoOperationResult B (packagePSMO pkg).1 results
  else if (packageECO pkg).1 ≠ .none then ecoOperationResult B (packageECO pkg).1 results
  else .ok { ok := true, operation := .none, resultCode := ResultCode.ok }

end

end OpenIotRsp.Euiccpkg
