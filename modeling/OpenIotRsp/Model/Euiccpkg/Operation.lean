import OpenIotRsp.Library.Hex
import OpenIotRsp.Model.Asn1.Result

/-!
# Domain operations and results

`euiccpkg/operation.go`, `euiccpkg/errors.go` and the part of
`euiccpkg/service.go` that maps the result data of a single-operation package
to a domain result.
-/

namespace OpenIotRsp.Euiccpkg

open Octets Ber Asn1

/-! ## Operations -/

inductive OperationKind where
  | none
  | enable
  | disable
  | delete
  | listProfileInfo
  | getRAT
  | configureImmediateEnable
  | setFallbackAttribute
  | unsetFallbackAttribute
  | setDefaultDPAddress
  | addEIM
  | deleteEIM
  | updateEIM
  | listEIM
deriving DecidableEq

def OperationKind.string : OperationKind → String
  | .none => "none"
  | .enable => "enable"
  | .disable => "disable"
  | .delete => "delete"
  | .listProfileInfo => "list-profile-info"
  | .getRAT => "get-rat"
  | .configureImmediateEnable => "configure-immediate-enable"
  | .setFallbackAttribute => "set-fallback-attribute"
  | .unsetFallbackAttribute => "unset-fallback-attribute"
  | .setDefaultDPAddress => "set-default-dp-address"
  | .addEIM => "add-eim"
  | .deleteEIM => "delete-eim"
  | .updateEIM => "update-eim"
  | .listEIM => "list-eim"

def OperationKind.resultTag : OperationKind → Nat
  | .enable => 3
  | .disable => 4
  | .delete => 5
  | .listProfileInfo => 45
  | .getRAT => 6
  | .configureImmediateEnable => 7
  | .setFallbackAttribute => 13
  | .unsetFallbackAttribute => 14
  | .setDefaultDPAddress => 101
  | .addEIM => 8
  | .deleteEIM => 9
  | .updateEIM => 10
  | .listEIM => 11
  | .none => 0

def psmoOperation : Psmo → OperationKind × Bytes
  | .enable iccid _ => (.enable, iccid)
  | .disable iccid => (.disable, iccid)
  | .delete iccid => (.delete, iccid)
  | .listProfileInfo _ => (.listProfileInfo, [])
  | .getRAT => (.getRAT, [])
  | .configureImmediateEnable _ => (.configureImmediateEnable, [])
  | .setFallbackAttribute iccid => (.setFallbackAttribute, iccid)
  | .unsetFallbackAttribute => (.unsetFallbackAttribute, [])
  | .setDefaultDPAddress _ => (.setDefaultDPAddress, [])

/-- The operation of a package with exactly one PSMO, and its ICCID. -/
def packagePSMO : EuiccPackage → OperationKind × Bytes
  | .psmo [psmo] => psmoOperation psmo
  | _ => (.none, [])

def ecoOperation : Eco → OperationKind
  | .addEIM _ => .addEIM
  | .deleteEIM _ => .deleteEIM
  | .updateEIM _ => .updateEIM
  | .listEIM => .listEIM

/-- The operation of a package with exactly one eCO. -/
def packageECO : EuiccPackage → OperationKind × Option Eco
  | .eco [eco] => (ecoOperation eco, some eco)
  | _ => (.none, none)

/-! ## Result codes -/

inductive ResultCode where
  | ok
  | iccidOrAIDNotFound
  | profileNotInDisabledState
  | profileNotInEnabledState
  | disallowedByPolicy
  | catBusy
  | insufficientMemory
  | commandError
  | incorrectInputValues
  | profileChangeOngoing
  | rollbackNotAvailable
  | returnFallbackProfile
  | fallbackNotAllowed
  | fallbackProfileEnabled
  | noFallbackAttribute
  | undefinedError
  | unknown
deriving DecidableEq

inductive ECOResultCode where
  | ok
  | insufficientMemory
  | associatedEIMAlreadyExists
  | ciPKUnknown
  | invalidAssociationToken
  | counterValueOutOfRange
  | commandError
  | eimNotFound
  | lastEIMDeleted
  | undefinedError
  | unknown
deriving DecidableEq

inductive PackageError where
  | invalidEID
  | replay
  | counterValueOutOfRange
  | sizeOverflow
  | eCallActive
  | undefined
  | unknown
deriving DecidableEq

inductive UnsignedPackageError where
  | sizeOverflow
  | undefined
  | missing
  | unknown
deriving DecidableEq

def mapOperationResult : OperationKind → Int → ResultCode
  | _, 0 => .ok
  | .enable, 1 => .iccidOrAIDNotFound
  | .enable, 2 => .profileNotInDisabledState
  | .enable, 3 => .disallowedByPolicy
  | .enable, 5 => .catBusy
  | .enable, 20 => .rollbackNotAvailable
  | .enable, 127 => .undefinedError
  | .disable, 1 => .iccidOrAIDNotFound
  | .disable, 2 => .profileNotInEnabledState
  | .disable, 3 => .disallowedByPolicy
  | .disable, 5 => .catBusy
  | .disable, 127 => .undefinedError
  | .delete, 1 => .iccidOrAIDNotFound
  | .delete, 2 => .profileNotInDisabledState
  | .delete, 3 => .disallowedByPolicy
  | .delete, 20 => .rollbackNotAvailable
  | .delete, 21 => .returnFallbackProfile
  | .delete, 127 => .undefinedError
  | .listProfileInfo, 1 => .incorrectInputValues
  | .listProfileInfo, 11 => .profileChangeOngoing
  | .listProfileInfo, 127 => .undefinedError
  | .configureImmediateEnable, 1 => .insufficientMemory
  | .configureImmediateEnable, 7 => .commandError
  | .configureImmediateEnable, 127 => .undefinedError
  | .setFallbackAttribute, 1 => .iccidOrAIDNotFound
  | .setFallbackAttribute, 2 => .fallbackNotAllowed
  | .setFallbackAttribute, 3 => .fallbackProfileEnabled
  | .setFallbackAttribute, 127 => .undefinedError
  | .unsetFallbackAttribute, 2 => .noFallbackAttribute
  | .unsetFallbackAttribute, 3 => .fallbackProfileEnabled
  | .unsetFallbackAttribute, 7 => .commandError
  | .unsetFallbackAttribute, 127 => .undefinedError
  | .setDefaultDPAddress, 127 => .undefinedError
  | _, _ => .unknown

def mapAddEIMResult : Int → ECOResultCode
  | 0 => .ok
  | 1 => .insufficientMemory
  | 2 => .associatedEIMAlreadyExists
  | 3 => .ciPKUnknown
  | 5 => .invalidAssociationToken
  | 6 => .counterValueOutOfRange
  | 7 => .commandError
  | 127 => .undefinedError
  | _ => .unknown

def mapDeleteEIMResult : Int → ECOResultCode
  | 0 => .ok
  | 1 => .eimNotFound
  | 2 => .lastEIMDeleted
  | 7 => .commandError
  | 127 => .undefinedError
  | _ => .unknown

def mapUpdateEIMResult : Int → ECOResultCode
  | 0 => .ok
  | 1 => .eimNotFound
  | 3 => .ciPKUnknown
  | 6 => .counterValueOutOfRange
  | 7 => .commandError
  | 127 => .undefinedError
  | _ => .unknown

def mapListEIMResult : Int → ECOResultCode
  | 127 => .undefinedError
  | _ => .unknown

def mapPackageError : Int → PackageError
  | 3 => .invalidEID
  | 4 => .replay
  | 6 => .counterValueOutOfRange
  | 15 => .sizeOverflow
  | 104 => .eCallActive
  | 127 => .undefined
  | _ => .unknown

def mapUnsignedPackageError : Int → UnsignedPackageError
  | 15 => .sizeOverflow
  | 127 => .undefined
  | _ => .unknown

end OpenIotRsp.Euiccpkg
