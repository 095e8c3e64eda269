import OpenIotRsp.Library.Base64
import OpenIotRsp.Model.Euiccpkg.Service
import OpenIotRsp.Model.Profiledownload

/-!
# The northbound API

`api/handler.go`: the requests that queue an eUICC package, those for the
initial configuration and association of an eIM, and the batch request for
profile downloads.  A request is given by the fields of its path and its JSON
body; the random transaction identifiers are arguments.
-/

namespace OpenIotRsp.Api

open Octets Ber Stateful Asn1 Storage Euiccpkg Text

/-! ## Fields -/

def iccidLength : Nat := 10

/-- The normalized text of an EID, and its octets. -/
def parseEID (value : Bytes) : Except Error (Bytes × Bytes) :=
  let normalized := toLower (trimSpace value)
  match Hex.decode normalized with
  | some octets =>
      if octets.length = 16 then .ok (normalized, octets)
      else .error (.message "api: EID must be 32 hex characters")
  | none => .error (.message "api: EID must be 32 hex characters")

def parseEIMID (value : Bytes) : Except Error Bytes :=
  let normalized := trimSpace value
  if normalized = [] then .error (.message "api: eimId must be non-empty")
  else if 128 < normalized.length then
    .error (.message "api: eimId must be at most 128 characters")
  else .ok normalized

def parseArc (part : Bytes) : Except Error Nat :=
  if part = [] then .error (.message "api: defaultSmdpOid contains an empty arc")
  else
    match parseInt part with
    | some (.ofNat arc) => .ok arc
    | _ => .error (.message "api: defaultSmdpOid arcs must be non-negative integers")

def parseOID (value : Bytes) : Except Error ObjectIdentifier :=
  let value := trimSpace value
  if value = [] then .ok []
  else
    let parts := splitOn 0x2e value
    if parts.length < 2 then
      .error (.message "api: defaultSmdpOid must have at least two arcs")
    else do
      let oid ← parts.mapM parseArc
      if 2 < oid.getD 0 0 then
        throw (.message "api: defaultSmdpOid first arc must be 0, 1, or 2")
      if oid.getD 0 0 < 2 ∧ 39 < oid.getD 1 0 then
        throw (.message
          "api: defaultSmdpOid second arc must be <= 39 when first arc is 0 or 1")
      return oid

def parseICCID (value : Bytes) : Except Error Bytes :=
  match Hex.decode (trimSpace value) with
  | some octets =>
      if octets.length = iccidLength then .ok octets
      else .error (.message "api: ICCID must be 10 hex-encoded bytes")
  | none => .error (.message "api: ICCID must be 10 hex-encoded bytes")

def decodeBase64Field (name : String) (value : Bytes) : Except Error Bytes :=
  match Base64.decode (trimSpace value) with
  | none => .error (.message ("api: " ++ name ++ " must be base64"))
  | some [] => .error (.message ("api: " ++ name ++ " must not be empty"))
  | some (b :: bs) => .ok (b :: bs)

/-! ## eIM configurations -/

structure EimConfigRequest where
  eimID : Bytes := []
  eimFQDN : Bytes := []
  eimIDType : Option Int := none
  counterValue : Option Int := none
  associationToken : Option Int := none
  eimPublicKeyDataBase64 : Bytes := []
  eimCertificateBase64 : Bytes := []
  euiccCIPKIDBase64 : Bytes := []
deriving DecidableEq

variable (B : Bertlv) (S : Service)

namespace EimConfigRequest

variable (r : EimConfigRequest)

/-- The eIM that is meant: that of the path, else that of the body, else the service's own. -/
def target (pathEIMID : Bytes) : Except Error Bytes := do
  let eimID := trimSpace r.eimID
  if pathEIMID ≠ [] ∧ eimID ≠ [] ∧ eimID ≠ pathEIMID then
    throw (.message "api: body eimId must match path eimId")
  let eimID := if pathEIMID ≠ [] then pathEIMID else eimID
  let eimID := if eimID = [] then S.eimID else eimID
  let _ ← parseEIMID eimID
  return eimID

/-- The X.509 object of the request, else that of the service's own signer. -/
def x509 (eimID : Bytes) : Except Error (X509ChoiceKind × Bytes) :=
  if trimSpace r.eimPublicKeyDataBase64 ≠ [] then do
    return (.subjectPublicKeyInfo,
      ← decodeBase64Field "eimPublicKeyDataBase64" r.eimPublicKeyDataBase64)
  else if trimSpace r.eimCertificateBase64 ≠ [] then do
    return (.certificate, ← decodeBase64Field "eimCertificateBase64" r.eimCertificateBase64)
  else if eimID = S.eimID ∧ S.signer.certificateDER ≠ [] then
    .ok (.certificate, S.signer.certificateDER)
  else if eimID = S.eimID then do return (.subjectPublicKeyInfo, ← S.signer.publicKeyDER)
  else .error (.message "api: missing eIM public key data")

/-- The optional fields, which are set last. -/
def withOptions (config : EimConfigurationData) : Except Error EimConfigurationData := do
  if r.eimIDType.any fun value => value < 1 ∨ 3 < value then
    throw (.message "api: eimIdType must be 1, 2, or 3")
  let euiccCIPKID ←
    if trimSpace r.euiccCIPKIDBase64 = [] then pure config.euiccCIPKID
    else some <$> decodeBase64Field "euiccCiPKIdBase64" r.euiccCIPKIDBase64
  return { config with
    eimIDType := r.eimIDType.or config.eimIDType
    associationToken := r.associationToken.or config.associationToken
    euiccCIPKID := euiccCIPKID }

def config (pathEIMID : Bytes) : Except Error EimConfigurationData := do
  let eimID ← r.target S pathEIMID
  let counter := r.counterValue.getD 1
  if counter < 0 then throw (.message "api: counterValue must be non-negative")
  if trimSpace r.eimPublicKeyDataBase64 ≠ [] ∧ trimSpace r.eimCertificateBase64 ≠ [] then
    throw (.message
      "api: provide either eimPublicKeyDataBase64 or eimCertificateBase64, not both")
  let (kind, der) ← r.x509 S eimID
  r.withOptions (← newEIMConfigurationData B eimID (trimSpace r.eimFQDN) counter kind der)

end EimConfigRequest

/-! ## Package requests -/

/-- The requests that queue a package, with their path and body fields other than the EID. -/
inductive PackageRequest where
  | enableProfile (iccid : Bytes) (rollback : Bool)
  | disableProfile (iccid : Bytes)
  | deleteProfile (iccid : Bytes)
  | setFallbackAttribute (iccid : Bytes)
  | unsetFallbackAttribute
  | listProfileInfo
  | getRAT
  | configureImmediateEnable (immediateEnableFlag : Bool)
      (defaultSMDPOID defaultSMDPAddress : Bytes)
  | setDefaultDPAddress (defaultDPAddress : Bytes)
  | addEIM (request : EimConfigRequest)
  | updateEIM (eimID : Bytes) (request : EimConfigRequest)
  | deleteEIM (eimID : Bytes)
  | listEIM
deriving DecidableEq

/-- The package that a request builds from its fields. -/
def PackageRequest.package : PackageRequest → Except Error EuiccPackage
  | .enableProfile iccid rollback => do return enable (← parseICCID iccid) rollback
  | .disableProfile iccid => do return disable (← parseICCID iccid)
  | .deleteProfile iccid => do return delete (← parseICCID iccid)
  | .setFallbackAttribute iccid => do return Euiccpkg.setFallbackAttribute (← parseICCID iccid)
  | .unsetFallbackAttribute => .ok Euiccpkg.unsetFallbackAttribute
  | .listProfileInfo => .ok Euiccpkg.listProfileInfo
  | .getRAT => .ok Euiccpkg.getRAT
  | .configureImmediateEnable immediate oid address => do
      return Euiccpkg.configureImmediateEnable immediate (← parseOID oid) (trimSpace address)
  | .setDefaultDPAddress address =>
      if trimSpace address = [] then .error (.message "api: defaultDpAddress is required")
      else .ok (Euiccpkg.setDefaultDPAddress (trimSpace address))
  | .addEIM request => do return Euiccpkg.addEIM (← request.config B S [])
  | .updateEIM pathEIMID request => do
      let eimID ← parseEIMID pathEIMID
      return Euiccpkg.updateEIM (← request.config B S eimID)
  | .deleteEIM pathEIMID => do return Euiccpkg.deleteEIM (← parseEIMID pathEIMID)
  | .listEIM => .ok Euiccpkg.listEIM

/-- Sign a package and queue it. -/
def signAndEnqueue (input : SignInput) : StoreM Operation := do
  let signed ← sign B S input
  enqueueOperation input.tenantID ⟨input.eid, .euiccPackage, signed.der⟩

/-- What a request signs, once its fields have been read. -/
def signInput (tenantID : TenantID) (eid eidValue transactionID : Bytes) (pkg : EuiccPackage) :
    SignInput where
  tenantID := tenantID
  eid := eid
  eidValue := eidValue
  eimTransactionID := some transactionID
  package := pkg

/-- The fields of a profile operation are read before the device is registered. -/
def enqueueProfileOperation (tenantID : TenantID) (eid transactionID : Bytes)
    (build : Except Error EuiccPackage) : StoreM Operation := do
  let (eid, eidValue) ← ofExcept (parseEID eid)
  let pkg ← ofExcept build
  registerDevice tenantID eid
  signAndEnqueue B S (signInput tenantID eid eidValue transactionID pkg)

/-- The device is registered even if the package cannot be built. -/
def enqueueDeviceOperation (tenantID : TenantID) (eid transactionID : Bytes)
    (build : Except Error EuiccPackage) : StoreM Operation := do
  let (eid, eidValue) ← ofExcept (parseEID eid)
  registerDevice tenantID eid
  let pkg ← ofExcept build
  signAndEnqueue B S (signInput tenantID eid eidValue transactionID pkg)

/-- The eIM of the path is checked first of all. -/
def enqueueEIMOperation (tenantID : TenantID) (eid transactionID pathEIMID : Bytes)
    (build : Except Error EuiccPackage) : StoreM Operation := do
  let _ ← ofExcept (parseEIMID pathEIMID)
  enqueueDeviceOperation B S tenantID eid transactionID build

def handlePackageRequest (tenantID : TenantID) (eid transactionID : Bytes)
    (request : PackageRequest) : StoreM Operation :=
  match request with
  | .enableProfile _ _ | .disableProfile _ | .deleteProfile _ | .setFallbackAttribute _ =>
      enqueueProfileOperation B S tenantID eid transactionID (request.package B S)
  | .updateEIM pathEIMID _ | .deleteEIM pathEIMID =>
      enqueueEIMOperation B S tenantID eid transactionID pathEIMID (request.package B S)
  | _ => enqueueDeviceOperation B S tenantID eid transactionID (request.package B S)

/-! ## Initial configurations -/

def overlayInitialAssociationToken (config : EimConfigurationData) (token : Option Int) :
    EimConfigurationData :=
  { config with associationToken := token.or config.associationToken }

/-- A stored configuration of the eIM comes before that of the request. -/
def initialAssociationConfig (tenantID : TenantID) (request : EimConfigRequest) :
    StoreM EimConfigurationData := do
  let eimID := trimSpace request.eimID
  let eimID := if eimID = [] then S.eimID else eimID
  let _ ← ofExcept (parseEIMID eimID)
  match ← findRow (readEIMConfig tenantID eimID) with
  | some stored => do
      let config ← ofExcept
        (Asn1.decode B (EimConfigurationData.unmarshalBERTLV B) stored.data)
      return overlayInitialAssociationToken config request.associationToken
  | none => do
      let config ← ofExcept (request.config B S eimID)
      return overlayInitialAssociationToken config request.associationToken

/-- The device is registered once the configuration has been checked. -/
def recordInitialEIMAssociation (tenantID : TenantID) (eid : Bytes) (request : EimConfigRequest) :
    StoreM EimConfigurationData := do
  let (eid, _) ← ofExcept (parseEID eid)
  let config ← initialAssociationConfig B S tenantID request
  if config.associationToken = none then fail (.message "api: associationToken is required")
  ofExcept (validateInitialEIMConfigurationData config)
  registerDevice tenantID eid
  Euiccpkg.recordInitialEIMAssociation B tenantID eid config
  return config

/-! ## Profile downloads -/

/-- The error statuses of a profile download. -/
inductive Status where
  | badRequest
  | notFound
  | internalServerError
deriving DecidableEq

structure Refusal where
  status : Status
  error : Error
deriving DecidableEq

def storeErrorStatus : Error → Status
  | .notFound => .notFound
  | _ => .internalServerError

/-- A step whose failure is answered with a status. -/
def answering {α : Type} (status : Error → Status) (m : StoreM α) : Stateful Store Refusal α :=
  fun s =>
    match m s with
    | (.ok a, s') => (.ok a, s')
    | (.error e, s') => (.error ⟨status e, e⟩, s')

structure ProfileDownloadRequest where
  eid : Bytes := []
  eids : List Bytes := []
  activationCode : Bytes := []
  smdpAddress : Bytes := []
  matchingID : Bytes := []
  defaultSMDP : Bool := false
  smdsAddress : Option Bytes := none
deriving DecidableEq

namespace ProfileDownloadRequest

variable (r : ProfileDownloadRequest)

def targetEIDs : Except Error (List Bytes) :=
  let eid := trimSpace r.eid
  if eid ≠ [] ∧ r.eids ≠ [] then .error (.message "api: provide either eid or eids, not both")
  else if eid ≠ [] then .ok [eid]
  else if r.eids = [] then .error (.message "api: missing eid or eids")
  else r.eids.mapM fun value =>
    if trimSpace value = [] then .error (.message "api: eids contains an empty value")
    else .ok (trimSpace value)

def namesSMDP : Bool := trimSpace r.smdpAddress ≠ [] ∨ trimSpace r.matchingID ≠ []

/-- The number of download sources in the request. -/
def choices : Nat :=
  [decide (trimSpace r.activationCode ≠ []), r.namesSMDP, r.defaultSMDP,
    r.smdsAddress.isSome].count true

def trigger (transactionID : Bytes) : Except Error ProfileDownloadTriggerRequest :=
  if r.choices ≠ 1 then .error (.message "api: provide exactly one download source")
  else if trimSpace r.activationCode ≠ [] then
    Profiledownload.newActivationCodeTrigger (trimSpace r.activationCode) (some transactionID)
  else if r.namesSMDP then
    Profiledownload.newSMDPAddressTrigger (trimSpace r.smdpAddress) (trimSpace r.matchingID)
      (some transactionID)
  else if r.defaultSMDP then .ok (Profiledownload.newDefaultSMDPTrigger (some transactionID))
  else .ok (Profiledownload.newSMDSAddressTrigger (trimSpace (r.smdsAddress.getD []))
    (some transactionID))

end ProfileDownloadRequest

/-- One device of the batch is registered, then the trigger is built and queued for it. -/
def triggerTarget (tenantID : TenantID) (request : ProfileDownloadRequest)
    (transactionID target : Bytes) : Stateful Store Refusal Operation := do
  let (eid, _) ← answering (fun _ => .badRequest) (ofExcept (parseEID target))
  answering (fun _ => .internalServerError) (registerDevice tenantID eid)
  let trigger ← answering (fun _ => .badRequest) (ofExcept (request.trigger transactionID))
  answering storeErrorStatus (Profiledownload.enqueueTrigger B tenantID eid trigger)

/-- The devices of the batch from the given place on, each with a transaction identifier. -/
def triggerTargets (tenantID : TenantID) (request : ProfileDownloadRequest)
    (transactionIDs : Nat → Bytes) : Nat → List Bytes → Stateful Store Refusal (List Operation)
  | _, [] => return []
  | i, target :: targets => do
      let operation ← triggerTarget B tenantID request (transactionIDs i) target
      return operation :: (← triggerTargets tenantID request transactionIDs (i + 1) targets)

def triggerProfileDownload (tenantID : TenantID) (request : ProfileDownloadRequest)
    (transactionIDs : Nat → Bytes) : Stateful Store Refusal (List Operation) := do
  let targets ← answering (fun _ => .badRequest) (ofExcept request.targetEIDs)
  triggerTargets B tenantID request transactionIDs 0 targets

end OpenIotRsp.Api
