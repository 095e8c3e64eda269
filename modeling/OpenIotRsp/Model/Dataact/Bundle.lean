import Mathlib.Data.List.Sort
import OpenIotRsp.Library.Base64
import OpenIotRsp.Model.Dataact.Journal

/-!
# Export bundles

A bundle is a ZIP archive of entity files and a signed manifest that lists them
with their digests.  What `encoding/json` and `x509.ParseCertificate` read from
octets is a parameter.
-/

namespace OpenIotRsp.Dataact

open Octets Euiccpkg

/-! ## Records -/

structure DeviceRecord where
  eid : Bytes
  nextSequenceNumber : Int
  nextEUICCPackageCounter : Int
deriving DecidableEq

structure ProfileStateRecord where
  eid : Bytes
  iccid : Bytes
  isEnabled : Bool
  isFallback : Bool
  smdpAddress : Bytes
deriving DecidableEq

structure AssociatedEIMRecord where
  eid : Bytes
  eimID : Bytes
  eimIDType : Option Int
  configPayload : Bytes
deriving DecidableEq

structure EUICCStateRecord where
  eid : Bytes
  eidValue : Bytes := []
  defaultSMDPAddress : Bytes := []
  rootSMDSAddress : Bytes := []
  euiccInfo1 : Bytes := []
  euiccInfo2 : Bytes := []
  ipaCapabilities : Bytes := []
  deviceInfo : Bytes := []
  eumCertificate : Bytes := []
  euiccCertificate : Bytes := []
  /-- the JSON text of the list -/
  certificateIdentifiers : Bytes := []
  rawPayload : Bytes := []
deriving DecidableEq

structure OperationRecord where
  id : Int
  eid : Bytes
  sequenceNumber : Int
  kind : Bytes
  payload : Bytes
  status : Bytes
deriving DecidableEq

structure NotificationRecord where
  id : Int
  eid : Bytes
  kind : Bytes
  payload : Bytes
  sequenceNumber : Option Int
deriving DecidableEq

/-! ## Manifests and archives -/

structure ManifestFile where
  name : Bytes
  rows : Int
  sha256 : Bytes
deriving DecidableEq

structure Manifest where
  schemaVersion : Bytes
  exportID : Bytes
  tenantID : Bytes
  eimID : Bytes
  files : List ManifestFile
  journalChain : JournalChainAnchor
  bundleSHA256 : Bytes
  signature : Bytes
  certificateDER : Bytes
deriving DecidableEq

/-- A file of the archive, without content if it cannot be opened or read. -/
structure ZipFile where
  name : Bytes
  content : Option Bytes
deriving DecidableEq

abbrev Archive := List ZipFile

/-- The first file of the name. -/
def Archive.find (z : Archive) (name : Bytes) : Option ZipFile :=
  List.find? (fun file => file.name = name) z

/-- What `encoding/json` reads from octets, for each type. -/
structure Json where
  manifest : Bytes → Option Manifest
  device : Bytes → Option DeviceRecord
  profileState : Bytes → Option ProfileStateRecord
  associatedEIM : Bytes → Option AssociatedEIMRecord
  euiccState : Bytes → Option EUICCStateRecord
  operation : Bytes → Option OperationRecord
  notification : Bytes → Option NotificationRecord
  journal : Bytes → Option JournalRecord
  strings : Bytes → Option (List Bytes)

structure Certificate where
  raw : Bytes
  publicKey : PublicKey
deriving DecidableEq

def schemaVersion : Bytes := text "1.0.0"

def fileDevices : Bytes := text "devices.ndjson"
def fileProfileState : Bytes := text "profile_state.ndjson"
def fileAssociatedEIM : Bytes := text "associated_eim.ndjson"
def fileEUICCState : Bytes := text "euicc_state.ndjson"
def fileOperations : Bytes := text "operations.ndjson"
def fileNotifications : Bytes := text "notifications.ndjson"
def fileCommandJournal : Bytes := text "command_journal.ndjson"
def fileManifest : Bytes := text "manifest.json"

variable (C : Crypto) (J : Json) (parseCertificate : Bytes → Option Certificate)

/-! ## Digests -/

/-- The lines of a file that are not blank. -/
def ndjsonLines (payload : Bytes) : List Bytes :=
  ((Text.splitOn 0x0a payload).map Text.trimSpace).filter fun line => line ≠ []

def isNDJSON (name : Bytes) : Bool := (text ".ndjson").isSuffixOf name

/-- A digest that is not hexadecimal is left out. -/
def canonicalEntry (file : ManifestFile) : Bytes :=
  file.name ++ [0] ++ (Hex.decode file.sha256).getD []

def contentCanonical (files : List ManifestFile) : Bytes :=
  (files.insertionSort fun a b => a.name ≤ b.name).flatMap canonicalEntry

def contentDigest (files : List ManifestFile) : Bytes := C.sha256 (contentCanonical files)

/-- The digest of a file in hexadecimal and its number of rows. -/
def digestZipEntry (z : Archive) (name : Bytes) : Except Error (Bytes × Int) :=
  match z.find name with
  | none => .error (.message "dataact: file not found in bundle")
  | some file =>
      match file.content with
      | none => .error (.message "zip: cannot read file")
      | some payload =>
          .ok (Hex.encode (C.sha256 payload),
            if isNDJSON name then (ndjsonLines payload).length else 1)

/-! ## Validation -/

def readManifest (z : Archive) : Except Error Manifest :=
  match z.find fileManifest with
  | none => .error (.message "dataact: missing manifest in bundle")
  | some file =>
      match file.content with
      | none => .error (.message "dataact: open manifest")
      | some payload =>
          match J.manifest payload with
          | none => .error (.message "dataact: decode manifest")
          | some manifest => .ok manifest

def verifyManifestSignature (manifest : Manifest) (payload : Bytes)
    (trustCert : Option Certificate) : Except Error Unit :=
  match Base64.decode manifest.signature with
  | none => .error (.message "dataact: decode signature")
  | some sig =>
      match Base64.decode manifest.certificateDER with
      | none => .error (.message "dataact: decode certificate")
      | some certDER =>
          match parseCertificate certDER with
          | none => .error (.message "dataact: parse certificate")
          | some cert =>
              if trustCert.any fun trusted => cert.raw ≠ trusted.raw then
                .error (.message "dataact: manifest certificate does not match trusted certificate")
              else
                match cert.publicKey with
                | .unsupported => .error (.message "dataact: certificate public key is not ECDSA")
                | .ecdsa key =>
                    if C.verifyASN1 key (C.sha256 payload) sig then .ok ()
                    else .error (.message "dataact: invalid bundle signature")

def checkBundleDigest (manifest : Manifest) : Except Error Unit :=
  match Hex.decode manifest.bundleSHA256 with
  | none => .error (.message "dataact: decode bundleSha256")
  | some signedDigest =>
      if contentDigest C manifest.files ≠ signedDigest then
        .error (.message "dataact: bundle digest mismatch")
      else .ok ()

/-- The body of the loop over the listed files. -/
def checkFile (z : Archive) (entry : ManifestFile) : Except Error Unit :=
  if entry.name = fileManifest then .ok ()
  else do
    let (sum, rows) ← digestZipEntry C z entry.name
    if entry.sha256 ≠ sum then .error (.message "dataact: digest mismatch")
    else if isNDJSON entry.name ∧ entry.rows ≠ rows then
      .error (.message "dataact: row count mismatch")
    else .ok ()

/-- The checks of a manifest that was read. -/
def checkManifest (z : Archive) (manifest : Manifest) (trustCert : Option Certificate) :
    Except Error Unit :=
  if manifest.schemaVersion = [] then .error (.message "dataact: missing manifest in bundle")
  else if manifest.schemaVersion ≠ schemaVersion then
    .error (.message "dataact: unsupported schema version")
  else do
    checkBundleDigest C manifest
    manifest.files.forM (checkFile C z)
    if manifest.signature = [] then .error (.message "dataact: missing bundle signature")
    else
      verifyManifestSignature C parseCertificate manifest (contentCanonical manifest.files) trustCert

def validateBundle (z : Archive) (trustCert : Option Certificate) : Except Error Manifest := do
  let manifest ← readManifest J z
  checkManifest C parseCertificate z manifest trustCert
  return manifest

/-! ## Import -/

structure BundlePayload where
  manifest : Manifest
  devices : List DeviceRecord
  profileStates : List ProfileStateRecord
  associatedEIM : List AssociatedEIMRecord
  euiccStates : List EUICCStateRecord
  operations : List OperationRecord
  notifications : List NotificationRecord
  journal : List JournalRecord
deriving DecidableEq

def decodeNDJSONLines {α : Type} (unmarshal : Bytes → Option α) (payload : Bytes) :
    Except Error (List α) :=
  (ndjsonLines payload).mapM fun line =>
    match unmarshal line with
    | some record => .ok record
    | none => .error (.message "dataact: decode ndjson line")

/-- A file that is not in the archive has no records. -/
def readNDJSON {α : Type} (unmarshal : Bytes → Option α) (z : Archive) (name : Bytes) :
    Except Error (List α) :=
  match z.find name with
  | none => .ok []
  | some file =>
      match file.content with
      | none => .error (.message "zip: cannot read file")
      | some payload => decodeNDJSONLines unmarshal payload

/-- What is handed to the importer. -/
def importBundle (z : Archive) (trustCert : Option Certificate) : Except Error BundlePayload := do
  let manifest ← validateBundle C J parseCertificate z trustCert
  let journal ← readNDJSON J.journal z fileCommandJournal
  verifyJournalSlice C manifest.tenantID journal manifest.journalChain
  let devices ← readNDJSON J.device z fileDevices
  let profileStates ← readNDJSON J.profileState z fileProfileState
  let associatedEIM ← readNDJSON J.associatedEIM z fileAssociatedEIM
  let euiccStates ← readNDJSON J.euiccState z fileEUICCState
  let operations ← readNDJSON J.operation z fileOperations
  let notifications ← readNDJSON J.notification z fileNotifications
  return ⟨manifest, devices, profileStates, associatedEIM, euiccStates, operations, notifications,
    journal⟩

end OpenIotRsp.Dataact
