import OpenIotRsp.Model.Dataact.Bundle
import OpenIotRsp.Verification.Dataact.Slice

/-!
# What a bundle signature covers

The signature is made over the names and digests of the files that the manifest
lists.  The import reads a fixed list of files, listed or not, and the manifest
has fields that are in no file.
-/

namespace OpenIotRsp.Dataact

open Octets Delimited Euiccpkg Outcome

variable {C : Crypto} {J : Json} {parseCertificate : Bytes → Option Certificate}
  {z z' : Archive} {trustCert : Option Certificate} {manifest manifest' : Manifest}

/-! ## Accepted manifests -/

/-- The content of the first file of the name. -/
def Archive.content (z : Archive) (name : Bytes) : Option Bytes := (z.find name).bind ZipFile.content

/-- The file is in the archive, with the digest and the number of rows of its entry. -/
structure FileMatches (C : Crypto) (z : Archive) (entry : ManifestFile) (payload : Bytes) : Prop where
  content : z.content entry.name = some payload
  sha256 : entry.sha256 = Hex.encode (C.sha256 payload)
  rows : isNDJSON entry.name → entry.rows = (ndjsonLines payload).length

theorem digestZipEntry_eq_ok {name sum : Bytes} {rows : Int} :
    digestZipEntry C z name = .ok (sum, rows) ↔
      ∃ payload, z.content name = some payload ∧ sum = Hex.encode (C.sha256 payload) ∧
        rows = if isNDJSON name then ((ndjsonLines payload).length : Int) else 1 := by
  rw [digestZipEntry, Archive.content]
  cases z.find name with
  | none => simp
  | some file =>
      dsimp only [Option.bind_some]
      cases file.content with
      | none => simp
      | some payload =>
          simp only [Except.ok.injEq, Prod.mk.injEq, Option.some.injEq, exists_eq_left']
          exact and_congr eq_comm eq_comm

theorem checkFile_eq_ok {entry : ManifestFile} (hname : entry.name ≠ fileManifest) :
    checkFile C z entry = .ok () ↔ ∃ payload, FileMatches C z entry payload := by
  rw [checkFile, if_neg hname, bind_eq_ok]
  constructor
  · rintro ⟨⟨sum, rows⟩, hdigest, hchecks⟩
    obtain ⟨payload, hcontent, rfl, rfl⟩ := digestZipEntry_eq_ok.mp hdigest
    obtain ⟨hsum, hchecks⟩ := guard_eq_ok.mp hchecks
    obtain ⟨hrows, -⟩ := guard_eq_ok.mp hchecks
    refine ⟨payload, hcontent, not_not.mp hsum, fun hndjson => ?_⟩
    rw [if_pos hndjson] at hrows
    exact not_not.mp fun hne => hrows ⟨hndjson, hne⟩
  · rintro ⟨payload, hcontent, hsum, hrows⟩
    refine ⟨_, digestZipEntry_eq_ok.mpr ⟨payload, hcontent, rfl, rfl⟩, ?_⟩
    refine guard_eq_ok.mpr ⟨not_not.mpr hsum, guard_eq_ok.mpr ⟨?_, rfl⟩⟩
    rintro ⟨hndjson, hne⟩
    rw [if_pos hndjson] at hne
    exact hne (hrows hndjson)

/-- What an accepted manifest satisfies. -/
structure Valid (C : Crypto) (parseCertificate : Bytes → Option Certificate) (z : Archive)
    (manifest : Manifest) (trustCert : Option Certificate) : Prop where
  schema : manifest.schemaVersion = schemaVersion
  digest : Hex.decode manifest.bundleSHA256 = some (contentDigest C manifest.files)
  files : ∀ entry ∈ manifest.files, entry.name ≠ fileManifest → ∃ payload,
    FileMatches C z entry payload
  signed : manifest.signature ≠ []
  signature : verifyManifestSignature C parseCertificate manifest (contentCanonical manifest.files)
    trustCert = .ok ()

theorem checkBundleDigest_eq_ok :
    checkBundleDigest C manifest = .ok () ↔
      Hex.decode manifest.bundleSHA256 = some (contentDigest C manifest.files) := by
  rw [checkBundleDigest]
  cases Hex.decode manifest.bundleSHA256 with
  | none => simp
  | some digest => simp [eq_comm]

theorem checkManifest_eq_ok :
    checkManifest C parseCertificate z manifest trustCert = .ok () ↔
      Valid C parseCertificate z manifest trustCert := by
  rw [checkManifest, guard_eq_ok, guard_eq_ok, not_not, unit_bind_eq_ok, unit_bind_eq_ok,
    checkBundleDigest_eq_ok, forM_eq_ok, guard_eq_ok]
  constructor
  · rintro ⟨-, hschema, hdigest, hfiles, hsigned, hsignature⟩
    exact ⟨hschema, hdigest, fun entry hentry hname =>
      (checkFile_eq_ok hname).mp (hfiles entry hentry), hsigned, hsignature⟩
  · rintro ⟨hschema, hdigest, hfiles, hsigned, hsignature⟩
    refine ⟨by rw [hschema]; decide, hschema, hdigest, fun entry hentry => ?_, hsigned, hsignature⟩
    by_cases hname : entry.name = fileManifest
    · rw [checkFile, if_pos hname]
    · exact (checkFile_eq_ok hname).mpr (hfiles entry hentry hname)

theorem validateBundle_eq_ok :
    validateBundle C J parseCertificate z trustCert = .ok manifest ↔
      readManifest J z = .ok manifest ∧ Valid C parseCertificate z manifest trustCert := by
  rw [validateBundle, bind_eq_ok]
  simp only [unit_bind_eq_ok, checkManifest_eq_ok, pure_eq, Except.ok.injEq]
  constructor
  · rintro ⟨manifest, hread, hvalid, rfl⟩
    exact ⟨hread, hvalid⟩
  · rintro ⟨hread, hvalid⟩
    exact ⟨manifest, hread, hvalid, rfl⟩

/-! ## Imported rows -/

/-- The record comes from a line of a file that the manifest lists with the digest of the file. -/
def FromListed {α : Type} (C : Crypto) (z : Archive) (manifest : Manifest)
    (unmarshal : Bytes → Option α) (name : Bytes) (record : α) : Prop :=
  ∃ payload, z.content name = some payload ∧
    (∃ line ∈ ndjsonLines payload, unmarshal line = some record) ∧
    ∃ entry ∈ manifest.files, entry.name = name ∧ entry.sha256 = Hex.encode (C.sha256 payload)

/-- The file is in the archive and has a line that is not blank. -/
def HasRows (z : Archive) (name : Bytes) : Prop :=
  ∃ payload, z.content name = some payload ∧ ndjsonLines payload ≠ []

section

variable {α : Type} {unmarshal : Bytes → Option α} {name : Bytes} {records : List α}

theorem readNDJSON_eq_ok (h : readNDJSON unmarshal z name = .ok records) :
    z.content name = none ∧ records = [] ∨
      ∃ payload, z.content name = some payload ∧ decodeNDJSONLines unmarshal payload = .ok records := by
  rw [readNDJSON] at h
  rw [Archive.content]
  cases hfind : z.find name with
  | none =>
      rw [hfind] at h
      exact .inl ⟨rfl, (Except.ok.inj h).symm⟩
  | some file =>
      rw [hfind] at h
      dsimp only at h
      cases hcontent : file.content with
      | none =>
          rw [hcontent] at h
          cases h
      | some payload =>
          rw [hcontent] at h
          exact .inr ⟨payload, hcontent, h⟩

theorem exists_line_of_decode {payload : Bytes}
    (h : decodeNDJSONLines unmarshal payload = .ok records) {record : α} (hrecord : record ∈ records) :
    ∃ line ∈ ndjsonLines payload, unmarshal line = some record := by
  obtain ⟨line, hline, hdecode⟩ := exists_source_of_mapM h hrecord
  refine ⟨line, hline, ?_⟩
  split at hdecode
  next hunmarshal => rw [hunmarshal, Except.ok.inj hdecode]
  next => cases hdecode

/-- The records of a file are from a listed file exactly if the file is listed when it has rows. -/
theorem fromListed_iff (hvalid : Valid C parseCertificate z manifest trustCert)
    (hname : name ≠ fileManifest) (hread : readNDJSON unmarshal z name = .ok records) :
    (∀ record ∈ records, FromListed C z manifest unmarshal name record) ↔
      (HasRows z name → ∃ entry ∈ manifest.files, entry.name = name) := by
  constructor
  · rintro h ⟨payload, hcontent, hlines⟩
    rcases readNDJSON_eq_ok hread with ⟨hnone, -⟩ | ⟨payload', hcontent', hdecode⟩
    · cases hcontent.symm.trans hnone
    · obtain rfl := Option.some.inj (hcontent.symm.trans hcontent')
      obtain ⟨line, hline⟩ := List.exists_mem_of_ne_nil _ hlines
      obtain ⟨record, hrecord, -⟩ := exists_ok_of_mapM hdecode hline
      obtain ⟨-, -, -, entry, hentry, hentryName, -⟩ := h record hrecord
      exact ⟨entry, hentry, hentryName⟩
  · intro h record hrecord
    rcases readNDJSON_eq_ok hread with ⟨-, rfl⟩ | ⟨payload, hcontent, hdecode⟩
    · cases hrecord
    · obtain ⟨line, hline, hunmarshal⟩ := exists_line_of_decode hdecode hrecord
      obtain ⟨entry, hentry, hentryName⟩ := h ⟨payload, hcontent, List.ne_nil_of_mem hline⟩
      obtain ⟨payload', hmatches⟩ := hvalid.files entry hentry (by rw [hentryName]; exact hname)
      have hcontent' := hmatches.content
      rw [hentryName] at hcontent'
      obtain rfl := Option.some.inj (hcontent.symm.trans hcontent')
      exact ⟨payload, hcontent, ⟨line, hline, hunmarshal⟩, entry, hentry, hentryName,
        hmatches.sha256⟩

end

/-- Every record that is handed to the importer comes from a listed file. -/
structure AllListed (C : Crypto) (J : Json) (z : Archive) (payload : BundlePayload) : Prop where
  devices : ∀ record ∈ payload.devices,
    FromListed C z payload.manifest J.device fileDevices record
  profileStates : ∀ record ∈ payload.profileStates,
    FromListed C z payload.manifest J.profileState fileProfileState record
  associatedEIM : ∀ record ∈ payload.associatedEIM,
    FromListed C z payload.manifest J.associatedEIM fileAssociatedEIM record
  euiccStates : ∀ record ∈ payload.euiccStates,
    FromListed C z payload.manifest J.euiccState fileEUICCState record
  operations : ∀ record ∈ payload.operations,
    FromListed C z payload.manifest J.operation fileOperations record
  notifications : ∀ record ∈ payload.notifications,
    FromListed C z payload.manifest J.notification fileNotifications record
  journal : ∀ record ∈ payload.journal,
    FromListed C z payload.manifest J.journal fileCommandJournal record

/-- The files that the import reads. -/
def entityFiles : List Bytes :=
  [fileDevices, fileProfileState, fileAssociatedEIM, fileEUICCState, fileOperations,
    fileNotifications, fileCommandJournal]

theorem ne_fileManifest_of_mem {name : Bytes} (h : name ∈ entityFiles) : name ≠ fileManifest := by
  revert name
  decide

/-- The records of an accepted bundle all come from listed files exactly if every file that is read
and has rows is listed. -/
theorem imported_rows_listed_iff {payload : BundlePayload}
    (h : importBundle C J parseCertificate z trustCert = .ok payload) :
    AllListed C J z payload ↔ ∀ name ∈ entityFiles, HasRows z name →
      ∃ entry ∈ payload.manifest.files, entry.name = name := by
  obtain ⟨manifest, hmanifest, h⟩ := bind_eq_ok.mp h
  obtain ⟨journal, hjournal, h⟩ := bind_eq_ok.mp h
  obtain ⟨-, h⟩ := unit_bind_eq_ok.mp h
  obtain ⟨devices, hdevices, h⟩ := bind_eq_ok.mp h
  obtain ⟨profileStates, hprofileStates, h⟩ := bind_eq_ok.mp h
  obtain ⟨associatedEIM, hassociatedEIM, h⟩ := bind_eq_ok.mp h
  obtain ⟨euiccStates, heuiccStates, h⟩ := bind_eq_ok.mp h
  obtain ⟨operations, hoperations, h⟩ := bind_eq_ok.mp h
  obtain ⟨notifications, hnotifications, h⟩ := bind_eq_ok.mp h
  obtain rfl := Except.ok.inj h
  have hvalid := (validateBundle_eq_ok.mp hmanifest).2
  have hlisted {α : Type} {unmarshal : Bytes → Option α} {name : Bytes} {records : List α}
      (hread : readNDJSON unmarshal z name = .ok records) (hname : name ∈ entityFiles) :=
    fromListed_iff hvalid (ne_fileManifest_of_mem hname) hread
  constructor
  · intro hall
    simp only [entityFiles, List.forall_mem_cons, List.not_mem_nil, false_implies, implies_true,
      and_true]
    exact ⟨(hlisted hdevices (by decide)).mp hall.devices,
      (hlisted hprofileStates (by decide)).mp hall.profileStates,
      (hlisted hassociatedEIM (by decide)).mp hall.associatedEIM,
      (hlisted heuiccStates (by decide)).mp hall.euiccStates,
      (hlisted hoperations (by decide)).mp hall.operations,
      (hlisted hnotifications (by decide)).mp hall.notifications,
      (hlisted hjournal (by decide)).mp hall.journal⟩
  · intro hall
    exact ⟨(hlisted hdevices (by decide)).mpr (hall _ (by decide)),
      (hlisted hprofileStates (by decide)).mpr (hall _ (by decide)),
      (hlisted hassociatedEIM (by decide)).mpr (hall _ (by decide)),
      (hlisted heuiccStates (by decide)).mpr (hall _ (by decide)),
      (hlisted hoperations (by decide)).mpr (hall _ (by decide)),
      (hlisted hnotifications (by decide)).mpr (hall _ (by decide)),
      (hlisted hjournal (by decide)).mpr (hall _ (by decide))⟩

/-! ## Covered fields -/

/-- The entry can be read off the canonical list: its name ends before the first zero octet, and
its digest has the length of a hash. -/
def Readable (entry : ManifestFile) : Prop :=
  0 ∉ entry.name ∧ ∃ digest, digest.length = hashSize ∧ entry.sha256 = Hex.encode digest

theorem canonicalEntry_of_digest {entry : ManifestFile} {digest : Bytes}
    (h : entry.sha256 = Hex.encode digest) : canonicalEntry entry = entry.name ++ 0 :: digest := by
  simp [canonicalEntry, h, Hex.decode_encode]

/-- The names and digests of the entries. -/
def filePairs (files : List ManifestFile) : List (Bytes × Bytes) :=
  files.map fun file => (file.name, file.sha256)

theorem filePairs_eq_of_flatMap {files files' : List ManifestFile} (h : ∀ entry ∈ files, Readable entry)
    (h' : ∀ entry ∈ files', Readable entry)
    (heq : files.flatMap canonicalEntry = files'.flatMap canonicalEntry) :
    filePairs files = filePairs files' := by
  induction files generalizing files' with
  | nil =>
      cases files' with
      | nil => rfl
      | cons entry files' => simp [canonicalEntry] at heq
  | cons entry files ih =>
      cases files' with
      | nil => simp [canonicalEntry] at heq
      | cons entry' files' =>
          obtain ⟨hzero, digest, hlength, hdigest⟩ := h entry (by simp)
          obtain ⟨hzero', digest', hlength', hdigest'⟩ := h' entry' (by simp)
          rw [List.flatMap_cons, List.flatMap_cons, canonicalEntry_of_digest hdigest,
            canonicalEntry_of_digest hdigest', List.append_assoc, List.append_assoc] at heq
          obtain ⟨hname, hrest⟩ := append_mark_inj hzero hzero' heq
          obtain ⟨rfl, htail⟩ := List.append_inj hrest (hlength.trans hlength'.symm)
          have hfiles := ih (fun e he => h e (List.mem_cons_of_mem _ he))
            (fun e he => h' e (List.mem_cons_of_mem _ he)) htail
          rw [filePairs] at hfiles ⊢
          rw [List.map_cons, hfiles, hname, hdigest, ← hdigest']
          rfl

/-- No entry for the manifest itself, and no name with a zero octet. -/
def PlainFiles (files : List ManifestFile) : Prop :=
  ∀ entry ∈ files, entry.name ≠ fileManifest ∧ 0 ∉ entry.name

instance (files : List ManifestFile) : Decidable (PlainFiles files) :=
  inferInstanceAs (Decidable (∀ entry ∈ files, entry.name ≠ fileManifest ∧ 0 ∉ entry.name))

def byName (files : List ManifestFile) : List ManifestFile :=
  files.insertionSort fun a b => a.name ≤ b.name

theorem contentCanonical_eq (files : List ManifestFile) :
    contentCanonical files = (byName files).flatMap canonicalEntry := rfl

theorem mem_byName {files : List ManifestFile} {entry : ManifestFile} :
    entry ∈ byName files ↔ entry ∈ files := List.mem_insertionSort _

theorem readable_of_matches {files : List ManifestFile}
    (hsize : ∀ x, (C.sha256 x).length = hashSize)
    (h : ∀ entry ∈ files, entry.name ≠ fileManifest → ∃ payload, FileMatches C z entry payload)
    (hplain : PlainFiles files) : ∀ entry ∈ byName files, Readable entry := by
  intro entry hentry
  obtain ⟨hname, hzero⟩ := hplain entry (mem_byName.mp hentry)
  obtain ⟨payload, hmatches⟩ := h entry (mem_byName.mp hentry) hname
  exact ⟨hzero, C.sha256 payload, hsize payload, hmatches.sha256⟩

theorem verifyManifestSignature_eq_ok {payload : Bytes} {trusted : Certificate}
    (hraw : ∀ der cert, parseCertificate der = some cert → cert.raw = der)
    (h : verifyManifestSignature C parseCertificate manifest payload (some trusted) = .ok ()) :
    ∃ sig cert key, Base64.decode manifest.signature = some sig ∧
      parseCertificate trusted.raw = some cert ∧ cert.publicKey = .ecdsa key ∧
      C.verifyASN1 key (C.sha256 payload) sig := by
  rw [verifyManifestSignature] at h
  split at h
  next => cases h
  next sig hsig =>
      split at h
      next => cases h
      next certDER hder =>
          split at h
          next => cases h
          next cert hcert =>
              obtain ⟨htrust, h⟩ := guard_eq_ok.mp h
              have hequal : cert.raw = trusted.raw := by simpa using htrust
              rw [hraw certDER cert hcert] at hequal
              split at h
              next => cases h
              next key hkey =>
                  split at h
                  next hverify => exact ⟨sig, cert, key, hsig, hequal ▸ hcert, hkey, hverify⟩
                  next => cases h

/-- Two manifests that are accepted under one certificate with one signature have the same
canonical list: the same names and digests, and by the contents the same numbers of rows. -/
theorem signature_covers_digest_list {trusted : Certificate}
    (hraw : ∀ der cert, parseCertificate der = some cert → cert.raw = der)
    (hsize : ∀ x, (C.sha256 x).length = hashSize)
    (haccept : validateBundle C J parseCertificate z (some trusted) = .ok manifest)
    (haccept' : validateBundle C J parseCertificate z' (some trusted) = .ok manifest')
    (hsignature : manifest.signature = manifest'.signature)
    (hcontents : ∀ name, name ≠ fileManifest → z.content name = z'.content name)
    (hunforgeable : ∀ sig cert key, Base64.decode manifest.signature = some sig →
      parseCertificate trusted.raw = some cert → cert.publicKey = .ecdsa key →
      C.verifyASN1 key (C.sha256 (contentCanonical manifest.files)) sig →
      C.verifyASN1 key (C.sha256 (contentCanonical manifest'.files)) sig →
      C.sha256 (contentCanonical manifest.files) = C.sha256 (contentCanonical manifest'.files))
    (hcollision : C.sha256 (contentCanonical manifest.files) =
        C.sha256 (contentCanonical manifest'.files) →
      contentCanonical manifest.files = contentCanonical manifest'.files) :
    contentCanonical manifest.files = contentCanonical manifest'.files ∧
    (PlainFiles manifest.files → PlainFiles manifest'.files →
      filePairs (byName manifest.files) = filePairs (byName manifest'.files)) ∧
    ∀ entry ∈ manifest.files, ∀ entry' ∈ manifest'.files, entry.name = entry'.name →
      isNDJSON entry.name → entry.rows = entry'.rows := by
  have hvalid := (validateBundle_eq_ok.mp haccept).2
  have hvalid' := (validateBundle_eq_ok.mp haccept').2
  have hcanonical : contentCanonical manifest.files = contentCanonical manifest'.files := by
    obtain ⟨sig, cert, key, hsig, hcert, hkey, hverify⟩ :=
      verifyManifestSignature_eq_ok hraw hvalid.signature
    obtain ⟨sig', cert', key', hsig', hcert', hkey', hverify'⟩ :=
      verifyManifestSignature_eq_ok hraw hvalid'.signature
    obtain rfl := Option.some.inj (hcert.symm.trans hcert')
    obtain rfl := PublicKey.ecdsa.inj (hkey.symm.trans hkey')
    obtain rfl := Option.some.inj (hsig.symm.trans (hsignature ▸ hsig'))
    exact hcollision (hunforgeable sig cert key hsig hcert hkey hverify hverify')
  refine ⟨hcanonical, fun hplain hplain' => ?_, ?_⟩
  · exact filePairs_eq_of_flatMap (readable_of_matches hsize hvalid.files hplain)
      (readable_of_matches hsize hvalid'.files hplain') hcanonical
  · intro entry hentry entry' hentry' hname hndjson
    have hne : entry.name ≠ fileManifest := by
      intro heq
      rw [heq] at hndjson
      exact absurd hndjson (by decide)
    obtain ⟨payload, hmatches⟩ := hvalid.files entry hentry hne
    obtain ⟨payload', hmatches'⟩ := hvalid'.files entry' hentry' (hname ▸ hne)
    have hpayload : some payload = some payload' := by
      rw [← hmatches.content, ← hmatches'.content, hcontents _ hne, hname]
    obtain rfl := Option.some.inj hpayload
    rw [hmatches.rows hndjson, hmatches'.rows (hname ▸ hndjson)]

/-! ## Sample bundles

The hash is the first 32 octets, and a signature is valid if it is the digest. -/

def sampleBundleCrypto : Crypto where
  sha256 x := (x ++ List.replicate 32 0).take 32
  verifyASN1 _ digest sig := digest = sig
  verify _ _ _ _ := false

def sampleREADME : Bytes := text "README.md"

/-- The first file is always listed; the devices only on demand. -/
def sampleManifest (devices : Bool) (tenantID : Bytes) (rows : Int) : Manifest where
  schemaVersion := schemaVersion
  exportID := tenantID
  tenantID := tenantID
  eimID := tenantID
  files := ⟨sampleREADME, rows, Hex.encode (sampleBundleCrypto.sha256 [0x23])⟩ ::
    if devices then [⟨fileDevices, 1, Hex.encode (sampleBundleCrypto.sha256 [0x7b, 0x7d])⟩] else []
  journalChain := { prevHashBefore := tenantID }
  bundleSHA256 := Hex.encode (sampleREADME ++ [0x00, 0x23] ++ List.replicate 21 0x00)
  signature := text "UkVBRE1FLm1kACMAAAAAAAAAAAAAAAAAAAAAAAAAAAA="
  certificateDER := text "AQ=="

def sampleJson : Json where
  manifest content :=
    match content with
    | [0] => some (sampleManifest false (text "tenant-a") 1)
    | [1] => some (sampleManifest true (text "tenant-a") 1)
    | [2] => some (sampleManifest true (text "tenant-b") 9)
    | _ => none
  device _ := some ⟨text "e", 1, 1⟩
  profileState _ := none
  associatedEIM _ := none
  euiccState _ := none
  operation _ := none
  notification _ := none
  journal _ := none
  strings _ := none

def sampleParse (der : Bytes) : Option Certificate := some ⟨der, .ecdsa ⟨256, 0, 0⟩⟩

def sampleTrust : Option Certificate := sampleParse [0x01]

def sampleArchive (manifest : UInt8) : Archive :=
  [⟨sampleREADME, some [0x23]⟩, ⟨fileDevices, some [0x7b, 0x7d]⟩, ⟨fileManifest, some [manifest]⟩]

def sampleImport (manifest : UInt8) : Except Error BundlePayload :=
  importBundle sampleBundleCrypto sampleJson sampleParse (sampleArchive manifest) sampleTrust

theorem imported_rows_listed_iff_devices :
    ∃ payload, sampleImport 1 = .ok payload ∧
      AllListed sampleBundleCrypto sampleJson (sampleArchive 1) payload := by
  have hfacts : (sampleImport 1).toOption.map (fun payload =>
      payload.manifest.files.map ManifestFile.name) = some [sampleREADME, fileDevices] := by
    decide +kernel
  cases himport : sampleImport 1 with
  | error e =>
      rw [himport] at hfacts
      cases hfacts
  | ok payload =>
      rw [himport] at hfacts
      refine ⟨payload, rfl, (imported_rows_listed_iff himport).mpr ?_⟩
      rintro name hname ⟨content, hcontent, -⟩
      have hdevices : ∀ name ∈ entityFiles, (sampleArchive 1).content name ≠ none →
          name = fileDevices := by
        decide +kernel
      obtain rfl := hdevices name hname (by rw [hcontent]; exact nofun)
      have hfiles : payload.manifest.files.map ManifestFile.name = [sampleREADME, fileDevices] :=
        Option.some.inj hfacts
      exact List.mem_map.mp (by simp [hfiles])

/-- The devices are imported although the manifest does not list their file. -/
theorem unlisted_rows_imported :
    ∃ payload, sampleImport 0 = .ok payload ∧ payload.devices = [⟨text "e", 1, 1⟩] ∧
      ¬ AllListed sampleBundleCrypto sampleJson (sampleArchive 0) payload := by
  have hfacts : (sampleImport 0).toOption.map (fun payload =>
      (payload.devices, payload.manifest.files.map ManifestFile.name)) =
        some ([⟨text "e", 1, 1⟩], [sampleREADME]) := by
    decide +kernel
  cases himport : sampleImport 0 with
  | error e =>
      rw [himport] at hfacts
      cases hfacts
  | ok payload =>
      rw [himport] at hfacts
      obtain ⟨hdevices, hfiles⟩ := Prod.mk.inj (Option.some.inj hfacts)
      refine ⟨payload, rfl, hdevices, fun hall => ?_⟩
      obtain ⟨-, -, -, entry, hentry, hname, -⟩ := hall.devices ⟨text "e", 1, 1⟩ (by simp [hdevices])
      have hmem : entry.name ∈ payload.manifest.files.map ManifestFile.name :=
        List.mem_map_of_mem hentry
      rw [hfiles, hname] at hmem
      exact absurd hmem (by decide)

theorem validateBundle_sample :
    validateBundle sampleBundleCrypto sampleJson sampleParse (sampleArchive 1) sampleTrust =
      .ok (sampleManifest true (text "tenant-a") 1) ∧
    validateBundle sampleBundleCrypto sampleJson sampleParse (sampleArchive 2) sampleTrust =
      .ok (sampleManifest true (text "tenant-b") 9) := by
  decide +kernel

theorem content_sampleArchive {name : Bytes} (h : name ≠ fileManifest) :
    (sampleArchive 1).content name = (sampleArchive 2).content name := by
  simp only [sampleArchive, Archive.content, Archive.find, List.find?_cons, List.find?_nil,
    show decide (fileManifest = name) = false from decide_eq_false (Ne.symm h)]

theorem signature_covers_digest_list_sample :
    filePairs (byName (sampleManifest true (text "tenant-a") 1).files) =
      filePairs (byName (sampleManifest true (text "tenant-b") 9).files) := by
  have hcanonical : contentCanonical (sampleManifest true (text "tenant-a") 1).files =
      contentCanonical (sampleManifest true (text "tenant-b") 9).files := by
    decide +kernel
  refine (signature_covers_digest_list (fun der cert h => ?_) (fun x => ?_) validateBundle_sample.1
    validateBundle_sample.2 rfl (fun name => content_sampleArchive)
    (fun _ _ _ _ _ _ h h' => (of_decide_eq_true h).trans (of_decide_eq_true h').symm)
    (fun _ => hcanonical)).2.1 ?_ ?_
  · exact congrArg Certificate.raw (Option.some.inj h).symm
  · simp [sampleBundleCrypto, hashSize]
  · decide +kernel
  · decide +kernel

/-- The tenant, the anchors and the other fields differ under one signature. -/
theorem unsigned_manifest_fields :
    validateBundle sampleBundleCrypto sampleJson sampleParse (sampleArchive 1) sampleTrust =
      .ok (sampleManifest true (text "tenant-a") 1) ∧
    validateBundle sampleBundleCrypto sampleJson sampleParse (sampleArchive 2) sampleTrust =
      .ok (sampleManifest true (text "tenant-b") 9) ∧
    (∀ name, name ≠ fileManifest → (sampleArchive 1).content name = (sampleArchive 2).content name) ∧
    (sampleManifest true (text "tenant-a") 1).signature =
      (sampleManifest true (text "tenant-b") 9).signature ∧
    (sampleManifest true (text "tenant-a") 1).tenantID ≠
      (sampleManifest true (text "tenant-b") 9).tenantID ∧
    (sampleManifest true (text "tenant-a") 1).journalChain ≠
      (sampleManifest true (text "tenant-b") 9).journalChain ∧
    (sampleManifest true (text "tenant-a") 1).eimID ≠
      (sampleManifest true (text "tenant-b") 9).eimID ∧
    (sampleManifest true (text "tenant-a") 1).exportID ≠
      (sampleManifest true (text "tenant-b") 9).exportID ∧
    (sampleManifest true (text "tenant-a") 1).files.map ManifestFile.rows ≠
      (sampleManifest true (text "tenant-b") 9).files.map ManifestFile.rows := by
  refine ⟨validateBundle_sample.1, validateBundle_sample.2, fun name => content_sampleArchive, rfl, ?_⟩
  decide

end OpenIotRsp.Dataact
