import OpenIotRsp.Library.Rfc3339
import OpenIotRsp.Library.Text
import OpenIotRsp.Model.Euiccpkg.Verify

/-!
# The command journal of an export

Each journal row holds the hash of the row before it and its own.  The hash of a
row is taken over the hash before it and a canonical form of the row.
-/

namespace OpenIotRsp.Dataact

open Octets Rfc3339 Euiccpkg

def hashSize : Nat := 32

/-- The domain data hashed into one command journal entry.  A hash that is not given has no
octets. -/
structure JournalInput where
  tenantID : Bytes
  actorType : Bytes
  actorID : Bytes
  eid : Bytes
  command : Bytes
  psmoPayloadSHA256 : Bytes
  counterValue : Option Int64
  signingKeyID : Bytes
  signatureSHA256 : Bytes
  operationID : Option Int64
  outcome : Bytes
  errorCode : Bytes
deriving DecidableEq

/-- One exported command journal row. -/
structure JournalRecord where
  seq : Int64
  timestamp : DateTime
  actorType : Bytes
  actorID : Bytes
  eid : Bytes := []
  command : Bytes
  psmoPayloadSHA256 : Bytes := []
  counterValue : Option Int64 := none
  signingKeyID : Bytes := []
  signatureSHA256 : Bytes := []
  operationID : Option Int64 := none
  outcome : Bytes
  errorCode : Bytes := []
  prevHash : Bytes
  entryHash : Bytes
deriving DecidableEq

/-- Neighbouring hashes for chain verification. -/
structure JournalChainAnchor where
  firstSeq : Int64 := 0
  lastSeq : Int64 := 0
  prevHashBefore : Bytes := []
  entryHashAfter : Bytes := []
deriving DecidableEq

/-! ## The canonical form -/

def appendUint64 (buf : Bytes) (value : UInt64) : Bytes := buf ++ bigEndian 8 value.toNat

def appendUint32 (buf : Bytes) (value : UInt32) : Bytes := buf ++ bigEndian 4 value.toNat

def appendString (buf value : Bytes) : Bytes :=
  appendUint32 buf (UInt32.ofNat value.length) ++ value

def appendOptionalBytes32 (buf value : Bytes) : Bytes :=
  if value.length = 0 then buf ++ [0] else buf ++ [1] ++ value

def appendOptionalInt64 (buf : Bytes) : Option Int64 → Bytes
  | none => buf ++ [0]
  | some value => appendUint64 (buf ++ [1]) value.toUInt64

def journalCanonical (seq : Int64) (ts : DateTime) (input : JournalInput) : Bytes :=
  let buf := appendUint64 [] seq.toUInt64
  let buf := appendString buf (format ts)
  let buf := appendString buf input.tenantID
  let buf := appendString buf input.actorType
  let buf := appendString buf input.actorID
  let buf := appendString buf input.eid
  let buf := appendOptionalBytes32 buf input.psmoPayloadSHA256
  let buf := appendOptionalInt64 buf input.counterValue
  let buf := appendString buf input.signingKeyID
  let buf := appendOptionalBytes32 buf input.signatureSHA256
  let buf := appendOptionalInt64 buf input.operationID
  let buf := appendString buf input.outcome
  appendString buf input.errorCode

variable (C : Crypto)

/-- `entry_hash` of a journal row. -/
def entryHash (prevHash : Bytes) (seq : Int64) (ts : DateTime) (input : JournalInput) : Bytes :=
  C.sha256 (prevHash ++ journalCanonical seq ts input)

/-! ## Verification -/

/-- Text that is not hexadecimal counts as absent. -/
def decodeOptionalHex (value : Bytes) : Bytes :=
  (Hex.decode (Text.trimSpace value)).getD []

def JournalRecord.input (tenantID : Bytes) (entry : JournalRecord) : JournalInput where
  tenantID := tenantID
  actorType := entry.actorType
  actorID := entry.actorID
  eid := entry.eid
  command := entry.command
  psmoPayloadSHA256 := decodeOptionalHex entry.psmoPayloadSHA256
  counterValue := entry.counterValue
  signingKeyID := entry.signingKeyID
  signatureSHA256 := decodeOptionalHex entry.signatureSHA256
  operationID := entry.operationID
  outcome := entry.outcome
  errorCode := entry.errorCode

/-- The link of a row to the one before it, or to the anchor. -/
def verifyLink (anchor : JournalChainAnchor) (previous : Option JournalRecord)
    (entry : JournalRecord) : Except Error Unit :=
  match previous with
  | none =>
      if anchor.prevHashBefore ≠ [] ∧ entry.prevHash ≠ anchor.prevHashBefore then
        .error (.message "dataact: journal slice head mismatch at seq")
      else .ok ()
  | some previous =>
      if entry.prevHash ≠ previous.entryHash then
        .error (.message "dataact: journal slice chain break at seq")
      else .ok ()

/-- The hash of a row. -/
def verifyEntryHash (tenantID : Bytes) (entry : JournalRecord) : Except Error Unit :=
  match Hex.decode entry.prevHash with
  | none => .error (.message "dataact: decode prev_hash at seq")
  | some prev =>
      if prev.length ≠ hashSize then .error (.message "dataact: prev_hash at seq must be 32 bytes")
      else
        match Hex.decode entry.entryHash with
        | none => .error (.message "dataact: decode entry_hash at seq")
        | some stored =>
            if entryHash C prev entry.seq (truncateMicrosecond entry.timestamp)
                (entry.input tenantID) ≠ stored then
              .error (.message "dataact: journal entry_hash mismatch at seq")
            else .ok ()

/-- The loop over the rows, with the row before. -/
def verifyEntries (tenantID : Bytes) (anchor : JournalChainAnchor) :
    Option JournalRecord → List JournalRecord → Except Error Unit
  | _, [] => .ok ()
  | previous, entry :: entries => do
      verifyLink anchor previous entry
      verifyEntryHash C tenantID entry
      verifyEntries tenantID anchor (some entry) entries

def verifyJournalSlice (tenantID : Bytes) (entries : List JournalRecord)
    (anchor : JournalChainAnchor) : Except Error Unit :=
  match entries.getLast? with
  | none => .ok ()
  | some last => do
      verifyEntries C tenantID anchor none entries
      if anchor.entryHashAfter ≠ [] ∧ last.entryHash ≠ anchor.entryHashAfter then
        throw (.message "dataact: journal slice tail mismatch at seq")

/-- A journal row with a valid `entry_hash`. -/
def buildJournalRecord (tenantID : Bytes) (seq : Int64) (ts : DateTime)
    (prevHash actorType actorID command outcome : Bytes) : JournalRecord :=
  let hash := entryHash C prevHash seq (truncateMicrosecond ts) {
    tenantID := tenantID, actorType := actorType, actorID := actorID, eid := []
    command := command, psmoPayloadSHA256 := [], counterValue := none, signingKeyID := []
    signatureSHA256 := [], operationID := none, outcome := outcome, errorCode := [] }
  { seq := seq, timestamp := ts, actorType := actorType, actorID := actorID
    command := command, outcome := outcome, prevHash := Hex.encode prevHash
    entryHash := Hex.encode hash }

end OpenIotRsp.Dataact
