import OpenIotRsp.Library.Outcome
import OpenIotRsp.Model.Dataact.Journal

/-!
# What a journal hash binds

The canonical form can be read back field by field, as far as the lengths of its
fields are clear.  It has no field for the command.
-/

namespace OpenIotRsp.Dataact

open Octets Delimited Rfc3339 Euiccpkg Outcome

/-! ## Fields -/

theorem appendString_append (buf value : Bytes) :
    appendString buf value = buf ++ appendString [] value := by
  simp [appendString, appendUint32]

theorem appendOptionalBytes32_append (buf value : Bytes) :
    appendOptionalBytes32 buf value = buf ++ appendOptionalBytes32 [] value := by
  rw [appendOptionalBytes32, appendOptionalBytes32]
  split <;> simp

theorem appendOptionalInt64_eq (buf : Bytes) (value : Option Int64) :
    appendOptionalInt64 buf value =
      buf ++ writeOption (fun value => appendUint64 [] value.toUInt64) value := by
  cases value <;> simp [appendOptionalInt64, appendUint64, writeOption]

theorem delimits_int64 :
    Delimits (fun _ _ => True) fun value : Int64 => appendUint64 [] value.toUInt64 := by
  intro a b _ s t h
  have ha : a.toUInt64.toNat < 256 ^ 8 := a.toUInt64.toNat_lt
  have hb : b.toUInt64.toNat < 256 ^ 8 := b.toUInt64.toNat_lt
  obtain ⟨hvalue, hrest⟩ := delimits_bigEndian 8 ⟨ha, hb⟩ h
  exact ⟨congrArg Int64.ofUInt64 (UInt64.toNat_inj.mp hvalue), hrest⟩

/-- The lengths of two strings do not differ by a multiple of 2³² alone. -/
def ClearString (a b : Bytes) : Prop :=
  UInt32.ofNat a.length = UInt32.ofNat b.length → a.length = b.length

theorem delimits_appendString : Delimits ClearString (appendString []) := by
  refine fun a b hclear => delimits_lengthPrefixed
    (w := fun n => bigEndian 4 (UInt32.ofNat n).toNat) (fun n => length_bigEndian 4 _) ?_
  intro hlength
  refine hclear (UInt32.toNat_inj.mp (bigEndian_injOn ?_ ?_ hlength))
  · exact UInt32.toNat_lt _
  · exact UInt32.toNat_lt _

/-- A time ends itself, whatever its length says. -/
theorem delimits_timestamp : Delimits (fun _ _ => True) fun ts => appendString [] (format ts) := by
  intro a b _ s t h
  simp only [appendString, appendUint32, List.nil_append, List.append_assoc] at h
  exact delimits_format trivial (List.append_inj h (by simp)).2

/-- Two hashes have one length, or each of them is absent or has the length of a hash. -/
def ClearHash (a b : Bytes) : Prop :=
  a.length = b.length ∨
    (a.length = 0 ∨ a.length = hashSize) ∧ (b.length = 0 ∨ b.length = hashSize)

theorem delimits_appendOptionalBytes32 : Delimits ClearHash (appendOptionalBytes32 []) := by
  intro a b hclear s t h
  rw [appendOptionalBytes32, appendOptionalBytes32] at h
  by_cases ha : a.length = 0
  all_goals by_cases hb : b.length = 0
  · rw [if_pos ha, if_pos hb] at h
    rw [List.eq_nil_of_length_eq_zero ha, List.eq_nil_of_length_eq_zero hb]
    exact ⟨rfl, List.append_cancel_left h⟩
  · rw [if_pos ha, if_neg hb] at h
    simp at h
  · rw [if_neg ha, if_pos hb] at h
    simp at h
  · rw [if_neg ha, if_neg hb] at h
    have hlength : a.length = b.length := by
      rcases hclear with hlength | ⟨ha', hb'⟩
      · exact hlength
      · rw [ha'.resolve_left ha, hb'.resolve_left hb]
    exact List.append_inj (List.cons.inj h).2 hlength

/-! ## The canonical form -/

/-- The boundaries of the fields are clear. -/
structure ClearFields (a b : JournalInput) : Prop where
  actorType : ClearString a.actorType b.actorType
  actorID : ClearString a.actorID b.actorID
  eid : ClearString a.eid b.eid
  psmoPayloadSHA256 : ClearHash a.psmoPayloadSHA256 b.psmoPayloadSHA256
  signingKeyID : ClearString a.signingKeyID b.signingKeyID
  signatureSHA256 : ClearHash a.signatureSHA256 b.signatureSHA256
  outcome : ClearString a.outcome b.outcome
  errorCode : ClearString a.errorCode b.errorCode

theorem ClearFields.refl (a : JournalInput) : ClearFields a a :=
  ⟨fun _ => rfl, fun _ => rfl, fun _ => rfl, .inl rfl, fun _ => rfl, .inl rfl, fun _ => rfl,
    fun _ => rfl⟩

theorem journalCanonical_eq (seq : Int64) (ts : DateTime) (input : JournalInput) :
    journalCanonical seq ts input =
      appendUint64 [] seq.toUInt64 ++ (appendString [] (format ts) ++
        (appendString [] input.tenantID ++ (appendString [] input.actorType ++
        (appendString [] input.actorID ++ (appendString [] input.eid ++
        (appendOptionalBytes32 [] input.psmoPayloadSHA256 ++
        (writeOption (fun value => appendUint64 [] value.toUInt64) input.counterValue ++
        (appendString [] input.signingKeyID ++ (appendOptionalBytes32 [] input.signatureSHA256 ++
        (writeOption (fun value => appendUint64 [] value.toUInt64) input.operationID ++
        (appendString [] input.outcome ++ appendString [] input.errorCode))))))))))) := by
  simp only [journalCanonical]
  rw [appendString_append _ input.errorCode, appendString_append _ input.outcome,
    appendOptionalInt64_eq _ input.operationID, appendOptionalBytes32_append _ input.signatureSHA256,
    appendString_append _ input.signingKeyID, appendOptionalInt64_eq _ input.counterValue,
    appendOptionalBytes32_append _ input.psmoPayloadSHA256, appendString_append _ input.eid,
    appendString_append _ input.actorID, appendString_append _ input.actorType,
    appendString_append _ input.tenantID, appendString_append _ (format ts)]
  simp only [List.append_assoc]

/-- The canonical form determines everything but the command. -/
theorem eq_of_journalCanonical {seq seq' : Int64} {ts ts' : DateTime} {a b : JournalInput}
    (htenant : a.tenantID = b.tenantID) (hclear : ClearFields a b)
    (h : journalCanonical seq ts a = journalCanonical seq' ts' b) :
    seq = seq' ∧ ts = ts' ∧ { a with command := b.command } = b := by
  rw [journalCanonical_eq, journalCanonical_eq] at h
  obtain ⟨hseq, h⟩ := delimits_int64 trivial h
  obtain ⟨hts, h⟩ := delimits_timestamp trivial h
  obtain ⟨-, h⟩ := delimits_appendString (fun _ => congrArg List.length htenant) h
  obtain ⟨hactorType, h⟩ := delimits_appendString hclear.actorType h
  obtain ⟨hactorID, h⟩ := delimits_appendString hclear.actorID h
  obtain ⟨heid, h⟩ := delimits_appendString hclear.eid h
  obtain ⟨hpsmo, h⟩ := delimits_appendOptionalBytes32 hclear.psmoPayloadSHA256 h
  obtain ⟨hcounter, h⟩ := delimits_writeOption delimits_int64 (fun _ _ _ _ => trivial) h
  obtain ⟨hkey, h⟩ := delimits_appendString hclear.signingKeyID h
  obtain ⟨hsignature, h⟩ := delimits_appendOptionalBytes32 hclear.signatureSHA256 h
  obtain ⟨hoperation, h⟩ := delimits_writeOption delimits_int64 (fun _ _ _ _ => trivial) h
  obtain ⟨houtcome, h⟩ := delimits_appendString hclear.outcome h
  obtain ⟨herror, -⟩ := delimits_appendString hclear.errorCode (s := []) (t := []) (by simpa using h)
  refine ⟨hseq, hts, ?_⟩
  cases a
  cases b
  simp_all

/-! ## Accepted slices -/

variable {C : Crypto} {tenantID : Bytes} {anchor : JournalChainAnchor} {entries : List JournalRecord}

/-- The octets that the hash of a row is taken over. -/
def hashedOctets (tenantID : Bytes) (entry : JournalRecord) : Bytes :=
  (Hex.decode entry.prevHash).getD [] ++
    journalCanonical entry.seq (truncateMicrosecond entry.timestamp) (entry.input tenantID)

/-- The row holds its own hash. -/
structure Hashed (C : Crypto) (tenantID : Bytes) (entry : JournalRecord) : Prop where
  prevHash : ∃ prev, Hex.decode entry.prevHash = some prev ∧ prev.length = hashSize
  entryHash : Hex.decode entry.entryHash = some (C.sha256 (hashedOctets tenantID entry))

theorem verifyEntryHash_eq_ok {entry : JournalRecord} :
    verifyEntryHash C tenantID entry = .ok () ↔ Hashed C tenantID entry := by
  rw [verifyEntryHash]
  cases hprev : Hex.decode entry.prevHash with
  | none =>
      refine iff_of_false nofun fun h => ?_
      simpa [hprev] using h.prevHash
  | some prev =>
      have hoctets : entryHash C prev entry.seq (truncateMicrosecond entry.timestamp)
          (entry.input tenantID) = C.sha256 (hashedOctets tenantID entry) := by
        rw [entryHash, hashedOctets, hprev, Option.getD_some]
      dsimp only
      rw [guard_eq_ok, not_not, hoctets]
      cases hstored : Hex.decode entry.entryHash with
      | none =>
          refine iff_of_false (fun h => nomatch h.2) fun h => ?_
          simpa [hstored] using h.entryHash
      | some stored =>
          dsimp only
          rw [guard_eq_ok, not_not]
          constructor
          · rintro ⟨hsize, rfl, -⟩
            exact ⟨⟨prev, hprev, hsize⟩, hstored⟩
          · rintro ⟨⟨prev', hprev', hsize⟩, hentry⟩
            obtain rfl := Option.some.inj (hprev.symm.trans hprev')
            exact ⟨hsize, Option.some.inj (hentry.symm.trans hstored), rfl⟩

/-- What an accepted slice is: its rows hold their hashes, each is linked to the one before it, and
its ends to the anchors that are given. -/
structure Chained (C : Crypto) (tenantID : Bytes) (anchor : JournalChainAnchor)
    (entries : List JournalRecord) : Prop where
  hashed : ∀ entry ∈ entries, Hashed C tenantID entry
  linked : entries.IsChain fun a b => b.prevHash = a.entryHash
  first : anchor.prevHashBefore ≠ [] → ∀ entry ∈ entries.head?,
    entry.prevHash = anchor.prevHashBefore
  last : anchor.entryHashAfter ≠ [] → ∀ entry ∈ entries.getLast?,
    entry.entryHash = anchor.entryHashAfter

theorem verifyEntries_some_eq_ok {previous : JournalRecord} :
    verifyEntries C tenantID anchor (some previous) entries = .ok () ↔
      (∀ entry ∈ entries, Hashed C tenantID entry) ∧
        (previous :: entries).IsChain fun a b => b.prevHash = a.entryHash := by
  induction entries generalizing previous with
  | nil => simp [verifyEntries]
  | cons entry entries ih =>
      rw [verifyEntries, List.isChain_cons_cons, List.forall_mem_cons]
      simp only [unit_bind_eq_ok, verifyLink, guard_eq_ok, not_not, verifyEntryHash_eq_ok, ih, and_true]
      tauto

theorem verifyEntries_none_eq_ok :
    verifyEntries C tenantID anchor none entries = .ok () ↔
      (∀ entry ∈ entries, Hashed C tenantID entry) ∧
        (entries.IsChain fun a b => b.prevHash = a.entryHash) ∧
        (anchor.prevHashBefore ≠ [] → ∀ entry ∈ entries.head?,
          entry.prevHash = anchor.prevHashBefore) := by
  cases entries with
  | nil => simp [verifyEntries]
  | cons entry entries =>
      rw [verifyEntries, List.forall_mem_cons]
      simp only [unit_bind_eq_ok, verifyLink, guard_eq_ok, verifyEntryHash_eq_ok,
        verifyEntries_some_eq_ok, and_true, List.head?_cons, Option.mem_def, Option.some.injEq,
        forall_eq', not_and, not_not]
      tauto

theorem verifyJournalSlice_eq_ok :
    verifyJournalSlice C tenantID entries anchor = .ok () ↔ Chained C tenantID anchor entries := by
  rw [verifyJournalSlice]
  cases hlast : entries.getLast? with
  | none =>
      obtain rfl := List.getLast?_eq_none_iff.mp hlast
      exact iff_of_true rfl ⟨nofun, .nil, nofun, nofun⟩
  | some last =>
      simp only [unit_bind_eq_ok, verifyEntries_none_eq_ok, throw_eq, guard_eq_ok, pure_eq, and_true,
        not_and, not_not]
      constructor
      · rintro ⟨⟨hhashed, hlinked, hfirst⟩, htail⟩
        refine ⟨hhashed, hlinked, hfirst, fun hgiven entry hentry => ?_⟩
        obtain rfl := Option.some.inj (hlast.symm.trans hentry)
        exact htail hgiven
      · rintro ⟨hhashed, hlinked, hfirst, htail⟩
        exact ⟨⟨hhashed, hlinked, hfirst⟩, fun hgiven => htail hgiven last hlast⟩

/-! ## Binding -/

section

variable {a b : JournalRecord}

/-- Rows of equal hash are hashed over the same octets, unless there is a collision. -/
theorem canonical_of_entryHash (ha : Hashed C tenantID a) (hb : Hashed C tenantID b)
    (hentry : Hex.decode a.entryHash = Hex.decode b.entryHash)
    (hcollision : C.sha256 (hashedOctets tenantID a) = C.sha256 (hashedOctets tenantID b) →
      hashedOctets tenantID a = hashedOctets tenantID b) :
    Hex.decode a.prevHash = Hex.decode b.prevHash ∧
      journalCanonical a.seq (truncateMicrosecond a.timestamp) (a.input tenantID) =
        journalCanonical b.seq (truncateMicrosecond b.timestamp) (b.input tenantID) := by
  obtain ⟨prev, hprev, hsize⟩ := ha.prevHash
  obtain ⟨prev', hprev', hsize'⟩ := hb.prevHash
  have hhash := (ha.entryHash.symm.trans hentry).trans hb.entryHash
  have hoctets := hcollision (Option.some.inj hhash)
  rw [hashedOctets, hashedOctets, hprev, hprev'] at hoctets
  obtain ⟨rfl, hcanonical⟩ := List.append_inj hoctets (hsize.trans hsize'.symm)
  exact ⟨hprev.trans hprev'.symm, hcanonical⟩

end

/-- Two accepted rows with the same hash have the same content exactly if they have the same
command and the boundaries of their fields are clear: the command is not hashed. -/
theorem journal_entry_binding_iff {entries' : List JournalRecord} {anchor' : JournalChainAnchor}
    {a b : JournalRecord} (ha : a ∈ entries) (hb : b ∈ entries')
    (haccept : verifyJournalSlice C tenantID entries anchor = .ok ())
    (haccept' : verifyJournalSlice C tenantID entries' anchor' = .ok ())
    (hentry : a.entryHash = b.entryHash)
    (hcollision : C.sha256 (hashedOctets tenantID a) = C.sha256 (hashedOctets tenantID b) →
      hashedOctets tenantID a = hashedOctets tenantID b) :
    (a.seq = b.seq ∧ truncateMicrosecond a.timestamp = truncateMicrosecond b.timestamp ∧
        a.input tenantID = b.input tenantID) ↔
      a.command = b.command ∧ ClearFields (a.input tenantID) (b.input tenantID) := by
  have hhashed := (verifyJournalSlice_eq_ok.mp haccept).hashed a ha
  have hhashed' := (verifyJournalSlice_eq_ok.mp haccept').hashed b hb
  constructor
  · rintro ⟨-, -, hinput⟩
    refine ⟨congrArg JournalInput.command hinput, ?_⟩
    rw [hinput]
    exact .refl _
  · rintro ⟨hcommand, hclear⟩
    obtain ⟨-, hcanonical⟩ := canonical_of_entryHash hhashed hhashed' (by rw [hentry]) hcollision
    have htenant : (a.input tenantID).tenantID = (b.input tenantID).tenantID := rfl
    obtain ⟨hseq, hts, hinput⟩ := eq_of_journalCanonical htenant hclear hcanonical
    refine ⟨hseq, hts, ?_⟩
    rw [← hinput]
    simp [JournalRecord.input, hcommand]

/-! Hashing by the identity, which has no collisions at all. -/

def sampleCrypto : Crypto :=
  { sha256 := id, verifyASN1 := fun _ _ _ => true, verify := fun _ _ _ _ => false }

def sampleRow (command : Bytes) (nanosecond : Fin 1000000000) : JournalRecord :=
  { buildJournalRecord sampleCrypto (text "tenant-a") 1 ⟨2026, 3, 1, 12, 0, 0, 0⟩
      (List.replicate 32 0) (text "user") (text "operator") (text "enable") (text "accepted") with
    command := command
    timestamp := ⟨2026, 3, 1, 12, 0, 0, nanosecond⟩ }

theorem journal_entry_binding_iff_row :
    ((sampleRow (text "enable") 0).seq = (sampleRow (text "enable") 7).seq ∧
      truncateMicrosecond (sampleRow (text "enable") 0).timestamp =
        truncateMicrosecond (sampleRow (text "enable") 7).timestamp ∧
      (sampleRow (text "enable") 0).input (text "tenant-a") =
        (sampleRow (text "enable") 7).input (text "tenant-a")) ↔
      (sampleRow (text "enable") 0).command = (sampleRow (text "enable") 7).command ∧
        ClearFields ((sampleRow (text "enable") 0).input (text "tenant-a"))
          ((sampleRow (text "enable") 7).input (text "tenant-a")) := by
  have haccept : verifyJournalSlice sampleCrypto (text "tenant-a") [sampleRow (text "enable") 0]
      {} = .ok () := by
    decide +kernel
  have haccept' : verifyJournalSlice sampleCrypto (text "tenant-a") [sampleRow (text "enable") 7]
      {} = .ok () := by
    decide +kernel
  exact journal_entry_binding_iff (by simp) (by simp) haccept haccept' rfl id

/-- The command of an accepted row can be replaced. -/
theorem command_not_bound :
    (∀ command ∈ [text "enable", text "delete"], verifyJournalSlice sampleCrypto (text "tenant-a")
      [sampleRow command 0] { firstSeq := 1, lastSeq := 1 } = .ok ()) ∧
    (sampleRow (text "enable") 0).prevHash = (sampleRow (text "delete") 0).prevHash ∧
    (sampleRow (text "enable") 0).entryHash = (sampleRow (text "delete") 0).entryHash ∧
    (sampleRow (text "enable") 0).input (text "tenant-a") ≠
      (sampleRow (text "delete") 0).input (text "tenant-a") := by
  refine ⟨by decide +kernel, rfl, rfl, ?_⟩
  decide +kernel

end OpenIotRsp.Dataact
