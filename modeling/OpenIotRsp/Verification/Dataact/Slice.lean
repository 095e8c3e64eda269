import OpenIotRsp.Verification.Dataact.Journal

/-!
# Complete journal slices

A slice is complete when its rows are those of the range its anchor names.  The
links between the rows and to the anchors are checked, their numbers are not, and
neither is that there are rows at all.  Under an anchor that was made for a
complete slice, the links are enough for a slice with rows.
-/

namespace OpenIotRsp.Dataact

open Octets Delimited Rfc3339 Euiccpkg

variable {C : Crypto} {tenantID : Bytes} {anchor : JournalChainAnchor} {entries : List JournalRecord}

/-- The rows are those of the range, one after the other, each linked to the one before it. -/
structure Complete (anchor : JournalChainAnchor) (entries : List JournalRecord) : Prop where
  nonempty : entries ≠ []
  first : ∀ entry ∈ entries.head?, entry.seq = anchor.firstSeq
  last : ∀ entry ∈ entries.getLast?, entry.seq = anchor.lastSeq
  consecutive : entries.IsChain fun a b => b.seq.toInt = a.seq.toInt + 1
  linked : entries.IsChain fun a b => b.prevHash = a.entryHash

/-- Completeness is about the numbers and the links of the rows only. -/
theorem Complete.of_map_seq {log : List JournalRecord} (h : Complete anchor log)
    (hseq : entries.map JournalRecord.seq = log.map JournalRecord.seq)
    (hlinked : entries.IsChain fun a b => b.prevHash = a.entryHash) : Complete anchor entries := by
  have hchain : (log.map JournalRecord.seq).IsChain fun a b => b.toInt = a.toInt + 1 :=
    (List.isChain_map _).mpr h.consecutive
  refine ⟨?_, ?_, ?_, ?_, hlinked⟩
  · rintro rfl
    exact h.nonempty (List.map_eq_nil_iff.mp hseq.symm)
  · intro entry hentry
    have hhead := congrArg List.head? hseq
    rw [List.head?_map, List.head?_map, hentry] at hhead
    obtain ⟨first, hfirst, heq⟩ := Option.map_eq_some_iff.mp hhead.symm
    rw [← heq, h.first first hfirst]
  · intro entry hentry
    have hlast := congrArg List.getLast? hseq
    rw [List.getLast?_map, List.getLast?_map, hentry] at hlast
    obtain ⟨last, hlast', heq⟩ := Option.map_eq_some_iff.mp hlast.symm
    rw [← heq, h.last last hlast']
  · rw [← hseq, List.isChain_map] at hchain
    exact hchain

/-! ## Slices with the same anchors -/

/-- The hash, as octets, that the rows end with. -/
def tipHash (before : Option Bytes) (entries : List JournalRecord) : Option Bytes :=
  entries.getLast?.elim before fun entry => Hex.decode entry.entryHash

/-- No row leads back to the hash before the slice. -/
def Fresh (before : Option Bytes) (entries : List JournalRecord) : Prop :=
  ∀ entry ∈ entries, Hex.decode entry.entryHash ≠ before

/-- Rows with the hash that each row takes from the one before it. -/
structure Rows (C : Crypto) (tenantID : Bytes) (before : Option Bytes)
    (entries : List JournalRecord) : Prop where
  hashed : ∀ entry ∈ entries, Hashed C tenantID entry
  linked : entries.IsChain fun a b => b.prevHash = a.entryHash
  first : ∀ entry ∈ entries.head?, Hex.decode entry.prevHash = before

theorem Chained.rows (h : Chained C tenantID anchor entries) (hbefore : anchor.prevHashBefore ≠ []) :
    Rows C tenantID (Hex.decode anchor.prevHashBefore) entries :=
  ⟨h.hashed, h.linked, fun entry hentry => by rw [h.first hbefore entry hentry]⟩

namespace Rows

variable {before : Option Bytes} {last last' : JournalRecord} {log : List JournalRecord}

theorem init (h : Rows C tenantID before (entries ++ [last])) : Rows C tenantID before entries := by
  refine ⟨fun entry hentry => h.hashed entry (by simp [hentry]),
    (List.isChain_append.mp h.linked).1, fun entry hentry => h.first entry ?_⟩
  rw [List.head?_append, hentry]
  rfl

theorem prevHash_last (h : Rows C tenantID before (entries ++ [last])) :
    Hex.decode last.prevHash = tipHash before entries := by
  cases hlast : entries.getLast? with
  | none =>
      obtain rfl := List.getLast?_eq_none_iff.mp hlast
      exact h.first last rfl
  | some entry =>
      have hlink := (List.isChain_append.mp h.linked).2.2 entry hlast last rfl
      rw [tipHash, hlast, hlink]
      rfl

/-- Without collisions, rows that end with the same hash have the same numbers: the last ones have
the same octets under their hash, and so the same number and the same hash before them. -/
theorem map_seq_eq (h : Rows C tenantID before entries) (h' : Rows C tenantID before log)
    (hfresh : Fresh before entries) (hfresh' : Fresh before log)
    (hcollision : ∀ a ∈ entries, ∀ b ∈ log,
      C.sha256 (hashedOctets tenantID a) = C.sha256 (hashedOctets tenantID b) →
        hashedOctets tenantID a = hashedOctets tenantID b)
    (htip : tipHash before entries = tipHash before log) :
    entries.map JournalRecord.seq = log.map JournalRecord.seq := by
  induction entries using List.reverseRecOn generalizing log with
  | nil =>
      cases hlast : log.getLast? with
      | none => rw [List.getLast?_eq_none_iff.mp hlast]
      | some last =>
          rw [tipHash, tipHash, hlast] at htip
          exact absurd htip.symm (hfresh' last (List.mem_of_getLast? hlast))
  | append_singleton entries entry ih =>
      have hentry : tipHash before (entries ++ [entry]) = Hex.decode entry.entryHash := by
        simp [tipHash]
      rw [hentry] at htip
      rcases List.eq_nil_or_concat log with rfl | ⟨log, last, rfl⟩
      · exact absurd htip (hfresh entry (by simp))
      rw [List.concat_eq_append] at *
      have hlast : tipHash before (log ++ [last]) = Hex.decode last.entryHash := by simp [tipHash]
      rw [hlast] at htip
      obtain ⟨hprev, hcanonical⟩ := canonical_of_entryHash (h.hashed entry (by simp))
        (h'.hashed last (by simp)) htip (hcollision entry (by simp) last (by simp))
      rw [journalCanonical_eq, journalCanonical_eq] at hcanonical
      have hseq := (delimits_int64 trivial hcanonical).1
      have hrest := ih h.init h'.init (fun a ha => hfresh a (by simp [ha]))
        (fun b hb => hfresh' b (by simp [hb]))
        (fun a ha b hb => hcollision a (by simp [ha]) b (by simp [hb]))
        (by rw [← h.prevHash_last, ← h'.prevHash_last, hprev])
      simp [hrest, hseq]

end Rows

/-! ## Acceptance -/

/-- The rows that the anchor was made for. -/
structure Exported (C : Crypto) (tenantID : Bytes) (anchor : JournalChainAnchor)
    (log : List JournalRecord) : Prop where
  accepted : verifyJournalSlice C tenantID log anchor = .ok ()
  complete : Complete anchor log
  fresh : Fresh (Hex.decode anchor.prevHashBefore) log

theorem Chained.tipHash_eq (h : Chained C tenantID anchor entries) (hne : entries ≠ [])
    (hafter : anchor.entryHashAfter ≠ []) (before : Option Bytes) :
    tipHash before entries = Hex.decode anchor.entryHashAfter := by
  have hlast := List.getLast?_eq_some_getLast hne
  rw [tipHash, hlast, Option.elim_some, h.last hafter _ hlast]

/-- Under an anchor that was made for a complete slice, and where no hashes collide, an accepted slice
is complete exactly if it has rows. -/
theorem accepted_slice_complete_iff {log : List JournalRecord}
    (haccept : verifyJournalSlice C tenantID entries anchor = .ok ())
    (hbefore : anchor.prevHashBefore ≠ []) (hafter : anchor.entryHashAfter ≠ [])
    (hlog : Exported C tenantID anchor log)
    (hfresh : Fresh (Hex.decode anchor.prevHashBefore) entries)
    (hcollision : ∀ a ∈ entries, ∀ b ∈ log,
      C.sha256 (hashedOctets tenantID a) = C.sha256 (hashedOctets tenantID b) →
        hashedOctets tenantID a = hashedOctets tenantID b) :
    Complete anchor entries ↔ entries ≠ [] := by
  have hchained := verifyJournalSlice_eq_ok.mp haccept
  have hlogChained := verifyJournalSlice_eq_ok.mp hlog.accepted
  refine ⟨Complete.nonempty, fun hne => hlog.complete.of_map_seq ?_ hchained.linked⟩
  refine (hchained.rows hbefore).map_seq_eq (hlogChained.rows hbefore) hfresh hlog.fresh
    hcollision ?_
  rw [hchained.tipHash_eq hne hafter, hlogChained.tipHash_eq hlog.complete.nonempty hafter]

/-- The anchor of one row, for a range that ends with the given number. -/
def anchorOf (row : JournalRecord) (lastSeq : Int64) : JournalChainAnchor where
  firstSeq := row.seq
  lastSeq := lastSeq
  prevHashBefore := row.prevHash
  entryHashAfter := row.entryHash

theorem accepted_slice_complete_iff_row :
    Complete (anchorOf (sampleRow (text "enable") 0) 1) [sampleRow (text "enable") 0] ↔
      [sampleRow (text "enable") 0] ≠ [] := by
  have haccept : verifyJournalSlice sampleCrypto (text "tenant-a") [sampleRow (text "enable") 0]
      (anchorOf (sampleRow (text "enable") 0) 1) = .ok () := by
    decide +kernel
  have hfresh : Fresh (Hex.decode (sampleRow (text "enable") 0).prevHash)
      [sampleRow (text "enable") 0] := by
    simp only [Fresh, List.forall_mem_singleton]
    decide +kernel
  have hcomplete : Complete (anchorOf (sampleRow (text "enable") 0) 1)
      [sampleRow (text "enable") 0] := by
    refine ⟨List.cons_ne_nil _ _, ?_, ?_, .singleton _, .singleton _⟩
    all_goals
      rintro entry hentry
      obtain rfl := Option.some.inj hentry
      rfl
  exact accepted_slice_complete_iff haccept (by decide +kernel) (by decide +kernel)
    ⟨haccept, hcomplete, hfresh⟩ hfresh (by simp)

/-- No rows are accepted for a range of nine, and one row is as well. -/
theorem truncated_slices_accepted :
    verifyJournalSlice sampleCrypto (text "tenant-a") []
      (anchorOf (sampleRow (text "enable") 0) 9) = .ok () ∧
    ¬ Complete (anchorOf (sampleRow (text "enable") 0) 9) [] ∧
    verifyJournalSlice sampleCrypto (text "tenant-a") [sampleRow (text "enable") 0]
      (anchorOf (sampleRow (text "enable") 0) 9) = .ok () ∧
    ¬ Complete (anchorOf (sampleRow (text "enable") 0) 9) [sampleRow (text "enable") 0] := by
  refine ⟨rfl, fun h => h.nonempty rfl, by decide +kernel, fun h => ?_⟩
  exact absurd (h.last _ rfl) (by decide +kernel)

end OpenIotRsp.Dataact
