import OpenIotRsp.Verification.Dataact.Bundle

/-!
# The canonical form of a file list

The names are written without their lengths, so a name with a zero octet can
stand for a name, its digest and another name.  Lists whose names have none, and
which have no entry for the manifest, are told apart.
-/

namespace OpenIotRsp.Dataact

open Octets Delimited Euiccpkg

variable {C : Crypto} {z : Archive} {files : List ManifestFile} {entry : ManifestFile}
  {files' : List ManifestFile}

/-- The loop of the validation over the listed files. -/
def Checked (C : Crypto) (z : Archive) (files : List ManifestFile) : Prop :=
  files.forM (checkFile C z) = .ok ()

theorem mem_filePairs_byName {files : List ManifestFile} {pair : Bytes × Bytes} :
    pair ∈ filePairs (byName files) ↔ pair ∈ filePairs files := by
  simp only [filePairs, List.mem_map, mem_byName]

theorem Checked.matches (h : Checked C z files) (hentry : entry ∈ files)
    (hname : entry.name ≠ fileManifest) : ∃ payload, FileMatches C z entry payload :=
  (checkFile_eq_ok hname).mp (Outcome.forM_eq_ok.mp h entry hentry)

/-! ## Order -/

theorem pairwise_byName (files : List ManifestFile) :
    (byName files).Pairwise fun a b => a.name ≤ b.name := by
  have : Std.Total fun a b : ManifestFile => a.name ≤ b.name :=
    ⟨fun a b => List.le_total a.name b.name⟩
  have : IsTrans ManifestFile fun a b => a.name ≤ b.name := ⟨fun _ _ _ => List.le_trans⟩
  exact List.pairwise_insertionSort _ files

/-- Entries of one name have one digest in a list that passes the checks. -/
theorem Checked.sha256_eq (h : Checked C z files) {a b : ManifestFile} (ha : a ∈ files)
    (hb : b ∈ files) (hname : a.name = b.name) (hne : a.name ≠ fileManifest) :
    a.sha256 = b.sha256 := by
  obtain ⟨payload, hmatches⟩ := h.matches ha hne
  obtain ⟨payload', hmatches'⟩ := h.matches hb (hname ▸ hne)
  have hcontent := hmatches.content
  rw [hname] at hcontent
  obtain rfl := Option.some.inj (hcontent.symm.trans hmatches'.content)
  rw [hmatches.sha256, hmatches'.sha256]

/-- The octets of an entry, by its name and digest. -/
def pairOctets (pair : Bytes × Bytes) : Bytes := pair.1 ++ [0] ++ (Hex.decode pair.2).getD []

theorem flatMap_canonicalEntry (files : List ManifestFile) :
    files.flatMap canonicalEntry = (filePairs files).flatMap pairOctets := by
  rw [filePairs, List.flatMap_map]
  rfl

theorem contentCanonical_of_perm (hchecked : Checked C z files)
    (hmanifest : ∀ entry ∈ files, entry.name ≠ fileManifest) (hperm : files'.Perm files) :
    contentCanonical files' = contentCanonical files := by
  have hsorted (files : List ManifestFile) : (filePairs (byName files)).Pairwise (·.1 ≤ ·.1) :=
    List.pairwise_map.mpr (pairwise_byName files)
  have hpairs : (filePairs (byName files')).Perm (filePairs (byName files)) :=
    (((List.perm_insertionSort _ files').trans hperm).trans
      (List.perm_insertionSort _ files).symm).map _
  rw [contentCanonical_eq, contentCanonical_eq, flatMap_canonicalEntry, flatMap_canonicalEntry]
  congr 1
  refine hpairs.eq_of_pairwise ?_ (hsorted files') (hsorted files)
  intro a b ha hb hle hge
  obtain ⟨x, hx, rfl⟩ := List.mem_map.mp ha
  obtain ⟨y, hy, rfl⟩ := List.mem_map.mp hb
  have hx' := hperm.mem_iff.mp (mem_byName.mp hx)
  have hname : x.name = y.name := List.le_antisymm hle hge
  exact Prod.ext hname (hchecked.sha256_eq hx' (mem_byName.mp hy) hname (hmanifest x hx'))

/-! ## Plain lists -/

theorem pairs_of_plain (hsize : ∀ x, (C.sha256 x).length = hashSize) (hchecked : Checked C z files)
    (hplain : PlainFiles files) {z' : Archive} (hchecked' : Checked C z' files')
    (hplain' : PlainFiles files') (heq : contentCanonical files' = contentCanonical files)
    (pair : Bytes × Bytes) : pair ∈ filePairs files' ↔ pair ∈ filePairs files := by
  have hpairs := filePairs_eq_of_flatMap
    (readable_of_matches hsize (fun _ => hchecked'.matches) hplain')
    (readable_of_matches hsize (fun _ => hchecked.matches) hplain) heq
  rw [← mem_filePairs_byName, ← @mem_filePairs_byName files, hpairs]

/-! ## Other lists with the same octets -/

theorem length_byName (files : List ManifestFile) : (byName files).length = files.length :=
  List.length_insertionSort _ files

/-- All entries but the last in the name of the last one. -/
def mergedName (before : List ManifestFile) (last : ManifestFile) : Bytes :=
  before.flatMap canonicalEntry ++ last.name

theorem zero_mem_mergedName {before : List ManifestFile} (h : before ≠ []) (last : ManifestFile) :
    0 ∈ mergedName before last := by
  obtain ⟨entry, hentry⟩ := List.exists_mem_of_ne_nil before h
  refine List.mem_append_left _ (List.mem_flatMap.mpr ⟨entry, hentry, ?_⟩)
  simp [canonicalEntry]

/-- A list of at least two files has the octets of a list with a single one. -/
theorem exists_merged (hchecked : Checked C z files) (hplain : PlainFiles files)
    (hlength : 1 < files.length) :
    ∃ z' files', Checked C z' files' ∧ contentCanonical files' = contentCanonical files ∧
      ¬ ∀ pair, pair ∈ filePairs files' ↔ pair ∈ filePairs files := by
  have hsorted := length_byName files
  have hne : byName files ≠ [] := List.ne_nil_of_length_pos (by omega)
  obtain ⟨before, last, hsplit⟩ := (List.eq_nil_or_concat' (byName files)).resolve_left hne
  rw [hsplit, List.length_append, List.length_singleton] at hsorted
  have hzero := zero_mem_mergedName (List.ne_nil_of_length_pos (by omega : 0 < before.length)) last
  have hmanifest : mergedName before last ≠ fileManifest := by
    intro heq
    rw [heq] at hzero
    exact absurd hzero (by decide)
  have hlast : last ∈ files := mem_byName.mp (hsplit ▸ List.mem_concat_self)
  obtain ⟨payload, hmatches⟩ := hchecked.matches hlast (hplain last hlast).1
  refine ⟨[⟨mergedName before last, some payload⟩],
    [⟨mergedName before last, (ndjsonLines payload).length, last.sha256⟩], ?_, ?_, ?_⟩
  · refine Outcome.forM_eq_ok.mpr (List.forall_mem_singleton.mpr ((checkFile_eq_ok hmanifest).mpr
      ⟨payload, ?_, hmatches.sha256, fun _ => rfl⟩))
    simp [Archive.content, Archive.find]
  · rw [contentCanonical_eq files, hsplit]
    simp [contentCanonical, canonicalEntry, mergedName]
  · intro h
    obtain ⟨entry, hentry, hpair⟩ := List.mem_map.mp ((h _).mp List.mem_cons_self)
    refine (hplain entry hentry).2 ?_
    rw [(Prod.mk.inj hpair).1]
    exact hzero

/-- No entry of a checked list has a zero octet in its name where the octets are those of a single
plain file: the name would end within that of the file. -/
theorem zero_notMem_name (hsize : ∀ x, (C.sha256 x).length = hashSize)
    (hchecked : Checked C z files) (hentry : entry ∈ files) {name digest rest : Bytes}
    (hname : 0 ∉ name) (hdigest : digest.length = hashSize)
    (heq : canonicalEntry entry ++ rest = name ++ 0 :: digest) : 0 ∉ entry.name := by
  by_cases hmanifest : entry.name = fileManifest
  · rw [hmanifest]
    decide
  · obtain ⟨payload, hmatches⟩ := hchecked.matches hentry hmanifest
    rw [canonicalEntry_of_digest hmatches.sha256, List.append_assoc] at heq
    have hle : entry.name.length ≤ name.length := by
      have hlength := congrArg List.length heq
      simp only [List.length_append, List.length_cons, hsize, hdigest] at hlength
      omega
    have hfront : entry.name <+: name :=
      List.prefix_of_prefix_length_le (heq ▸ List.prefix_append ..) (List.prefix_append ..) hle
    exact fun hmem => hname (hfront.subset hmem)

theorem eq_nil_of_flatMap {files : List ManifestFile} (h : files.flatMap canonicalEntry = []) :
    files = [] := by
  cases files with
  | nil => rfl
  | cons entry files => simp [canonicalEntry] at h

/-- The octets of a single plain file are those of no other list. -/
theorem pairs_of_single (hsize : ∀ x, (C.sha256 x).length = hashSize)
    (hchecked : Checked C z [entry]) (hplain : PlainFiles [entry]) {z' : Archive}
    (hchecked' : Checked C z' files') (heq : contentCanonical files' = contentCanonical [entry]) :
    filePairs (byName files') = filePairs [entry] := by
  obtain ⟨hmanifest, hzero⟩ := hplain entry List.mem_cons_self
  obtain ⟨payload, hmatches⟩ := hchecked.matches List.mem_cons_self hmanifest
  have hsingle : contentCanonical [entry] = entry.name ++ 0 :: C.sha256 payload := by
    rw [← canonicalEntry_of_digest hmatches.sha256]
    exact List.flatMap_singleton ..
  rw [hsingle, contentCanonical_eq] at heq
  cases hsorted : byName files' with
  | nil => simp [hsorted] at heq
  | cons first rest =>
      rw [hsorted, List.flatMap_cons] at heq
      have hfirst : first ∈ files' := mem_byName.mp (hsorted ▸ List.mem_cons_self)
      have hzero' := zero_notMem_name hsize hchecked' hfirst hzero (hsize payload) heq
      rw [canonicalEntry, List.append_assoc, List.append_assoc] at heq
      obtain ⟨hname, -⟩ := append_mark_inj hzero' hzero heq
      obtain ⟨payload', hmatches'⟩ := hchecked'.matches hfirst (hname ▸ hmanifest)
      rw [hmatches'.sha256, Hex.decode_encode] at heq
      have hdigest : C.sha256 payload' ++ rest.flatMap canonicalEntry = C.sha256 payload :=
        (append_mark_inj hzero' hzero heq).2
      obtain ⟨hhash, hrest⟩ := List.append_inj (hdigest.trans (List.append_nil _).symm)
        (by rw [hsize, hsize])
      obtain rfl := eq_nil_of_flatMap hrest
      simp [filePairs, hname, hmatches.sha256, hmatches'.sha256, hhash]

/-- **Canonical form.**  The octets of a checked list of plain names do not depend on its order and
tell it from the other lists of plain names; they tell it from the lists with any names just when it
has at most one entry. -/
theorem canonical_form_injective (hsize : ∀ x, (C.sha256 x).length = hashSize)
    (hchecked : Checked C z files) (hplain : PlainFiles files) :
    (∀ files', files'.Perm files → contentCanonical files' = contentCanonical files) ∧
    (∀ z' files', Checked C z' files' → PlainFiles files' →
      contentCanonical files' = contentCanonical files →
      ∀ pair, pair ∈ filePairs files' ↔ pair ∈ filePairs files) ∧
    ((∀ z' files', Checked C z' files' → contentCanonical files' = contentCanonical files →
      ∀ pair, pair ∈ filePairs files' ↔ pair ∈ filePairs files) ↔ files.length ≤ 1) := by
  refine ⟨fun files' => contentCanonical_of_perm hchecked fun entry hentry => (hplain entry hentry).1,
    fun z' files' => pairs_of_plain hsize hchecked hplain, ?_, ?_⟩
  · intro h
    by_contra hlength
    obtain ⟨z', files', hchecked', heq, hpairs⟩ :=
      exists_merged hchecked hplain (Nat.lt_of_not_le hlength)
    exact hpairs (h z' files' hchecked' heq)
  · intro hlength z' files' hchecked' heq pair
    rw [← mem_filePairs_byName]
    cases files with
    | nil => rw [show byName files' = [] from eq_nil_of_flatMap heq]
    | cons entry rest =>
        obtain rfl : rest = [] := List.length_eq_zero_iff.mp (by simpa using hlength)
        rw [pairs_of_single hsize hchecked hplain hchecked' heq]

/-! Archives of empty files: a name that holds another name and its digest, and two entries for the
manifest. -/

def emptyFiles (names : List Bytes) : Archive := names.map fun name => ⟨name, some []⟩

def emptyEntry (C : Crypto) (name : Bytes) : ManifestFile := ⟨name, 0, Hex.encode (C.sha256 [])⟩

theorem content_emptyFiles {names : List Bytes} {name : Bytes} (h : name ∈ names) :
    (emptyFiles names).content name = some [] := by
  induction names with
  | nil => cases h
  | cons other names ih =>
      by_cases heq : other = name
      · simp [Archive.content, Archive.find, emptyFiles, heq]
      · have hrest := ih ((List.mem_cons.mp h).resolve_left (Ne.symm heq))
        simpa [Archive.content, Archive.find, emptyFiles, heq] using hrest

theorem checked_emptyFiles (C : Crypto) {names : List Bytes} (h : fileManifest ∉ names) :
    Checked C (emptyFiles names) (names.map (emptyEntry C)) := by
  refine Outcome.forM_eq_ok.mpr fun entry hentry => ?_
  obtain ⟨name, hname, rfl⟩ := List.mem_map.mp hentry
  have hmanifest : name ≠ fileManifest := fun heq => h (heq ▸ hname)
  exact (checkFile_eq_ok hmanifest).mpr ⟨[], content_emptyFiles hname, rfl, fun _ => rfl⟩

def sampleNames : List Bytes := [text "a", text "b"]

/-- The first name, its digest and the second name. -/
def sampleMerged (C : Crypto) : Bytes := text "a" ++ 0 :: (C.sha256 [] ++ text "b")

def sampleManifestEntry (digest : String) : ManifestFile := ⟨fileManifest, 0, text digest⟩

theorem canonical_form_ambiguous :
    (∀ C : Crypto, Checked C (emptyFiles sampleNames) (sampleNames.map (emptyEntry C)) ∧
        Checked C (emptyFiles [sampleMerged C]) [emptyEntry C (sampleMerged C)] ∧
        contentCanonical (sampleNames.map (emptyEntry C)) =
          contentCanonical [emptyEntry C (sampleMerged C)] ∧
        ¬ ∀ pair, pair ∈ filePairs (sampleNames.map (emptyEntry C)) ↔
          pair ∈ filePairs [emptyEntry C (sampleMerged C)]) ∧
      ∀ (C : Crypto) (z : Archive),
        Checked C z [sampleManifestEntry "aa", sampleManifestEntry "bb"] ∧
        contentCanonical [sampleManifestEntry "aa", sampleManifestEntry "bb"] ≠
          contentCanonical [sampleManifestEntry "bb", sampleManifestEntry "aa"] := by
  refine ⟨fun C => ⟨checked_emptyFiles C (by decide), ?_, ?_, ?_⟩, fun C z => ⟨rfl, by decide +kernel⟩⟩
  · refine @checked_emptyFiles C [sampleMerged C] ?_
    rw [List.mem_singleton]
    intro heq
    have hzero : 0 ∈ fileManifest := by simp [heq, sampleMerged]
    exact absurd hzero (by decide)
  · have hsorted : byName (sampleNames.map (emptyEntry C)) = sampleNames.map (emptyEntry C) := rfl
    rw [contentCanonical_eq, hsorted]
    simp [contentCanonical, canonicalEntry, sampleNames, emptyEntry, sampleMerged, Hex.decode_encode]
  · intro h
    obtain ⟨hname, -⟩ := Prod.mk.inj (List.mem_singleton.mp ((h _).mp List.mem_cons_self))
    have hlength := congrArg List.length hname
    simp [emptyEntry, sampleMerged] at hlength

theorem canonical_form_injective_two_files :
    PlainFiles (sampleNames.map (emptyEntry sampleBundleCrypto)) ∧
      contentCanonical ((sampleNames.map (emptyEntry sampleBundleCrypto)).reverse) =
        contentCanonical (sampleNames.map (emptyEntry sampleBundleCrypto)) ∧
      ¬ ∀ z' files', Checked sampleBundleCrypto z' files' →
        contentCanonical files' = contentCanonical (sampleNames.map (emptyEntry sampleBundleCrypto)) →
        ∀ pair, pair ∈ filePairs files' ↔
          pair ∈ filePairs (sampleNames.map (emptyEntry sampleBundleCrypto)) := by
  have hplain : PlainFiles (sampleNames.map (emptyEntry sampleBundleCrypto)) := by
    simp only [PlainFiles, sampleNames, List.map_cons, List.map_nil, List.forall_mem_cons]
    exact ⟨⟨by decide, by decide⟩, ⟨by decide, by decide⟩, nofun⟩
  have hchecked := @checked_emptyFiles sampleBundleCrypto sampleNames (by decide)
  obtain ⟨horder, -, hany⟩ := canonical_form_injective
    (fun x => by simp [sampleBundleCrypto, hashSize]) hchecked hplain
  exact ⟨hplain, horder _ (List.reverse_perm _), fun h => absurd (hany.mp h) (by decide)⟩

end OpenIotRsp.Dataact
