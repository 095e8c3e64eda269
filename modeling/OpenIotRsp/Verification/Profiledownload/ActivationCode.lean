import OpenIotRsp.Library.Trim
import OpenIotRsp.Model.Profiledownload

/-!
# Activation codes

An activation code is read back from both of its forms.  One that is put
together from an address and a matching identifier means these two just when
neither holds a separator; the builder does not check that.
-/

namespace OpenIotRsp.Profiledownload

open Octets Text Asn1

/-- What an activation code asks for. -/
def ActivationCode.target (c : ActivationCode) : Bytes × Bytes := (c.smdpAddress, c.matchingID)

/-! ## What is read -/

theorem solid_version : Solid 0x31 := by decide

theorem solid_separator : Solid partSeparator := by decide

theorem solid_scheme : Solid 0x4c := by decide

/-- The code that is left without its scheme is the version, a separator, and further parts. -/
theorem parseActivationCode_eq_ok {value : Bytes} {c : ActivationCode} :
    parseActivationCode value = .ok c ↔ ∃ tail address rest,
      trimPrefix lpaScheme (trimSpace value) = formatVersion ++ partSeparator :: tail ∧
        splitOn partSeparator tail = address :: rest ∧ trimSpace address ≠ [] ∧
        c = ⟨trimSpace address, trimSpace (rest.headD []), trimSpace value⟩ := by
  simp only [parseActivationCode]
  constructor
  · intro h
    split at h
    next version address rest hsplit =>
        obtain ⟨hvalid, hc⟩ := Outcome.guard_eq_ok.mp h
        push Not at hvalid
        obtain ⟨hversion, haddress⟩ := hvalid
        obtain ⟨tail, htrimmed, htail⟩ := eq_append_cons_of_splitOn hsplit
        rw [hversion] at htrimmed
        exact ⟨tail, address, rest, htrimmed, htail, haddress, (Except.ok.inj hc).symm⟩
    next => cases h
  · rintro ⟨tail, address, rest, htrimmed, htail, haddress, rfl⟩
    have hversion : partSeparator ∉ formatVersion := by decide
    rw [htrimmed, splitOn_append_cons hversion, htail]
    exact Outcome.guard_eq_ok.mpr ⟨by simp [haddress], rfl⟩

/-- What is asked for depends on the trimmed code only. -/
theorem target_of_trimmed_eq {s t : Bytes} {c : ActivationCode}
    (hs : parseActivationCode s = .ok c)
    (h : trimPrefix lpaScheme (trimSpace t) = trimPrefix lpaScheme (trimSpace s)) :
    (parseActivationCode t).map ActivationCode.target = .ok c.target := by
  obtain ⟨tail, address, rest, htrimmed, htail, haddress, rfl⟩ := parseActivationCode_eq_ok.mp hs
  rw [parseActivationCode_eq_ok.mpr
    ⟨tail, address, rest, h.trans htrimmed, htail, haddress, rfl⟩]
  rfl

/-! ## The forms of a code -/

theorem trimPrefix_version (tail : Bytes) :
    trimPrefix lpaScheme (formatVersion ++ tail) = formatVersion ++ tail := by
  simp [trimPrefix, lpaScheme, formatVersion, List.isPrefixOf]

theorem trimPrefix_scheme (s : Bytes) : trimPrefix lpaScheme (lpaScheme ++ s) = s := by
  simp [trimPrefix]

/-- Only the end of a code is trimmed, and no further than to a separator. -/
theorem trimSpace_code (u v : Bytes) {c : UInt8} (hc : Solid c) :
    trimSpace (c :: (u ++ partSeparator :: v)) = c :: (u ++ partSeparator :: trimRight v) := by
  rw [← List.nil_append (c :: _), trimSpace_append_cons hc, trimRight_append_cons solid_separator]
  rfl

/-- A code is read again from both of its forms. -/
theorem target_of_forms {s : Bytes} {c : ActivationCode} (h : parseActivationCode s = .ok c) :
    (parseActivationCode c.string).map ActivationCode.target = .ok c.target ∧
      (parseActivationCode c.lpaString).map ActivationCode.target = .ok c.target := by
  obtain ⟨tail, address, rest, htrimmed, htail, haddress, hc⟩ := parseActivationCode_eq_ok.mp h
  have hstring : c.string = formatVersion ++ partSeparator :: tail := by rw [hc, ← htrimmed]; rfl
  -- the end of the code has been trimmed with the whole
  have hend : trimRight tail = tail := by
    obtain ⟨start, hstart⟩ : ∃ start, trimSpace s = start ++ partSeparator :: tail := by
      rw [trimPrefix] at htrimmed
      split at htrimmed
      next hscheme =>
          obtain ⟨code, hcode⟩ := List.isPrefixOf_iff_prefix.mp hscheme
          rw [← hcode, List.drop_left] at htrimmed
          exact ⟨lpaScheme ++ formatVersion, by rw [← hcode, htrimmed, List.append_assoc]⟩
      next => exact ⟨formatVersion, htrimmed⟩
    have hagain := trimRight_trimRight (trimLeft s)
    rw [← trimSpace_eq, hstart, trimRight_append_cons solid_separator] at hagain
    exact (List.cons.inj (List.append_cancel_left hagain)).2
  refine ⟨target_of_trimmed_eq h ?_, target_of_trimmed_eq h ?_⟩
  · rw [htrimmed, hstring, ← trimPrefix_version]
    exact congrArg _ ((trimSpace_code [] tail solid_version).trans (by rw [hend]; rfl))
  · have hform : c.lpaString =
        0x4c :: ([0x50, 0x41, 0x3a] ++ formatVersion ++ partSeparator :: tail) := by
      rw [ActivationCode.lpaString, hstring]
      rfl
    rw [htrimmed, hform, trimSpace_code _ _ solid_scheme, hend]
    exact trimPrefix_scheme _

/-! ## Codes from an address and a matching identifier -/

/-- The code of a trigger that is built has the two strings in it as they are. -/
theorem newSMDPAddressTrigger_eq_ok {smdpAddress matchingID : Bytes}
    {transactionID : Option Bytes} {request : ProfileDownloadTriggerRequest}
    (h : newSMDPAddressTrigger smdpAddress matchingID transactionID = .ok request) :
    trimSpace smdpAddress ≠ [] ∧
      request.profileDownloadData = some (.activationCode
        (formatVersion ++ partSeparator ::
          (smdpAddress ++ partSeparator :: trimRight matchingID))) := by
  obtain ⟨haddress, h⟩ := Outcome.guard_eq_ok.mp h
  obtain ⟨-, h⟩ := Outcome.guard_eq_ok.mp h
  obtain ⟨parsed, hparsed, h⟩ := Outcome.bind_eq_ok.mp h
  obtain ⟨tail, address, rest, -, -, -, hraw⟩ := parseActivationCode_eq_ok.mp hparsed
  have hstring : parsed.string = formatVersion ++ partSeparator ::
      (smdpAddress ++ partSeparator :: trimRight matchingID) := by
    rw [hraw, ActivationCode.string, ← trimPrefix_version]
    exact congrArg _ (trimSpace_code (partSeparator :: smdpAddress) matchingID solid_version)
  rw [← hstring]
  simp only [Outcome.throw_eq, Outcome.pure_eq] at h
  obtain ⟨-, h⟩ := Outcome.guard_eq_ok.mp h
  exact ⟨haddress, by rw [← Except.ok.inj h]; rfl⟩

/-- A code put together from an address and an identifier is read as these two just when neither
holds a separator. -/
theorem target_of_parts {smdpAddress matchingID : Bytes} (haddress : trimSpace smdpAddress ≠ []) :
    (parseActivationCode (formatVersion ++ partSeparator ::
        (smdpAddress ++ partSeparator :: trimRight matchingID))).map ActivationCode.target =
        .ok (trimSpace smdpAddress, trimSpace matchingID) ↔
      partSeparator ∉ smdpAddress ∧ partSeparator ∉ matchingID := by
  have htrimmed : trimPrefix lpaScheme (trimSpace (formatVersion ++ partSeparator ::
      (smdpAddress ++ partSeparator :: trimRight matchingID))) =
        formatVersion ++ partSeparator :: (smdpAddress ++ partSeparator :: trimRight matchingID) := by
    have htrim := trimSpace_code (partSeparator :: smdpAddress) (trimRight matchingID) solid_version
    rw [trimRight_trimRight] at htrim
    exact (congrArg _ htrim).trans (trimPrefix_version _)
  constructor
  · intro h
    cases hparse : parseActivationCode (formatVersion ++ partSeparator ::
        (smdpAddress ++ partSeparator :: trimRight matchingID)) with
    | error e => simp [hparse, Except.map] at h
    | ok c =>
        obtain ⟨tail, address, rest, -, htail, -, rfl⟩ := parseActivationCode_eq_ok.mp hparse
        rw [hparse] at h
        obtain ⟨hfirst, hsecond⟩ := Prod.mk.inj (Except.ok.inj h)
        have hparts : ∀ part ∈ address :: rest, partSeparator ∉ trimSpace part := by
          intro part hpart
          rw [mem_trimSpace solid_separator]
          exact not_mem_of_mem_splitOn (htail ▸ hpart)
        rw [← mem_trimSpace solid_separator, ← mem_trimSpace (s := matchingID) solid_separator,
          ← hfirst, ← hsecond]
        refine ⟨hparts address List.mem_cons_self, ?_⟩
        cases rest with
        | nil => exact (by decide : partSeparator ∉ trimSpace [])
        | cons part rest => exact hparts part (by simp)
  · rintro ⟨hfirst, hsecond⟩
    have hsplit : splitOn partSeparator (smdpAddress ++ partSeparator :: trimRight matchingID) =
        [smdpAddress, trimRight matchingID] := by
      rw [splitOn_append_cons hfirst,
        splitOn_of_not_mem fun h => hsecond (mem_of_mem_trimRight h)]
    rw [parseActivationCode_eq_ok.mpr ⟨_, _, _, htrimmed, hsplit, haddress, rfl⟩]
    exact congrArg (fun id => Except.ok (trimSpace smdpAddress, id)) (trimSpace_trimRight matchingID)

/-- The trigger for an address and a matching identifier means these two just when neither holds a
separator, and every code that is read means the same in both of its forms. -/
theorem activationCode_means_iff (smdpAddress matchingID : Bytes) (transactionID : Option Bytes) :
    (∀ request, newSMDPAddressTrigger smdpAddress matchingID transactionID = .ok request →
      ∃ code, request.profileDownloadData = some (.activationCode code) ∧
        ((parseActivationCode code).map ActivationCode.target =
            .ok (trimSpace smdpAddress, trimSpace matchingID) ↔
          partSeparator ∉ smdpAddress ∧ partSeparator ∉ matchingID)) ∧
      ∀ s c, parseActivationCode s = .ok c →
        (parseActivationCode c.string).map ActivationCode.target = .ok c.target ∧
          (parseActivationCode c.lpaString).map ActivationCode.target = .ok c.target := by
  refine ⟨fun request h => ?_, fun s c => target_of_forms⟩
  obtain ⟨haddress, hdata⟩ := newSMDPAddressTrigger_eq_ok h
  exact ⟨_, hdata, target_of_parts haddress⟩

theorem activationCode_means_iff_plain :
    ∃ code, (parseActivationCode code).map ActivationCode.target = .ok ([0x61, 0x2e, 0x62], [0x4d]) := by
  have htrigger : newSMDPAddressTrigger [0x20, 0x61, 0x2e, 0x62] [0x4d, 0x20] none =
      .ok (trigger (.activationCode [0x31, 0x24, 0x20, 0x61, 0x2e, 0x62, 0x24, 0x4d]) none) := by
    decide +kernel
  obtain ⟨code, -, hmeans⟩ := (activationCode_means_iff _ _ _).1 _ htrigger
  exact ⟨code, hmeans.mpr (by decide)⟩

/-- An address with a separator is accepted and read as an address and an identifier. -/
theorem separator_changes_target :
    newSMDPAddressTrigger [0x61, 0x24, 0x62] [0x4d] none =
        .ok (trigger (.activationCode [0x31, 0x24, 0x61, 0x24, 0x62, 0x24, 0x4d]) none) ∧
      (parseActivationCode [0x31, 0x24, 0x61, 0x24, 0x62, 0x24, 0x4d]).map ActivationCode.target =
        .ok ([0x61], [0x62]) := by
  decide +kernel

end OpenIotRsp.Profiledownload
