import OpenIotRsp.Verification.PackageResult.SignatureBinding

/-!
# The OBJECT IDENTIFIER of a package

The writer of `oidTLV` accepts more than the reader of `oidValue`: arcs above
`2 ^ 31 - 1` are written and not read, and the reader's length prefix has two
octets at most.
-/

namespace OpenIotRsp.Asn1

open Octets Ber

/-! ## Lengths -/

theorem readMinimalLength_lengthBytes {n : Nat} (hn : n < 65536) (contents : Bytes) :
    readMinimalLength (lengthBytes n ++ contents) = some (n, contents) := by
  rw [lengthBytes]
  split
  next hshort =>
      have hnat : (UInt8.ofNat n).toNat = n := by simp; omega
      have hlt : UInt8.ofNat n < 0x80 := by
        rw [UInt8.lt_iff_toNat_lt, hnat]
        exact hshort
      simp [readMinimalLength, hlt, hnat]
  next hlong =>
      split
      next hone =>
          have hnat : (UInt8.ofNat n).toNat = n := by simp; omega
          have hne : UInt8.ofNat n ≠ 0 := by
            rw [← UInt8.toNat_inj.ne, hnat]
            simp
            omega
          simp [readMinimalLength, ofBigEndian, hnat, hne]
          omega
      next htwo =>
          have hhigh : (UInt8.ofNat (n / 256)).toNat = n / 256 := by simp; omega
          have hlow : (UInt8.ofNat n).toNat = n % 256 := by simp
          have hne : UInt8.ofNat (n / 256) ≠ 0 := by
            rw [← UInt8.toNat_inj.ne, hhigh]
            simp
            omega
          simp [readMinimalLength, ofBigEndian, Nat.ofDigits_cons, hhigh, hlow, hne]
          omega

theorem readMinimalLength_le {n : Nat} (hn : 65536 ≤ n) {contents rest : Bytes} {k : Nat}
    (hread : readMinimalLength (lengthBytes n ++ contents) = some (k, rest)) :
    k < 65536 ∧ rest = contents := by
  have hbytes : lengthBytes n = [0x82, UInt8.ofNat (n / 256), UInt8.ofNat n] := by
    rw [lengthBytes, if_neg (by omega), if_neg (by omega)]
  have hlt := ofBigEndian_lt [UInt8.ofNat (n / 256), UInt8.ofNat n]
  rw [hbytes] at hread
  simp only [readMinimalLength, List.cons_append, List.nil_append] at hread
  split at hread
  next hshort => simp at hshort
  next =>
      split at hread
      next => contradiction
      next =>
          obtain ⟨rfl, rfl⟩ := Prod.mk.inj (Option.some.inj hread)
          exact ⟨by simpa using hlt, rfl⟩

/-! ## Contents octets -/

/-- The reader of a tagged identifier: its length octets do not go beyond two octets. -/
theorem oidValue_of_short {tag : Tag} {contents : Bytes} (hlen : contents.length < 65536) :
    oidValue (some (.primitive tag contents)) =
      match parseObjectIdentifier contents with
      | some oid => .ok oid
      | none => .error (.message "asn1: OBJECT IDENTIFIER") := by
  have hread := readMinimalLength_lengthBytes hlen contents
  have hall : unmarshalObjectIdentifier (0x06 :: lengthBytes contents.length ++ contents) =
      (parseObjectIdentifier contents).map fun oid => (oid, []) := by
    simp [unmarshalObjectIdentifier, hread]
  simp only [oidValue, Tlv.value, hall]
  cases parseObjectIdentifier contents with
  | none => rfl
  | some oid => rfl

theorem oidValue_of_long {tag : Tag} {contents : Bytes} (hlen : 65536 ≤ contents.length)
    (oid : ObjectIdentifier) : oidValue (some (.primitive tag contents)) ≠ .ok oid := by
  intro hvalue
  simp only [oidValue, Tlv.value] at hvalue
  split at hvalue
  next => contradiction
  next found hfound =>
      rw [List.cons_append, unmarshalObjectIdentifier, if_pos rfl] at hfound
      obtain ⟨⟨k, rest⟩, hread, hrest⟩ := Option.bind_eq_some_iff.mp hfound
      obtain ⟨hk, rfl⟩ := readMinimalLength_le hlen hread
      -- the length octets name fewer octets than there are, so some are left over
      have hdrop : rest.drop k ≠ [] := by
        simp only [ne_eq, List.drop_eq_nil_iff]
        omega
      split at hrest
      next => contradiction
      next =>
          obtain ⟨read, -, hpair⟩ := Option.map_eq_some_iff.mp hrest
          exact hdrop (Prod.mk.inj hpair).2
  next => contradiction

/-! ## Written and read back -/

variable {B : Bertlv}

theorem oidTLV_eq_ok (hB : B.Lawful) {tag : Tag} {oid : ObjectIdentifier} {t : Tlv}
    (hwrite : oidTLV B tag oid = .ok t) :
    ∃ contents, marshalObjectIdentifier oid = some contents ∧ t = .primitive tag contents := by
  cases hmarshal : marshalOID oid with
  | none => simp [oidTLV, hmarshal] at hwrite
  | some der =>
      obtain ⟨contents, hcontents, hder⟩ := Option.bind_eq_some_iff.mp hmarshal
      obtain ⟨tlv, hparse, hrest⟩ : ∃ tlv, parseTLV B der = .ok tlv ∧
          t = .primitive tag tlv.value := by
        simp only [oidTLV, hmarshal] at hwrite
        obtain ⟨tlv, hparse, hwrite⟩ := Outcome.bind_eq_ok.mp hwrite
        obtain ⟨-, -, hwrite⟩ := Outcome.bind_eq_ok.mp hwrite
        exact ⟨tlv, hparse, (Except.ok.inj hwrite).symm⟩
      have hwritten := encode_sound (.primitive tagOID contents) der ⟨by decide, by decide⟩ hder
      obtain rfl := (parseTLV_encodes hB hparse).unique hwritten
      exact ⟨contents, hcontents, hrest⟩

/-- Only the contents octets of an identifier are written. -/
theorem oidTLV_congr {tag : Tag} {oid oid' : ObjectIdentifier}
    (h : marshalObjectIdentifier oid = marshalObjectIdentifier oid') :
    oidTLV B tag oid = oidTLV B tag oid' := by
  simp only [oidTLV, marshalOID, h]

/-- The identifiers that are read back after they were written. -/
def Deliverable (oid : ObjectIdentifier) : Prop :=
  Readable oid ∧ ((writtenSubidentifiers oid).flatMap base128).length < 65536

instance (oid : ObjectIdentifier) : Decidable (Deliverable oid) :=
  inferInstanceAs (Decidable (_ ∧ _))

/-- What was written is read as an identifier of the same spelling, or not read at all. -/
theorem oidValue_written (hB : B.Lawful) {tag : Tag} {oid : ObjectIdentifier} {t : Tlv}
    (hwrite : oidTLV B tag oid = .ok t) :
    (Deliverable oid →
      ∃ read, oidValue (some t) = .ok read ∧ oidTLV B tag read = .ok t ∧ read ≠ []) ∧
    (¬ Deliverable oid → ∀ read, oidValue (some t) ≠ .ok read) := by
  obtain ⟨contents, hcontents, rfl⟩ := oidTLV_eq_ok hB hwrite
  have hspelled := marshalObjectIdentifier_eq_some hcontents
  refine ⟨?_, ?_⟩
  · rintro ⟨hreadable, hlen⟩
    rw [← hspelled] at hlen
    obtain ⟨read, hparse, hagain⟩ := parse_marshal_of_readable hcontents hreadable
    refine ⟨read, ?_, ?_, ?_⟩
    · rw [oidValue_of_short hlen, hparse]
    · rwa [oidTLV_congr (hagain.trans hcontents.symm)]
    · rintro rfl
      simp [marshalObjectIdentifier] at hagain
  · intro hnot read
    by_cases hlen : contents.length < 65536
    · have hunreadable : ¬ Readable oid := by
        intro hreadable
        exact hnot ⟨hreadable, hspelled ▸ hlen⟩
      rw [oidValue_of_short hlen, parse_marshal_of_not_readable hcontents hunreadable]
      intro h
      cases h
    · exact oidValue_of_long (by omega) read

end OpenIotRsp.Asn1
