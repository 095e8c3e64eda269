import OpenIotRsp.Library.Ber.Tlv

/-!
# A reference codec for TLV trees

An executable reader and an encoder with minimal length octets.  The reader
returns a tree exactly when the consumed octets spell it, and it reads back
what the encoder writes.
-/

namespace Ber

open Octets Reader

/-! ## Reading -/

mutual

def read : Nat → Bytes → Option (Tlv × Bytes)
  | 0, _ => none
  | fuel + 1, s =>
      (readHeader s).bind fun x =>
        if x.2.length < x.1.2 then none
        else if x.1.1.isConstructed then
          (readAll fuel (x.2.take x.1.2)).map fun ts =>
            (.constructed x.1.1 ts, x.2.drop x.1.2)
        else some (.primitive x.1.1 (x.2.take x.1.2), x.2.drop x.1.2)

def readAll : Nat → Bytes → Option (List Tlv)
  | _, [] => some []
  | 0, _ :: _ => none
  | fuel + 1, b :: bs =>
      (read fuel (b :: bs)).bind fun x => (readAll fuel x.2).map (x.1 :: ·)

end

/-- Read one tree from the front, with the number of octets consumed. -/
def decode (s : Bytes) : Option (Tlv × Nat) :=
  (read (2 * s.length) s).map fun x => (x.1, s.length - x.2.length)

theorem read_sound_step {fuel : Nat}
    (hall : ∀ s ts, readAll fuel s = some ts → EncodesAll ts s)
    (s : Bytes) (t : Tlv) (r : Bytes) (hread : read (fuel + 1) s = some (t, r)) :
    ∃ w, s = w ++ r ∧ Encodes t w := by
  obtain ⟨⟨⟨tag, n⟩, rest⟩, hheader, hbody⟩ := Option.bind_eq_some_iff.mp hread
  obtain ⟨h, rfl, hspell⟩ := readHeader_local s (tag, n) rest hheader
  by_cases hshort : rest.length < n
  · simp [hshort] at hbody
  have hlen : (rest.take n).length = n := by simpa using hshort
  have hheader' : Header tag (rest.take n).length h := by rw [hlen]; exact hspell
  by_cases hform : tag.isConstructed = true
  · simp only [hshort, if_false, hform, if_true, Option.map_eq_some_iff] at hbody
    obtain ⟨ts, hts, heq⟩ := hbody
    obtain ⟨rfl, rfl⟩ := Prod.mk.inj heq
    exact ⟨h ++ rest.take n, by simp, .constructed hform hheader' (hall _ _ hts)⟩
  · simp only [hshort, if_false, hform, Bool.false_eq_true, Option.some.injEq,
      Prod.mk.injEq] at hbody
    obtain ⟨rfl, rfl⟩ := hbody
    exact ⟨h ++ rest.take n, by simp, .primitive (by simpa using hform) hheader'⟩

theorem readAll_sound_step {fuel : Nat}
    (hone : ∀ s t r, read fuel s = some (t, r) → ∃ w, s = w ++ r ∧ Encodes t w)
    (hall : ∀ s ts, readAll fuel s = some ts → EncodesAll ts s)
    (s : Bytes) (ts : List Tlv) (hread : readAll (fuel + 1) s = some ts) :
    EncodesAll ts s := by
  cases s with
  | nil =>
      obtain rfl : [] = ts := by simpa [readAll] using hread
      exact .nil
  | cons b bs =>
      obtain ⟨⟨t, rest⟩, hhead, htail⟩ := Option.bind_eq_some_iff.mp hread
      obtain ⟨ts', hts', rfl⟩ := Option.map_eq_some_iff.mp htail
      obtain ⟨w, heq, hw⟩ := hone _ _ _ hhead
      rw [heq]
      exact .cons hw (hall _ _ hts')

theorem read_sound (fuel : Nat) :
    (∀ s t r, read fuel s = some (t, r) → ∃ w, s = w ++ r ∧ Encodes t w) ∧
      ∀ s ts, readAll fuel s = some ts → EncodesAll ts s := by
  induction fuel with
  | zero =>
      refine ⟨fun s t r hread => by simp [read] at hread, fun s ts hread => ?_⟩
      cases s with
      | nil =>
          obtain rfl : [] = ts := by simpa [readAll] using hread
          exact .nil
      | cons b bs => simp [readAll] at hread
  | succ fuel ih =>
      exact ⟨read_sound_step ih.2, readAll_sound_step ih.1 ih.2⟩

/-- The octets a successful reading consumes spell the tree it returns. -/
theorem decode_sound {s : Bytes} {t : Tlv} {n : Nat} (hdecode : decode s = some (t, n)) :
    ∃ w r, s = w ++ r ∧ w.length = n ∧ Encodes t w := by
  obtain ⟨⟨t', r⟩, hread, heq⟩ := Option.map_eq_some_iff.mp hdecode
  obtain ⟨rfl, rfl⟩ := Prod.mk.inj heq
  obtain ⟨w, rfl, hw⟩ := (read_sound _).1 s t' r hread
  exact ⟨w, r, rfl, by simp, hw⟩

mutual

theorem read_complete {t : Tlv} {w : Bytes} (ht : Encodes t w) (r : Bytes) (fuel : Nat)
    (hfuel : 2 * w.length ≤ fuel) : read fuel (w ++ r) = some (t, r) := by
  have hpos := ht.length_pos
  obtain ⟨fuel, rfl⟩ : ∃ f, fuel = f + 1 := ⟨fuel - 1, by omega⟩
  cases ht with
  | primitive hform hheader =>
      simp [read, hheader _, hform]
  | constructed hform hheader hbody =>
      have hall := readAll_complete hbody fuel (by
        have := hheader.length_pos
        simp only [List.length_append] at hfuel
        omega)
      simp [read, hheader _, hform, hall]

theorem readAll_complete {ts : List Tlv} {b : Bytes} (hts : EncodesAll ts b) (fuel : Nat)
    (hfuel : 2 * b.length + 1 ≤ fuel) : readAll fuel b = some ts := by
  cases hts with
  | nil => simp [readAll]
  | @cons t ts w b hhead htail =>
      have hpos := hhead.length_pos
      simp only [List.length_append] at hfuel
      obtain ⟨fuel, rfl⟩ : ∃ f, fuel = f + 1 := ⟨fuel - 1, by omega⟩
      have hone := read_complete hhead b fuel (by omega)
      have hrest := readAll_complete htail fuel (by omega)
      obtain ⟨c, cs, hcons⟩ := List.exists_cons_of_length_pos
        (l := w ++ b) (by simp only [List.length_append]; omega)
      rw [hcons] at hone ⊢
      simp [readAll, hone, hrest]

end

theorem decode_complete {t : Tlv} {w : Bytes} (ht : Encodes t w) (r : Bytes) :
    decode (w ++ r) = some (t, w.length) := by
  have hread := read_complete ht r (2 * (w ++ r).length) (by simp)
  rw [decode, hread]
  simp

/-! ## Encoding -/

/-- A spelling belongs to one tree. -/
theorem Encodes.unique {s t : Tlv} {w : Bytes} (hs : Encodes s w) (ht : Encodes t w) : s = t := by
  have h := (decode_complete hs []).symm.trans (decode_complete ht [])
  exact (Prod.mk.inj (Option.some.inj h)).1

/-- The number of octets of `n` without leading zeros. -/
def octetCount (n : Nat) : Nat :=
  Nat.log2 n / 8 + 1

def encodeLength (n : Nat) : Bytes :=
  if n < 0x80 then [UInt8.ofNat n]
  else UInt8.ofNat (0x80 + octetCount n) :: bigEndian (octetCount n) n

/-- More than 126 length octets have no definite form. -/
def encodeHeader (tag : Tag) (n : Nat) : Option Bytes :=
  if octetCount n ≤ 126 then some (tag.octets ++ encodeLength n) else none

mutual

def encode : Tlv → Option Bytes
  | .primitive tag value => (encodeHeader tag value.length).map (· ++ value)
  | .constructed tag ts =>
      (encodeAll ts).bind fun body => (encodeHeader tag body.length).map (· ++ body)

def encodeAll : List Tlv → Option Bytes
  | [] => some []
  | t :: ts => (encode t).bind fun w => (encodeAll ts).map (w ++ ·)

end

/-- The octets of the tag are one identifier. -/
def Tag.Valid (tag : Tag) : Prop :=
  readIdentifier tag.octets = some (tag.octets, [])

instance (tag : Tag) : Decidable tag.Valid :=
  inferInstanceAs (Decidable (_ = _))

mutual

/-- Every tag is one identifier, and its form bit tells whether the node has children. -/
def Tlv.WellFormed : Tlv → Prop
  | .primitive tag _ => tag.Valid ∧ tag.isConstructed = false
  | .constructed tag ts => tag.Valid ∧ tag.isConstructed = true ∧ Tlv.AllWellFormed ts

def Tlv.AllWellFormed : List Tlv → Prop
  | [] => True
  | t :: ts => t.WellFormed ∧ Tlv.AllWellFormed ts

end

theorem Tlv.allWellFormed_iff {ts : List Tlv} :
    Tlv.AllWellFormed ts ↔ ∀ t ∈ ts, t.WellFormed := by
  induction ts with
  | nil => simp [Tlv.AllWellFormed]
  | cons t ts ih => simp [Tlv.AllWellFormed, ih]

theorem Tlv.WellFormed.child {t c : Tlv} (h : t.WellFormed) (hc : c ∈ t.children) :
    c.WellFormed := by
  cases t with
  | primitive tag value => cases hc
  | constructed tag ts => exact Tlv.allWellFormed_iff.mp h.2.2 c hc

theorem Tlv.WellFormed.first {t c : Tlv} {tag : Tag} (h : t.WellFormed)
    (hc : t.first tag = some c) : c.WellFormed :=
  h.child (List.mem_of_find?_eq_some hc)

theorem lt_pow_octetCount (n : Nat) : n < 256 ^ octetCount n := by
  calc n < 2 ^ (Nat.log2 n + 1) := Nat.lt_log2_self
    _ ≤ 2 ^ (8 * octetCount n) := Nat.pow_le_pow_right (by norm_num) (by unfold octetCount; omega)
    _ = 256 ^ octetCount n := by rw [pow_mul]; norm_num

theorem octetCount_le {n k : Nat} (hn : n < 2 ^ (8 * k)) (hk : 0 < k) : octetCount n ≤ k := by
  have hlog : Nat.log2 n < 8 * k := by
    by_cases hzero : n = 0
    · rw [hzero, Nat.log2_zero]
      omega
    · exact (Nat.log2_lt hzero).mpr hn
  unfold octetCount
  omega

theorem length_encodeLength (n : Nat) : (encodeLength n).length ≤ 1 + octetCount n := by
  rw [encodeLength]
  split
  next => simp
  next => simp [Nat.add_comm]

theorem encodeLength_spells {n : Nat} (hn : octetCount n ≤ 126) :
    Spells readLength (encodeLength n) n := by
  intro r
  by_cases hshort : n < 0x80
  · have hnat : (UInt8.ofNat n).toNat = n := by simp; omega
    have hlt : UInt8.ofNat n < 0x80 := by
      rw [UInt8.lt_iff_toNat_lt, hnat]; exact hshort
    simp [encodeLength, hshort, readLength, hlt, hnat]
  · have hcount : 1 ≤ octetCount n := by unfold octetCount; omega
    have hnat : (UInt8.ofNat (0x80 + octetCount n)).toNat = 0x80 + octetCount n := by
      simp; omega
    have hlong : ¬ UInt8.ofNat (0x80 + octetCount n) < 0x80 := by
      rw [UInt8.lt_iff_toNat_lt, hnat]; simp
    have hvalid : ¬ (UInt8.ofNat (0x80 + octetCount n) = 0x80 ∨
        UInt8.ofNat (0x80 + octetCount n) = 0xff ∨
        (bigEndian (octetCount n) n ++ r).length < 0x80 + octetCount n - 0x80) := by
      simp only [← UInt8.toNat_inj, hnat, List.length_append, length_bigEndian]
      simp
      omega
    have hlen : (bigEndian (octetCount n) n).length = 0x80 + octetCount n - 0x80 := by simp
    simp only [encodeLength, hshort, if_false, List.cons_append, readLength, hlong, hnat, hvalid,
      List.take_left' hlen, List.drop_left' hlen]
    rw [ofBigEndian_bigEndian, Nat.mod_eq_of_lt (lt_pow_octetCount n)]

theorem Tag.Valid.spells {tag : Tag} (hvalid : tag.Valid) :
    Spells readIdentifier tag.octets tag.octets := (readIdentifier_spells hvalid).2

theorem valid_of_readIdentifier {s octets r : Bytes}
    (hread : readIdentifier s = some (octets, r)) : Tag.Valid ⟨octets⟩ := by
  simpa [Tag.Valid] using (readIdentifier_spells hread).2 []

/-- A header starts with the octets of its tag, and these are one identifier. -/
theorem Header.tag_valid {tag : Tag} {n : Nat} {h : Bytes} (hh : Header tag n h) :
    tag.Valid ∧ ∃ rest, h = tag.octets ++ rest := by
  obtain ⟨⟨octets, r⟩, hread, hlength⟩ := Option.bind_eq_some_iff.mp (hh [])
  obtain ⟨length, -, heq⟩ := Option.map_eq_some_iff.mp hlength
  obtain rfl : ⟨octets⟩ = tag := congrArg (fun x => x.1.1) heq
  exact ⟨valid_of_readIdentifier hread, r, by simpa using (readIdentifier_spells hread).1⟩

theorem Tlv.WellFormed.tag_valid {t : Tlv} (ht : t.WellFormed) : t.tag.Valid := by
  cases t with
  | primitive tag value => exact ht.1
  | constructed tag ts => exact ht.1

theorem Tlv.WellFormed.children {t : Tlv} (ht : t.WellFormed) : Tlv.AllWellFormed t.children := by
  cases t with
  | primitive tag value => exact trivial
  | constructed tag ts => exact ht.2.2

theorem encodeHeader_sound {tag : Tag} {n : Nat} {h : Bytes} (hvalid : tag.Valid)
    (hencode : encodeHeader tag n = some h) : Header tag n h := by
  by_cases hn : octetCount n ≤ 126
  · obtain rfl : tag.octets ++ encodeLength n = h := by simpa [encodeHeader, hn] using hencode
    apply hvalid.spells.andThen
    intro r
    simp [encodeLength_spells hn r]
  · simp [encodeHeader, hn] at hencode

mutual

theorem Encodes.wellFormed {t : Tlv} {w : Bytes} (ht : Encodes t w) : t.WellFormed := by
  cases ht with
  | primitive hform hheader => exact ⟨hheader.tag_valid.1, hform⟩
  | constructed hform hheader hbody => exact ⟨hheader.tag_valid.1, hform, hbody.wellFormed⟩

theorem EncodesAll.wellFormed {ts : List Tlv} {b : Bytes} (hts : EncodesAll ts b) :
    Tlv.AllWellFormed ts := by
  cases hts with
  | nil => trivial
  | cons hhead htail => exact ⟨hhead.wellFormed, htail.wellFormed⟩

end

mutual

/-- The encoder writes a spelling of every well-formed tree it accepts. -/
theorem encode_sound (t : Tlv) (w : Bytes) (ht : t.WellFormed) (hencode : encode t = some w) :
    Encodes t w := by
  cases t with
  | primitive tag value =>
      obtain ⟨h, hheader, rfl⟩ := Option.map_eq_some_iff.mp hencode
      exact .primitive ht.2 (encodeHeader_sound ht.1 hheader)
  | constructed tag ts =>
      obtain ⟨body, hbody, hencode⟩ := Option.bind_eq_some_iff.mp hencode
      obtain ⟨h, hheader, rfl⟩ := Option.map_eq_some_iff.mp hencode
      exact .constructed ht.2.1 (encodeHeader_sound ht.1 hheader)
        (encodeAll_sound ts body ht.2.2 hbody)

theorem encodeAll_sound (ts : List Tlv) (b : Bytes) (hts : Tlv.AllWellFormed ts)
    (hencode : encodeAll ts = some b) : EncodesAll ts b := by
  cases ts with
  | nil =>
      obtain rfl : [] = b := by simpa [encodeAll] using hencode
      exact .nil
  | cons t ts =>
      obtain ⟨w, hw, hencode⟩ := Option.bind_eq_some_iff.mp hencode
      obtain ⟨b', hb', rfl⟩ := Option.map_eq_some_iff.mp hencode
      exact .cons (encode_sound t w hts.1 hw) (encodeAll_sound ts b' hts.2 hb')

end

/-- The octets of a constructed TLV with minimal lengths. -/
theorem encode_constructed {tag : Tag} {ts : List Tlv} {w : Bytes}
    (h : encode (.constructed tag ts) = some w) :
    ∃ header b, w = header ++ b ∧ encodeHeader tag b.length = some header ∧
      encodeAll ts = some b := by
  obtain ⟨b, hb, hw⟩ := Option.bind_eq_some_iff.mp h
  obtain ⟨header, hheader, rfl⟩ := Option.map_eq_some_iff.mp hw
  exact ⟨header, b, rfl, hheader, hb⟩

theorem encodeAll_cons {t : Tlv} {ts : List Tlv} {w : Bytes} (h : encodeAll (t :: ts) = some w) :
    ∃ v b, w = v ++ b ∧ encode t = some v ∧ encodeAll ts = some b := by
  obtain ⟨v, hv, hw⟩ := Option.bind_eq_some_iff.mp h
  obtain ⟨b, hb, rfl⟩ := Option.map_eq_some_iff.mp hw
  exact ⟨v, b, rfl, hv, hb⟩

theorem exists_encode_of_mem {ts : List Tlv} {b : Bytes} (h : encodeAll ts = some b) {t : Tlv}
    (ht : t ∈ ts) : ∃ w, encode t = some w ∧ w.length ≤ b.length := by
  induction ts generalizing b with
  | nil => cases ht
  | cons u us ih =>
      obtain ⟨v, rest, rfl, hv, hus⟩ := encodeAll_cons h
      rw [List.length_append]
      rcases List.mem_cons.mp ht with rfl | ht
      · exact ⟨v, hv, Nat.le_add_right _ _⟩
      · obtain ⟨w, hw, hle⟩ := ih hus ht
        exact ⟨w, hw, Nat.le_add_left_of_le hle⟩

theorem encode_first_child {tag : Tag} {t : Tlv} {ts : List Tlv} {w : Bytes}
    (h : encode (.constructed tag (t :: ts)) = some w) :
    ∃ header v b, w = header ++ (v ++ b) ∧ encodeHeader tag (v ++ b).length = some header ∧
      encode t = some v ∧ encodeAll ts = some b := by
  obtain ⟨header, body, rfl, hheader, hbody⟩ := encode_constructed h
  obtain ⟨v, b, rfl, hv, hb⟩ := encodeAll_cons hbody
  exact ⟨header, v, b, rfl, hheader, hv, hb⟩

end Ber
