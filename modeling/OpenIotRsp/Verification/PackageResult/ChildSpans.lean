import OpenIotRsp.Library.Bits
import OpenIotRsp.Verification.PackageResult.RawSpans

/-!
# Children of a span

The raw parser stays within the octets it is given, and its loop over the
children of a span ends.  The loop stops at the first child that reaches the end
of its parent, which may go past it: the children are those of the parent just
when the parent's octets are a row of objects by themselves.
-/

namespace OpenIotRsp.Euiccpkg

open Octets Reader Ber

variable {data : Bytes} {spans : List TlvSpan}

/-! ## Indices -/

theorem octetAt_of_lt {i : Nat} {b : UInt8} {bs : Bytes} (h : data.drop i = b :: bs) :
    octetAt data i = .ok b := by
  have hget : data[i]? = some b := by
    rw [← List.head?_drop, h]
    rfl
  rw [octetAt, hget]

theorem drop_succ_of_drop {data bs : Bytes} {b : UInt8} {i : Nat} (h : data.drop i = b :: bs) :
    data.drop (i + 1) = bs := by
  rw [← List.drop_drop, h]
  rfl

theorem length_of_drop {data bs : Bytes} {b : UInt8} {i : Nat} (h : data.drop i = b :: bs) :
    i < data.length ∧ data.length - (i + 1) = bs.length := by
  have hlength := congrArg List.length h
  rw [List.length_drop, List.length_cons] at hlength
  omega

/-- The loop over a high tag number stays within the octets. -/
theorem skipHighTag_eq {rounds offset : Nat} (h : (data.drop offset).length = rounds) :
    skipHighTag data rounds offset =
      match highTagOctets (data.drop offset) with
      | none => .error (.error (.message "euiccpkg: truncated high-tag-number TLV"))
      | some n => .ok (offset + n) := by
  induction rounds generalizing offset with
  | zero =>
      rw [List.length_eq_zero_iff.mp h]
      rfl
  | succ rounds ih =>
      cases hdrop : data.drop offset with
      | nil => simp [hdrop] at h
      | cons b bs =>
          obtain ⟨hlt, hleft⟩ := length_of_drop hdrop
          have hrest := @ih (offset + 1) (by rw [List.length_drop] at h ⊢; omega)
          rw [drop_succ_of_drop hdrop] at hrest
          rw [skipHighTag, if_neg (by omega), octetAt_of_lt hdrop, Outcome.ok_bind, highTagOctets]
          by_cases hb : b &&& 0x80 = 0
          · rw [if_pos hb, if_pos hb]
            rfl
          · rw [if_neg hb, if_neg hb, hrest]
            cases highTagOctets bs with
            | none => rfl
            | some n =>
                exact congrArg Except.ok (show offset + 1 + n = offset + (n + 1) by omega)

theorem foldl_eq_ofBigEndian (octets : Bytes) :
    octets.foldl (fun length b => length <<< 8 ||| b.toNat) 0 = ofBigEndian octets := by
  induction octets using List.reverseRecOn with
  | nil => rfl
  | append_singleton octets b ih =>
      rw [List.foldl_concat, ih, ofBigEndian_concat,
        ← Nat.shiftLeft_add_eq_or_of_lt b.toNat_lt, Nat.shiftLeft_eq]
      omega

theorem shiftLength_eq {k offset length : Nat} (h : k ≤ (data.drop offset).length) :
    shiftLength data k offset length = .ok (offset + k,
      ((data.drop offset).take k).foldl (fun length b => length <<< 8 ||| b.toNat) length) := by
  induction k generalizing offset length with
  | zero => rfl
  | succ k ih =>
      cases hdrop : data.drop offset with
      | nil => simp [hdrop] at h
      | cons b bs =>
          rw [hdrop, List.length_cons] at h
          rw [shiftLength, octetAt_of_lt hdrop, Outcome.ok_bind,
            ih (by rw [drop_succ_of_drop hdrop]; omega), drop_succ_of_drop hdrop, Nat.add_assoc,
            Nat.add_comm 1 k]
          rfl

/-- The length is read within the octets, as from the rest of them. -/
theorem lengthAt_eq (data : Bytes) (offset : Nat) :
    lengthAt data offset =
      ((lengthOctets (data.drop offset)).map fun (k, m) => (offset + k, m)).mapError .error := by
  cases hdrop : data.drop offset with
  | nil =>
      rw [lengthAt, if_pos (List.drop_eq_nil_iff.mp hdrop)]
      rfl
  | cons b bs =>
      obtain ⟨hlt, hleft⟩ := length_of_drop hdrop
      rw [lengthAt, if_neg (by omega), octetAt_of_lt hdrop, Outcome.ok_bind, lengthOctets]
      by_cases hshort : b < 0x80
      · rw [if_pos hshort, if_pos hshort]
        rfl
      · by_cases hindefinite : b = 0x80
        · rw [if_neg hshort, if_neg hshort, if_pos hindefinite, if_pos hindefinite]
          rfl
        · have hb : 0x80 < b.toNat := by
            rw [UInt8.lt_iff_toNat_lt] at hshort
            have hne : b.toNat ≠ 0x80 := fun h => hindefinite (UInt8.toNat_inj.mp h)
            have h80 : (0x80 : UInt8).toNat = 0x80 := rfl
            omega
          have hcount : (b &&& 0x7f).toNat = b.toNat - 0x80 := by
            rw [toNat_and_0x7f]
            have := b.toNat_lt
            omega
          rw [if_neg hshort, if_neg hshort, if_neg hindefinite, if_neg hindefinite]
          simp only [hcount]
          rw [if_neg (by omega)]
          by_cases hlarge : 4 < b.toNat - 0x80
          · rw [if_pos hlarge, if_pos hlarge]
            rfl
          · by_cases hcut : bs.length < b.toNat - 0x80
            · rw [if_neg hlarge, if_neg hlarge, if_pos (by omega), if_pos hcut]
              rfl
            · rw [if_neg hlarge, if_neg hlarge, if_neg (by omega), if_neg hcut,
                shiftLength_eq (by rw [drop_succ_of_drop hdrop]; omega), drop_succ_of_drop hdrop,
                foldl_eq_ofBigEndian, Nat.add_assoc]
              simp [Except.map, Except.mapError]

theorem highTagOctets_le {s : Bytes} {n : Nat} (h : highTagOctets s = some n) : n ≤ s.length := by
  induction s generalizing n with
  | nil => cases h
  | cons b bs ih =>
      rw [highTagOctets] at h
      split at h
      next =>
          cases h
          simp
      next =>
          obtain ⟨m, hm, rfl⟩ := Option.map_eq_some_iff.mp h
          exact Nat.succ_le_succ (ih hm)

theorem tagOctets_le {s : Bytes} {n : Nat} (h : tagOctets s = .ok n) : n ≤ s.length := by
  cases s with
  | nil => cases h
  | cons b bs =>
      rw [tagOctets] at h
      split at h
      next =>
          cases hhigh : highTagOctets bs with
          | none => simp [hhigh] at h
          | some m =>
              rw [hhigh] at h
              obtain rfl := Except.ok.inj h
              exact Nat.succ_le_succ (highTagOctets_le hhigh)
      next =>
          cases h
          simp

/-- The identifier octets are read within the octets. -/
theorem tagEnd_eq {data bs : Bytes} {b : UInt8} {offset : Nat} (hdrop : data.drop offset = b :: bs) :
    tagEnd data offset b = ((tagOctets (b :: bs)).map fun t => offset + t).mapError .error := by
  by_cases hb : b &&& 0x1f = 0x1f
  · have hskip : skipHighTag data (data.length - (offset + 1)) (offset + 1) = _ :=
      skipHighTag_eq List.length_drop
    rw [tagEnd, if_pos hb, hskip, drop_succ_of_drop hdrop, tagOctets, if_pos hb]
    cases highTagOctets bs with
    | none => rfl
    | some n => exact congrArg Except.ok (show offset + 1 + n = offset + (n + 1) by omega)
  · rw [tagEnd, if_neg hb, tagOctets, if_neg hb]
    rfl

/-- No index is out of range: the parser fails with an error or succeeds, as it does on the rest of
the octets. -/
theorem parseTLVSpanAt_eq (data : Bytes) (offset : Nat) :
    parseTLVSpanAt data offset = (parseTLVSpan data offset).mapError .error := by
  cases hdrop : data.drop offset with
  | nil =>
      have hend := List.drop_eq_nil_iff.mp hdrop
      rw [parseTLVSpanAt, if_pos (.inr (by exact_mod_cast hend)), parseTLVSpan, hdrop]
      rfl
  | cons b bs =>
      obtain ⟨hlt, hleft⟩ := length_of_drop hdrop
      rw [parseTLVSpanAt, if_neg (by omega), parseTLVSpan, hdrop]
      simp only [Int.toNat_natCast, octetAt_of_lt hdrop, Outcome.ok_bind, tagEnd_eq hdrop]
      cases htag : tagOctets (b :: bs) with
      | error e => rfl
      | ok t =>
          have hle : offset + t ≤ data.length := by
            have := tagOctets_le htag
            rw [List.length_cons] at this
            omega
          have hslice : octetsBetween data offset (offset + t) = .ok ((b :: bs).take t) := by
            rw [octetsBetween, if_pos ⟨by omega, hle⟩, List.drop_take, hdrop, Nat.add_sub_cancel_left]
          simp only [Except.map, Except.mapError, Outcome.ok_bind, hslice, lengthAt_eq]
          cases lengthOctets (data.drop (offset + t)) with
          | error e => rfl
          | ok length =>
              obtain ⟨k, m⟩ := length
              simp only [Outcome.ok_bind, Outcome.throw_eq, Outcome.pure_eq, Outcome.error_bind]
              split <;> rfl

/-! ## What a span is -/

theorem readContinuation_of_highTagOctets {s : Bytes} {n : Nat} (h : highTagOctets s = some n) :
    readContinuation s = some (s.take n, s.drop n) := by
  induction s generalizing n with
  | nil => cases h
  | cons b bs ih =>
      rw [highTagOctets] at h
      by_cases hb : b &&& 0x80 = 0
      · rw [if_pos hb] at h
        obtain rfl := Option.some.inj h
        simp [readContinuation, hb]
      · rw [if_neg hb] at h
        obtain ⟨m, hm, rfl⟩ := Option.map_eq_some_iff.mp h
        simp [readContinuation, hb, ih hm]

theorem readIdentifier_of_tagOctets {s : Bytes} {n : Nat} (h : tagOctets s = .ok n) :
    readIdentifier s = some (s.take n, s.drop n) := by
  cases s with
  | nil => cases h
  | cons b bs =>
      rw [tagOctets] at h
      by_cases hb : b &&& 0x1f = 0x1f
      · rw [if_pos hb] at h
        cases hhigh : highTagOctets bs with
        | none => simp [hhigh] at h
        | some m =>
            rw [hhigh] at h
            obtain rfl := Except.ok.inj h
            simp [readIdentifier, hb, readContinuation_of_highTagOctets hhigh]
      · rw [if_neg hb] at h
        obtain rfl := Except.ok.inj h
        simp [readIdentifier, hb]

theorem readLength_of_lengthOctets {s : Bytes} {k m : Nat} (h : lengthOctets s = .ok (k, m)) :
    readLength s = some (m, s.drop k) := by
  cases s with
  | nil => cases h
  | cons b bs =>
      rw [lengthOctets] at h
      by_cases hb : b < 0x80
      · rw [if_pos hb] at h
        obtain ⟨rfl, rfl⟩ := Prod.mk.inj (Except.ok.inj h)
        simp [readLength, hb]
      · simp only [hb, if_false, Outcome.guard_eq_ok] at h
        obtain ⟨hindefinite, hlarge, hcut, h⟩ := h
        obtain ⟨rfl, rfl⟩ := Prod.mk.inj (Except.ok.inj h)
        have hff : b ≠ 0xff := by
          rintro rfl
          exact hlarge (by decide)
        rw [readLength, if_neg hb, if_neg (by simp [hindefinite, hff, hcut]), Nat.add_comm 1,
          List.drop_succ_cons]

/-- Where the parser succeeds, the octets start with a header, and the span is that of an object
within them. -/
theorem parseTLVSpan_sound {offset : Nat} {span : TlvSpan} (h : parseTLVSpan data offset = .ok span) :
    ∃ header body r tag, data.drop offset = header ++ body ++ r ∧
      Header tag body.length header ∧ span = headerSpan offset header tag body.length := by
  have hparse := h
  obtain ⟨t, htag, h⟩ := Outcome.bind_eq_ok.mp h
  obtain ⟨⟨k, m⟩, hlength, h⟩ := Outcome.bind_eq_ok.mp h
  simp only [Outcome.throw_eq, Outcome.pure_eq, Outcome.error_bind] at h
  obtain ⟨hvalue, -⟩ := Outcome.guard_eq_ok.mp h
  have hread : readHeader (data.drop offset) =
      some ((⟨(data.drop offset).take t⟩, m), data.drop (offset + t + k)) := by
    rw [readHeader, andThen, readIdentifier_of_tagOctets htag]
    rw [Option.bind_some, List.drop_drop, readLength_of_lengthOctets hlength, List.drop_drop]
    rfl
  obtain ⟨header, hsplit, hheader⟩ := readHeader_local _ _ _ hread
  have hbody : ((data.drop (offset + t + k)).take m).length = m := by
    rw [List.length_take, List.length_drop]
    omega
  refine ⟨header, (data.drop (offset + t + k)).take m, (data.drop (offset + t + k)).drop m,
    ⟨(data.drop offset).take t⟩, ?_, ?_, ?_⟩
  · rw [List.append_assoc, List.take_append_drop, ← hsplit]
  · rw [hbody]
    exact hheader
  · rw [hbody]
    exact parseTLVSpan_eq hheader hsplit hparse

/-! ## Rows of objects -/

/-- Objects one after the other. -/
inductive Objects : Bytes → Prop
  | nil : Objects []
  | cons {tag : Tag} {header body rest : Bytes} (hheader : Header tag body.length header)
      (hrest : Objects rest) : Objects (header ++ body ++ rest)

/-- Spans that follow each other from one offset to another, none of them empty. -/
def Tile : Nat → List TlvSpan → Nat → Prop
  | start, [], stop => start = stop
  | start, span :: spans, stop =>
      span.tagStart = start ∧ start < span.valueEnd ∧ Tile span.valueEnd spans stop

theorem Tile.le {start stop : Nat} (h : Tile start spans stop) : start ≤ stop := by
  induction spans generalizing start with
  | nil => exact Nat.le_of_eq h
  | cons span spans ih => exact h.2.1.le.trans (ih h.2.2)

/-- None of the spans goes past the end. -/
theorem Tile.valueEnd_le {start stop : Nat} (h : Tile start spans stop) :
    ∀ span ∈ spans, span.valueEnd ≤ stop := by
  induction spans generalizing start with
  | nil => simp
  | cons span spans ih => exact List.forall_mem_cons.mpr ⟨h.2.2.le, ih h.2.2⟩

theorem lt_valueEnd_of_parse {offset : Nat} {span : TlvSpan}
    (h : parseTLVSpan data offset = .ok span) :
    span.tagStart = offset ∧ offset < span.valueEnd := by
  obtain ⟨header, body, r, tag, -, hheader, rfl⟩ := parseTLVSpan_sound h
  have hpos := hheader.length_pos
  simp only [headerSpan, true_and]
  omega

theorem childrenFrom_of_le {stop offset : Nat} (h : stop ≤ offset) (rounds : Nat) :
    childrenFrom data stop rounds offset = .ok [] := by
  cases rounds with
  | zero => rfl
  | succ rounds => exact if_neg (Nat.not_lt.mpr h)

/-- The loop over the children ends: rounds beyond the number of octets change nothing. -/
theorem childrenFrom_rounds {stop rounds rounds' offset : Nat} (h : stop - offset ≤ rounds)
    (h' : stop - offset ≤ rounds') :
    childrenFrom data stop rounds offset = childrenFrom data stop rounds' offset := by
  induction rounds generalizing rounds' offset with
  | zero => rw [childrenFrom_of_le (by omega), childrenFrom_of_le (by omega)]
  | succ rounds ih =>
      by_cases hlt : offset < stop
      · obtain ⟨left, rfl⟩ : ∃ left, rounds' = left + 1 := ⟨rounds' - 1, by omega⟩
        rw [childrenFrom, childrenFrom, if_pos hlt, if_pos hlt]
        cases hparse : parseTLVSpan data offset with
        | error e => rfl
        | ok span =>
            obtain ⟨-, hend⟩ := lt_valueEnd_of_parse hparse
            have hrest : childrenFrom data stop rounds span.valueEnd =
                childrenFrom data stop left span.valueEnd := ih (by omega) (by omega)
            rw [Outcome.ok_bind, Outcome.ok_bind, hrest]
      · rw [childrenFrom_of_le (by omega), childrenFrom_of_le (by omega)]

/-- Before the end, the loop takes a child and goes on behind it. -/
theorem childrenFrom_eq_ok {stop rounds offset : Nat} (hlt : offset < stop)
    (hrounds : stop - offset ≤ rounds) (h : childrenFrom data stop rounds offset = .ok spans) :
    ∃ left span rest, rounds = left + 1 ∧ parseTLVSpan data offset = .ok span ∧
      childrenFrom data stop left span.valueEnd = .ok rest ∧ spans = span :: rest := by
  obtain ⟨left, rfl⟩ : ∃ left, rounds = left + 1 := ⟨rounds - 1, by omega⟩
  rw [childrenFrom, if_pos hlt] at h
  obtain ⟨span, hspan, h⟩ := Outcome.bind_eq_ok.mp h
  obtain ⟨rest, hrest, h⟩ := Outcome.bind_eq_ok.mp h
  exact ⟨left, span, rest, rfl, hspan, hrest, (Except.ok.inj h).symm⟩

/-- The octets from one offset to another. -/
def between (data : Bytes) (start stop : Nat) : Bytes := (data.drop start).take (stop - start)

/-- The children are the objects of a row, if there is one up to the end. -/
theorem tile_of_objects {data value r : Bytes} (hvalue : Objects value) {rounds offset : Nat}
    (hdrop : data.drop offset = value ++ r) (hrounds : value.length ≤ rounds)
    (h : childrenFrom data (offset + value.length) rounds offset = .ok spans) :
    Tile offset spans (offset + value.length) := by
  induction hvalue generalizing rounds offset spans with
  | nil =>
      rw [childrenFrom_of_le (by simp)] at h
      obtain rfl := Except.ok.inj h
      exact rfl
  | @cons tag header body rest hheader hrest ih =>
      have hpos := hheader.length_pos
      simp only [List.length_append] at hrounds h ⊢
      obtain ⟨left, span, spans, rfl, hparse, hspans, rfl⟩ :=
        childrenFrom_eq_ok (by omega) (by omega) h
      rw [List.append_assoc, List.append_assoc] at hdrop
      obtain rfl := parseTLVSpan_eq hheader hdrop hparse
      have hnext : data.drop (offset + header.length + body.length) = rest ++ r := by
        rw [Nat.add_assoc, ← List.drop_drop, hdrop, ← List.append_assoc,
          ← List.length_append, List.drop_left]
      have hstop : offset + (header.length + body.length + rest.length) =
          offset + header.length + body.length + rest.length := by omega
      rw [hstop] at hspans ⊢
      refine ⟨rfl, ?_, ih hnext (by omega) hspans⟩
      simp only [headerSpan]
      omega

/-- Children that end with their parent are the objects of a row. -/
theorem objects_of_tile {stop rounds offset : Nat} (hrounds : stop - offset ≤ rounds)
    (h : childrenFrom data stop rounds offset = .ok spans) (htile : Tile offset spans stop) :
    Objects (between data offset stop) := by
  induction spans generalizing rounds offset with
  | nil =>
      rw [between, show offset = stop from htile, Nat.sub_self, List.take_zero]
      exact .nil
  | cons span spans ih =>
      have hlt : offset < stop := htile.2.1.trans_le htile.2.2.le
      obtain ⟨left, _, _, rfl, hparse, hspans, hsame⟩ := childrenFrom_eq_ok hlt hrounds h
      obtain ⟨rfl, rfl⟩ := List.cons.inj hsame
      obtain ⟨header, body, r, tag, hdrop, hheader, rfl⟩ := parseTLVSpan_sound hparse
      have hstart := htile.2.1
      have hend := htile.2.2.le
      have hrest := ih (by omega) hspans htile.2.2
      simp only [headerSpan] at hend hrest
      have hvalue : between data offset stop = header ++ body ++
          between data (offset + header.length + body.length) stop := by
        have hnext : data.drop (offset + header.length + body.length) = r := by
          rw [Nat.add_assoc, ← List.drop_drop, hdrop, ← List.length_append, List.drop_left]
        rw [between, between, hdrop, hnext, List.take_append, List.length_append,
          List.take_of_length_le (by rw [List.length_append]; omega)]
        congr 2
        omega
      rw [hvalue]
      exact .cons hheader hrest

/-! ## Children and their parent -/

theorem valueEnd_le_of_parse {offset : Nat} {span : TlvSpan}
    (h : parseTLVSpan data offset = .ok span) :
    span.valueStart ≤ span.valueEnd ∧ span.valueEnd ≤ data.length := by
  obtain ⟨header, body, r, tag, hdrop, hheader, rfl⟩ := parseTLVSpan_sound h
  have hlength := congrArg List.length hdrop
  have hpos := hheader.length_pos
  simp only [List.length_drop, List.length_append] at hlength
  simp only [headerSpan]
  omega

theorem parseTLVSpanAt_ne_panic (data : Bytes) (offset : Int) :
    parseTLVSpanAt data offset ≠ .error .panic := by
  cases offset with
  | ofNat offset =>
      intro h
      have hparse : (parseTLVSpan data offset).mapError Halt.error = .error .panic :=
        (parseTLVSpanAt_eq data offset).symm.trans h
      cases hresult : parseTLVSpan data offset with
      | ok span => simp [hresult, Except.mapError] at hparse
      | error e => simp [hresult, Except.mapError] at hparse
  | negSucc n =>
      rw [parseTLVSpanAt, if_pos (.inl (Int.negSucc_lt_zero n))]
      simp

/-- The parser never leaves the octets, its loop over the children of a span ends, and the children
lie within the span, one after the other, just when its octets are a row of objects. -/
theorem children_tile_iff (data : Bytes) :
    (∀ offset, parseTLVSpanAt data offset ≠ .error .panic) ∧
      ∀ offset parent, parseTLVSpan data offset = .ok parent →
        (∀ rounds, parent.valueEnd - parent.valueStart ≤ rounds →
          childrenFrom data parent.valueEnd rounds parent.valueStart = children data parent) ∧
        ∀ spans, children data parent = .ok spans →
          (Tile parent.valueStart spans parent.valueEnd ∧
              (∀ span ∈ spans, span.valueEnd ≤ parent.valueEnd) ↔
            Objects (between data parent.valueStart parent.valueEnd)) := by
  refine ⟨parseTLVSpanAt_ne_panic data, fun offset parent hparent => ⟨?_, ?_⟩⟩
  · intro rounds hrounds
    exact childrenFrom_rounds hrounds le_rfl
  · intro spans hspans
    constructor
    · rintro ⟨htile, -⟩
      exact objects_of_tile le_rfl hspans htile
    · intro hobjects
      obtain ⟨hle, hend⟩ := valueEnd_le_of_parse hparent
      have hlength : (between data parent.valueStart parent.valueEnd).length =
          parent.valueEnd - parent.valueStart := by
        rw [between, List.length_take, List.length_drop]
        omega
      have hstop : parent.valueStart + (between data parent.valueStart parent.valueEnd).length =
          parent.valueEnd := by omega
      have htile : Tile parent.valueStart spans parent.valueEnd := by
        rw [← hstop]
        refine tile_of_objects hobjects (List.take_append_drop _ _).symm hlength.le ?_
        rw [hstop]
        exact hspans
      exact ⟨htile, htile.valueEnd_le⟩

theorem children_tile_iff_two_fields :
    let data : Bytes := [0x30, 0x05, 0x80, 0x00, 0x81, 0x01, 0x07]
    let parent : TlvSpan := ⟨0, 2, 7, [0x30]⟩
    parseTLVSpan data 0 = .ok parent ∧
      Objects (between data parent.valueStart parent.valueEnd) := by
  intro data parent
  have hparent : parseTLVSpan data 0 = .ok parent := by decide +kernel
  have hspans : children data parent = .ok [⟨2, 4, 4, [0x80]⟩, ⟨4, 6, 7, [0x81]⟩] := by
    decide +kernel
  refine ⟨hparent, (((children_tile_iff data).2 0 parent hparent).2 _ hspans).mp ⟨?_, ?_⟩⟩
  · exact ⟨rfl, by decide, rfl, by decide, rfl⟩
  · decide

/-- A child whose length goes past its parent is taken for a child. -/
theorem child_past_parent :
    let data : Bytes := [0x30, 0x02, 0x04, 0x02, 0xaa, 0xbb]
    parseTLVSpan data 0 = .ok ⟨0, 2, 4, [0x30]⟩ ∧
      children data ⟨0, 2, 4, [0x30]⟩ = .ok [⟨2, 4, 6, [0x04]⟩] := by
  decide +kernel

end OpenIotRsp.Euiccpkg
