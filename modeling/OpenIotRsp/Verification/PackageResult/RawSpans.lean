import OpenIotRsp.Library.Outcome
import OpenIotRsp.Model.Euiccpkg.RawTlv

/-!
# The raw parser reads what the BER rules say

Where the octets at an offset spell a TLV, a span that the raw parser returns
there is the span of that TLV, and its children are the spans of the children.
-/

namespace OpenIotRsp.Euiccpkg

open Octets Reader Ber

/-! ## Headers -/

theorem highTagOctets_eq {s octets r : Bytes} (hread : readContinuation s = some (octets, r)) :
    highTagOctets s = some octets.length := by
  induction s generalizing octets with
  | nil => cases hread
  | cons b bs ih =>
      by_cases hb : b &&& 0x80 = 0
      · simp only [readContinuation, hb, if_true, Option.some.injEq, Prod.mk.injEq] at hread
        obtain ⟨rfl, rfl⟩ := hread
        simp [highTagOctets, hb]
      · simp only [readContinuation, hb, if_false, Option.map_eq_some_iff] at hread
        obtain ⟨⟨tail, rest⟩, htail, heq⟩ := hread
        obtain ⟨rfl, rfl⟩ := Prod.mk.inj heq
        simp [highTagOctets, hb, ih htail]

theorem tagOctets_eq {s octets r : Bytes} (hread : readIdentifier s = some (octets, r)) :
    tagOctets s = .ok octets.length := by
  cases s with
  | nil => cases hread
  | cons b bs =>
      by_cases hb : b &&& 0x1f = 0x1f
      · simp only [readIdentifier, hb, if_true, Option.map_eq_some_iff] at hread
        obtain ⟨⟨tail, rest⟩, htail, heq⟩ := hread
        obtain ⟨rfl, rfl⟩ := Prod.mk.inj heq
        simp [tagOctets, hb, highTagOctets_eq htail]
      · simp only [readIdentifier, hb, if_false, Option.some.injEq, Prod.mk.injEq] at hread
        obtain ⟨rfl, rfl⟩ := hread
        simp [tagOctets, hb]

/-- The raw parser takes at most four length octets; where it answers, it answers as BER does. -/
theorem lengthOctets_eq {s r : Bytes} {n k m : Nat} (hread : readLength s = some (n, r))
    (hraw : lengthOctets s = .ok (k, m)) : m = n ∧ s.drop k = r := by
  cases s with
  | nil => simp [readLength] at hread
  | cons b bs =>
      by_cases hb : b < 0x80
      · simp only [readLength, hb, if_true, Option.some.injEq, Prod.mk.injEq] at hread
        simp only [lengthOctets, hb, if_true, Except.ok.injEq, Prod.mk.injEq] at hraw
        obtain ⟨rfl, rfl⟩ := hread
        obtain ⟨rfl, rfl⟩ := hraw
        exact ⟨rfl, rfl⟩
      · simp only [readLength, hb, if_false] at hread
        split at hread
        next => cases hread
        next =>
            simp only [lengthOctets, hb, if_false, Outcome.guard_eq_ok] at hraw
            obtain ⟨-, -, -, hraw⟩ := hraw
            obtain ⟨rfl, rfl⟩ := Prod.mk.inj (Except.ok.inj hraw)
            obtain ⟨rfl, rfl⟩ := Prod.mk.inj (Option.some.inj hread)
            exact ⟨rfl, by rw [Nat.add_comm, List.drop_succ_cons]⟩

/-- The span of a TLV with the header `h` and `n` value octets at an offset. -/
def headerSpan (offset : Nat) (h : Bytes) (tag : Tag) (n : Nat) : TlvSpan :=
  ⟨offset, offset + h.length, offset + h.length + n, tag.octets⟩

/-- The identifier octets of a header, and the length octets after them. -/
theorem header_octets {data h r : Bytes} {tag : Tag} {n offset : Nat} (hheader : Header tag n h)
    (hdrop : data.drop offset = h ++ r) :
    tagOctets (data.drop offset) = .ok tag.octets.length ∧
      data.drop offset = tag.octets ++ data.drop (offset + tag.octets.length) ∧
      readLength (data.drop (offset + tag.octets.length)) = some (n, r) := by
  have hread := hheader r
  rw [← hdrop] at hread
  obtain ⟨⟨octets, s⟩, hidentifier, hrest⟩ := Option.bind_eq_some_iff.mp hread
  obtain ⟨⟨m, t⟩, hlength, heq⟩ := Option.map_eq_some_iff.mp hrest
  obtain ⟨hval, rfl⟩ := Prod.mk.inj heq
  obtain ⟨rfl, rfl⟩ := Prod.mk.inj hval
  have hs := (readIdentifier_spells hidentifier).1
  have hs' : data.drop (offset + octets.length) = s := by
    rw [← List.drop_drop, hs, List.drop_left]
  exact ⟨tagOctets_eq hidentifier, by rw [hs', hs], by rw [hs']; exact hlength⟩

theorem parseTLVSpan_eq {data h r : Bytes} {tag : Tag} {n offset : Nat} {span : TlvSpan}
    (hheader : Header tag n h) (hdrop : data.drop offset = h ++ r)
    (hparse : parseTLVSpan data offset = .ok span) : span = headerSpan offset h tag n := by
  obtain ⟨htag, hidentifier, hlength⟩ := header_octets hheader hdrop
  obtain ⟨tagLength, htag', hparse⟩ := Outcome.bind_eq_ok.mp hparse
  obtain rfl : tagLength = tag.octets.length := Except.ok.inj (htag'.symm.trans htag)
  obtain ⟨⟨k, m⟩, hraw, hparse⟩ := Outcome.bind_eq_ok.mp hparse
  obtain ⟨rfl, hk⟩ := lengthOctets_eq hlength hraw
  simp only [Outcome.throw_eq, Outcome.pure_eq, Outcome.error_bind] at hparse
  split at hparse
  next => cases hparse
  next hshort =>
      -- both parsers leave the same rest, so the headers are equally long
      have hlen : h.length = tag.octets.length + k := by
        have hall := congrArg List.length hdrop
        have hleft := congrArg List.length hk
        simp only [List.length_drop, List.length_append] at hall hleft
        have hpos := hheader.length_pos
        omega
      cases hparse
      simp only [headerSpan, hlen, hidentifier, List.take_left, TlvSpan.mk.injEq, true_and, and_true]
      omega

/-- The octets of a span. -/
def TlvSpan.wire (data : Bytes) (span : TlvSpan) : Bytes :=
  (data.take span.valueEnd).drop span.tagStart

theorem wire_eq_of_drop {data w r : Bytes} {span : TlvSpan} (hend : span.valueEnd =
    span.tagStart + w.length) (hdrop : data.drop span.tagStart = w ++ r) :
    span.wire data = w := by
  rw [TlvSpan.wire, hend, List.drop_take, hdrop, Nat.add_sub_cancel_left, List.take_left]

theorem wire_headerSpan {data h v r : Bytes} {tag : Tag} {offset : Nat}
    (hdrop : data.drop offset = h ++ v ++ r) :
    (headerSpan offset h tag v.length).wire data = h ++ v :=
  wire_eq_of_drop (by simp only [headerSpan, List.length_append]; omega) hdrop

/-- The span of an encoded TLV carries its tag, ends where it ends and holds its octets. -/
theorem parseTLVSpan_encodes {data w r : Bytes} {t : Tlv} {offset : Nat} {span : TlvSpan}
    (ht : Encodes t w) (hdrop : data.drop offset = w ++ r)
    (hparse : parseTLVSpan data offset = .ok span) :
    span.tag = t.tag.octets ∧ span.valueEnd = offset + w.length ∧ span.wire data = w := by
  obtain ⟨h, body, rfl, hheader⟩ := ht.exists_header
  have hwire := @wire_headerSpan _ h body r t.tag _ hdrop
  rw [List.append_assoc] at hdrop
  obtain rfl := parseTLVSpan_eq hheader hdrop hparse
  refine ⟨rfl, ?_, hwire⟩
  simp only [headerSpan, List.length_append]
  omega

/-! ## Children -/

theorem childrenFrom_tags {data : Bytes} {ts : List Tlv} {b r : Bytes} {offset rounds : Nat}
    {spans : List TlvSpan} (hts : EncodesAll ts b) (hdrop : data.drop offset = b ++ r)
    (hrounds : b.length ≤ rounds)
    (hspans : childrenFrom data (offset + b.length) rounds offset = .ok spans) :
    spans.map TlvSpan.tag = ts.map fun t => t.tag.octets := by
  induction ts generalizing b offset rounds spans with
  | nil =>
      cases hts
      cases rounds <;> simp_all [childrenFrom]
  | cons t ts ih =>
      cases hts with
      | @cons _ _ w b hhead htail =>
      have hpos := hhead.length_pos
      rw [List.length_append] at hrounds
      cases rounds with
      | zero => omega
      | succ rounds =>
          rw [childrenFrom, if_pos (by rw [List.length_append]; omega)] at hspans
          obtain ⟨span, hparse, hspans⟩ := Outcome.bind_eq_ok.mp hspans
          obtain ⟨rest, hrest, hspans⟩ := Outcome.bind_eq_ok.mp hspans
          obtain rfl := Except.ok.inj hspans
          rw [List.append_assoc] at hdrop
          obtain ⟨htag, hend, -⟩ := parseTLVSpan_encodes hhead hdrop hparse
          rw [hend, List.length_append, ← Nat.add_assoc] at hrest
          have hnext : data.drop (offset + w.length) = b ++ r := by
            rw [← List.drop_drop, hdrop, List.drop_left]
          simp [htag, ih htail hnext (by omega) hrest]

theorem childrenFrom_head {data h r : Bytes} {tag : Tag} {n stop offset rounds : Nat}
    {spans : List TlvSpan} (hheader : Header tag n h) (hdrop : data.drop offset = h ++ r)
    (hstop : offset < stop) (hrounds : 0 < rounds)
    (hspans : childrenFrom data stop rounds offset = .ok spans) :
    ∃ rest, spans = headerSpan offset h tag n :: rest := by
  cases rounds with
  | zero => omega
  | succ rounds =>
      rw [childrenFrom, if_pos hstop] at hspans
      obtain ⟨span, hparse, hspans⟩ := Outcome.bind_eq_ok.mp hspans
      obtain ⟨rest, -, hspans⟩ := Outcome.bind_eq_ok.mp hspans
      obtain rfl := parseTLVSpan_eq hheader hdrop hparse
      exact ⟨rest, (Except.ok.inj hspans).symm⟩

/-! ## The signed data -/

/-- A signature is looked for as the last child of an arm that may be signed. -/
theorem signedDataOfSpans_eq {data w : Bytes} {span : TlvSpan} {rest : List TlvSpan}
    {raw : Option Bytes} (hwire : span.wire data = w)
    (hraw : signedDataOfSpans data (span :: rest) = .ok raw) :
    raw = if (rest.getLastD span).tag = Raw.tagSignature then some w else none := by
  by_cases hlast : (rest.getLastD span).tag = Raw.tagSignature
  · simp only [signedDataOfSpans, hlast, ne_eq, not_true_eq_false, if_false, Outcome.throw_eq,
      Outcome.error_bind, Outcome.guard_eq_ok] at hraw
    obtain ⟨-, hraw⟩ := hraw
    obtain ⟨-, -, hraw⟩ := Outcome.bind_eq_ok.mp hraw
    rw [if_pos hlast, ← hwire]
    exact (Except.ok.inj hraw).symm
  · simp only [signedDataOfSpans, ne_eq, hlast, not_false_eq_true, if_true] at hraw
    rw [if_neg hlast]
    exact (Except.ok.inj hraw).symm

end OpenIotRsp.Euiccpkg
