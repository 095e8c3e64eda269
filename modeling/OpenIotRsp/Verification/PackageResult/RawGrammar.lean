import OpenIotRsp.Verification.PackageResult.SignatureBinding

/-!
# What the raw parser accepts

Of the octet strings that spell a package result, the raw parser accepts those
with at most four length octets in every header it reads and, under a signature,
with the fields of the signed data in their order.
-/

namespace OpenIotRsp.Euiccpkg

open Octets Ber Asn1 Outcome

/-! ## Short headers -/

/-- At most four length octets after the first one. -/
def ShortHeader (tag : Tag) (h : Bytes) : Prop := h.length ≤ tag.octets.length + 5

theorem lengthOctets_isOk_iff {s r : Bytes} {n : Nat} (hread : readLength s = some (n, r)) :
    (lengthOctets s).isOk ↔ s.length ≤ r.length + 5 := by
  cases s with
  | nil => simp [readLength] at hread
  | cons b bs =>
      by_cases hb : b < 0x80
      · simp only [readLength, hb, if_true, Option.some.injEq, Prod.mk.injEq] at hread
        obtain ⟨-, rfl⟩ := hread
        simp [lengthOctets, hb]
      · simp only [readLength, hb, if_false] at hread
        split at hread
        next => cases hread
        next hvalid =>
            obtain ⟨-, rfl⟩ := Prod.mk.inj (Option.some.inj hread)
            push Not at hvalid
            obtain ⟨hindefinite, -, htake⟩ := hvalid
            by_cases hfour : 4 < b.toNat - 0x80
            · simp [lengthOctets, hb, hindefinite, hfour]
              omega
            · simp [lengthOctets, hb, hindefinite, hfour, Nat.not_lt.mpr htake]
              omega

theorem lengthOctets_le {s : Bytes} {k m : Nat} (h : lengthOctets s = .ok (k, m)) :
    k ≤ s.length := by
  cases s with
  | nil => cases h
  | cons b bs =>
      simp only [lengthOctets] at h
      split at h
      next =>
          obtain ⟨rfl, -⟩ := Prod.mk.inj (Except.ok.inj h)
          simp
      next =>
          simp only [guard_eq_ok] at h
          obtain ⟨-, -, htake, hk⟩ := h
          obtain ⟨rfl, -⟩ := Prod.mk.inj (Except.ok.inj hk)
          simp only [List.length_cons]
          omega

theorem parseTLVSpan_isOk_iff {data h r : Bytes} {tag : Tag} {n offset : Nat}
    (hheader : Header tag n h) (hdrop : data.drop offset = h ++ r) (hn : n ≤ r.length) :
    (parseTLVSpan data offset).isOk ↔ ShortHeader tag h := by
  obtain ⟨htag, hidentifier, hlength⟩ := header_octets hheader hdrop
  have hall := congrArg List.length hdrop
  have hrest := congrArg List.length hidentifier
  simp only [List.length_drop, List.length_append] at hall hrest
  have hshort : (lengthOctets (data.drop (offset + tag.octets.length))).isOk ↔
      ShortHeader tag h := by
    rw [lengthOctets_isOk_iff hlength, ShortHeader, List.length_drop]
    omega
  rw [← hshort, parseTLVSpan, htag, ok_bind]
  cases hraw : lengthOctets (data.drop (offset + tag.octets.length)) with
  | error e => exact Iff.rfl
  | ok x =>
      obtain ⟨k, m⟩ := x
      obtain ⟨rfl, hk⟩ := lengthOctets_eq hlength hraw
      have hleft := congrArg List.length hk
      have hle := lengthOctets_le hraw
      have hpos := hheader.length_pos
      simp only [List.length_drop] at hleft hle
      have hfits : ¬ data.length < offset + tag.octets.length + k + m := by omega
      simp [hfits]

/-- Siblings with short headers. -/
inductive ShortHeaders : List Tlv → Bytes → Prop
  | nil : ShortHeaders [] []
  | cons {t : Tlv} {ts : List Tlv} {h v b : Bytes} (hheader : Header t.tag v.length h)
      (hshort : ShortHeader t.tag h) (htail : ShortHeaders ts b) :
      ShortHeaders (t :: ts) (h ++ v ++ b)

theorem shortHeaders_cons_iff {t : Tlv} {ts : List Tlv} {h v b : Bytes}
    (hheader : Header t.tag v.length h) :
    ShortHeaders (t :: ts) (h ++ v ++ b) ↔ ShortHeader t.tag h ∧ ShortHeaders ts b := by
  constructor
  · intro hall
    generalize hw : h ++ v ++ b = w at hall
    cases hall with
    | cons hheader' hshort htail =>
        rw [List.append_assoc, List.append_assoc] at hw
        obtain ⟨rfl, -, hn, hrest⟩ := hheader.unique hheader' hw
        obtain ⟨rfl, rfl⟩ := List.append_inj hrest hn
        exact ⟨hshort, htail⟩
  · rintro ⟨hshort, htail⟩
    exact .cons hheader hshort htail

theorem childrenFrom_isOk_iff {data : Bytes} {ts : List Tlv} {b r : Bytes} {offset rounds : Nat}
    (hts : EncodesAll ts b) (hdrop : data.drop offset = b ++ r) (hrounds : b.length ≤ rounds) :
    (childrenFrom data (offset + b.length) rounds offset).isOk ↔ ShortHeaders ts b := by
  induction ts generalizing b offset rounds with
  | nil =>
      cases hts
      refine iff_of_true ?_ .nil
      cases rounds <;> simp [childrenFrom]
  | cons t ts ih =>
      cases hts with
      | @cons _ _ w b hhead htail =>
      obtain ⟨h, v, rfl, hheader⟩ := hhead.exists_header
      have hpos := hheader.length_pos
      rw [shortHeaders_cons_iff hheader]
      rw [List.append_assoc, List.append_assoc] at hdrop
      have hparse := parseTLVSpan_isOk_iff hheader hdrop (by simp)
      simp only [List.length_append] at hrounds
      cases rounds with
      | zero => omega
      | succ rounds =>
          rw [childrenFrom, if_pos (by simp only [List.length_append]; omega), ← hparse]
          cases hspan : parseTLVSpan data offset with
          | error e => exact iff_of_false (by simp) (by simp)
          | ok span =>
              obtain rfl := parseTLVSpan_eq hheader hdrop hspan
              have hnext : data.drop (offset + h.length + v.length) = b ++ r := by
                rw [← List.drop_drop, ← List.drop_drop, hdrop, List.drop_left, List.drop_left]
              have hrest : (childrenFrom data (offset + h.length + v.length + b.length) rounds
                  (offset + h.length + v.length)).isOk ↔ ShortHeaders _ b :=
                ih htail hnext (by omega)
              have hstop : offset + (h ++ v ++ b).length =
                  offset + h.length + v.length + b.length := by
                simp only [List.length_append]
                omega
              rw [hstop, ok_bind]
              simp only [headerSpan]
              rw [← hrest]
              cases childrenFrom data (offset + h.length + v.length + b.length) rounds
                (offset + h.length + v.length) <;> simp

/-! ## The signed data -/

/-- The fields of signed data in their order: a result with a sequence number and a list, or an error
with its code, with a transaction identifier or without one. -/
def fieldOrders : List (List Tag) :=
  [[context 0, context 1, context 3, tagSequence],
    [context 0, context 1, context 2, context 3, tagSequence],
    [context 0, context 1, tagInteger], [context 0, context 1, context 2, tagInteger]]

theorem isPackageDataSigned_iff_tags (fields : List TlvSpan) :
    (isPackageResultDataSigned fields = true ∨ isPackageErrorDataSigned fields = true) ↔
      fields.map TlvSpan.tag ∈ fieldOrders.map (List.map Tag.octets) := by
  have hdistinct : Raw.tagContext3 ≠ Raw.tagContext2 ∧ Raw.tagInteger ≠ Raw.tagContext2 ∧
      Raw.tagContext3 ≠ Raw.tagInteger := by decide
  have horders : fieldOrders.map (List.map Tag.octets) =
      [[Raw.tagContext0, Raw.tagContext1, Raw.tagContext3, Raw.tagSequence],
        [Raw.tagContext0, Raw.tagContext1, Raw.tagContext2, Raw.tagContext3, Raw.tagSequence],
        [Raw.tagContext0, Raw.tagContext1, Raw.tagInteger],
        [Raw.tagContext0, Raw.tagContext1, Raw.tagContext2, Raw.tagInteger]] := by decide
  rw [horders]
  rcases fields with _ | ⟨a, _ | ⟨b, _ | ⟨c, rest⟩⟩⟩
  · simp [isPackageResultDataSigned, isPackageErrorDataSigned, signedDataPrefix]
  · simp [isPackageResultDataSigned, isPackageErrorDataSigned, signedDataPrefix]
  · simp [isPackageResultDataSigned, isPackageErrorDataSigned, signedDataPrefix]
  · by_cases hab : a.tag = Raw.tagContext0 ∧ b.tag = Raw.tagContext1
    · by_cases hc : c.tag = Raw.tagContext2
      · rcases rest with _ | ⟨d, _ | ⟨e, _ | ⟨f, rest⟩⟩⟩ <;>
          simp [isPackageResultDataSigned, isPackageErrorDataSigned, signedDataPrefix, hab, hc, hdistinct.1.symm, hdistinct.2.1.symm]
      · rcases rest with _ | ⟨d, _ | ⟨e, rest⟩⟩ <;>
          simp [isPackageResultDataSigned, isPackageErrorDataSigned, signedDataPrefix, hab, hc]
    · rw [not_and_or] at hab
      rcases hab with h | h <;>
        simp [isPackageResultDataSigned, isPackageErrorDataSigned, signedDataPrefix, h]

theorem isPackageDataSigned_iff {fields : List TlvSpan} {ts : List Tlv}
    (htags : fields.map TlvSpan.tag = ts.map fun t => t.tag.octets) :
    (isPackageResultDataSigned fields = true ∨ isPackageErrorDataSigned fields = true) ↔
      ts.map Tlv.tag ∈ fieldOrders := by
  have hinjective : Function.Injective (List.map Tag.octets) :=
    List.map_injective_iff.mpr fun a b h => tag_eq_iff_octets.mpr h
  have hmap : ts.map (fun t => t.tag.octets) = (ts.map Tlv.tag).map Tag.octets := by
    rw [List.map_map]
    rfl
  rw [isPackageDataSigned_iff_tags, htags, hmap, List.mem_map_of_injective hinjective]

/-- Signed data that the raw parser accepts: its fields stand in order under short headers. -/
def SignedDataReadable (data : Tlv) (w : Bytes) : Prop :=
  data.children.map Tlv.tag ∈ fieldOrders ∧ ∃ h fields, w = h ++ fields ∧
    Header data.tag fields.length h ∧ ShortHeaders data.children fields

theorem validateResultSignedData_isOk_iff {data h b r : Bytes} {t : Tlv} {offset : Nat}
    (htag : t.tag = tagSequence) (hheader : Header t.tag b.length h)
    (hfields : EncodesAll t.children b) (hdrop : data.drop offset = h ++ b ++ r) :
    (validateResultSignedData data (headerSpan offset h t.tag b.length)).isOk ↔
      SignedDataReadable t (h ++ b) := by
  have hsequence : t.tag.octets = Raw.tagSequence := by rw [htag]; decide
  have hinner : data.drop (offset + h.length) = b ++ r := by
    rw [← List.drop_drop, hdrop, List.append_assoc, List.drop_left]
  have hchildren : (children data (headerSpan offset h t.tag b.length)).isOk ↔
      ShortHeaders t.children b := by
    simp only [children, headerSpan, Nat.add_sub_cancel_left]
    exact childrenFrom_isOk_iff hfields hinner le_rfl
  have hreadable : SignedDataReadable t (h ++ b) ↔
      t.children.map Tlv.tag ∈ fieldOrders ∧ ShortHeaders t.children b := by
    refine and_congr_right fun _ => ⟨?_, fun hshort => ⟨h, b, rfl, hheader, hshort⟩⟩
    rintro ⟨h', b', heq, hheader', hshort⟩
    obtain ⟨-, -, -, rfl⟩ := hheader.unique hheader' heq
    exact hshort
  rw [hreadable, ← hchildren, validateResultSignedData,
    if_neg (show ¬ (headerSpan offset h t.tag b.length).tag ≠ Raw.tagSequence from
      not_not.mpr hsequence)]
  cases hspans : children data (headerSpan offset h t.tag b.length) with
  | error e => exact iff_of_false (by simp) (by simp)
  | ok spans =>
      have htags : spans.map TlvSpan.tag = t.children.map fun t => t.tag.octets := by
        simp only [children, headerSpan, Nat.add_sub_cancel_left] at hspans
        exact childrenFrom_tags hfields hinner le_rfl hspans
      rw [ok_bind, ← isPackageDataSigned_iff htags]
      split
      next hsigned => exact iff_of_true (by simp) ⟨hsigned, by simp⟩
      next hsigned => exact iff_of_false (by simp) fun h => hsigned h.1

/-! ## Package results -/

/-- The arm that the raw parser takes for unsigned has no further condition; of any other arm all
children have short headers, and where it ends with a signature, it has the signed data in front and
nothing else. -/
def ArmReadable (arm data : Tlv) (w body : Bytes) : Prop :=
  arm.tag ≠ contextConstructed 2 → ShortHeaders arm.children body ∧
    (SignatureLast arm → arm.children.length = 2 ∧ SignedDataReadable data w)

theorem signedDataOfSpans_isOk_iff {data h b after r : Bytes} {arm first : Tlv} {rest : List Tlv}
    {offset : Nat} {spans : List TlvSpan} (htag : first.tag = tagSequence)
    (hheader : Header first.tag b.length h) (hfields : EncodesAll first.children b)
    (hfirst : Encodes first (h ++ b)) (hrest : EncodesAll rest after)
    (hchildren : arm.children = first :: rest) (harm : arm.tag ≠ contextConstructed 2)
    (hdrop : data.drop offset = h ++ b ++ after ++ r)
    (hspans : childrenFrom data (offset + (h ++ b ++ after).length) (h ++ b ++ after).length offset =
      .ok spans) :
    (signedDataOfSpans data spans).isOk ↔
      (SignatureLast arm → arm.children.length = 2 ∧ SignedDataReadable first (h ++ b)) := by
  have hpos := hheader.length_pos
  have htags := childrenFrom_tags (.cons hfirst hrest) hdrop le_rfl hspans
  have hdrop' : data.drop offset = h ++ b ++ (after ++ r) := by rw [hdrop, List.append_assoc]
  have hdrop'' : data.drop offset = h ++ (b ++ (after ++ r)) := by rw [hdrop', List.append_assoc]
  obtain ⟨others, rfl⟩ := childrenFrom_head hheader hdrop''
    (by simp only [List.length_append]; omega) (by simp only [List.length_append]; omega) hspans
  have hlast := last_span_tag htags
  have hlength : others.length = rest.length := by
    simpa using congrArg List.length htags
  have hvalidate := validateResultSignedData_isOk_iff htag hheader hfields hdrop'
  by_cases hsignature : (first :: rest).getLast?.map Tlv.tag = some tagSignature
  · have hsigned : SignatureLast arm := ⟨harm, by rw [hchildren]; exact hsignature⟩
    rw [signedDataOfSpans, if_neg (not_not.mpr (hlast.mpr hsignature)), ← hvalidate, hchildren,
      List.length_cons, ← hlength]
    by_cases hone : others.length = 1
    · rw [if_neg (not_not.mpr hone)]
      cases validateResultSignedData data (headerSpan offset h first.tag b.length) <;>
        simp [hone, hsigned]
    · rw [if_pos hone]
      simp [hone, hsigned]
  · have hunsigned : ¬ SignatureLast arm := fun hsigned => hsignature (by
      rw [← hchildren]; exact hsigned.2)
    rw [signedDataOfSpans, if_pos fun h => hsignature (hlast.mp h)]
    simp [hunsigned]

/-- What the raw parser asks of the octets of a package result. -/
def RawReadable (resultDER : Bytes) (arm data : Tlv) (w : Bytes) : Prop :=
  ∃ hroot harm body, resultDER = hroot ++ (harm ++ body) ∧
    Header tagEuiccPkg (harm ++ body).length hroot ∧ ShortHeader tagEuiccPkg hroot ∧
    Header arm.tag body.length harm ∧ ShortHeader arm.tag harm ∧ ArmReadable arm data w body

theorem rawReadable_iff {hroot harm body w : Bytes} {arm data : Tlv}
    (hheader : Header tagEuiccPkg (harm ++ body).length hroot)
    (harmHeader : Header arm.tag body.length harm) :
    RawReadable (hroot ++ (harm ++ body)) arm data w ↔
      ShortHeader tagEuiccPkg hroot ∧ ShortHeader arm.tag harm ∧ ArmReadable arm data w body := by
  constructor
  · rintro ⟨hroot', harm', body', heq, hheader', hshort, harmHeader', harmShort, hreadable⟩
    obtain ⟨rfl, -, -, hrest⟩ := hheader.unique hheader' heq
    obtain ⟨rfl, -, -, rfl⟩ := harmHeader.unique harmHeader' hrest
    exact ⟨hshort, harmShort, hreadable⟩
  · rintro ⟨hshort, harmShort, hreadable⟩
    exact ⟨hroot, harm, body, rfl, hheader, hshort, harmHeader, harmShort, hreadable⟩

/-- What follows the selection of the arm. -/
def signedDataOfArm (data : Bytes) (selected : TlvSpan) : Except Error (Option Bytes) :=
  if isContextConstructedTag selected.tag 2 then .ok none
  else if selected.tag ≠ Raw.tagSequence ∧ !isContextConstructedTag selected.tag 0 ∧
      !isContextConstructedTag selected.tag 1 then
    .ok none
  else do signedDataOfSpans data (← children data selected)

theorem rawSignedData_of_headers {hroot harm body : Bytes} {tag : Tag}
    (hheader : Header tagEuiccPkg (harm ++ body).length hroot)
    (harmHeader : Header tag body.length harm) :
    (rawSignedDataFromResultDER (hroot ++ (harm ++ body))).isOk ↔
      ShortHeader tagEuiccPkg hroot ∧ ShortHeader tag harm ∧
        (signedDataOfArm (hroot ++ (harm ++ body))
          (headerSpan hroot.length harm tag body.length)).isOk := by
  generalize hder : hroot ++ (harm ++ body) = resultDER
  have hstart : resultDER.drop 0 = hroot ++ (harm ++ body) := by rw [List.drop_zero, hder]
  have hdrop : resultDER.drop hroot.length = harm ++ body := by rw [← hder, List.drop_left]
  have hlength : hroot.length + (harm ++ body).length = resultDER.length := by
    rw [← hder, ← List.length_append]
  rw [← parseTLVSpan_isOk_iff hheader hstart le_rfl, ← parseTLVSpan_isOk_iff harmHeader hdrop le_rfl,
    rawSignedDataFromResultDER]
  cases hspan : parseTLVSpan resultDER 0 with
  | error e => exact iff_of_false (by simp) (by simp)
  | ok root =>
      obtain rfl := parseTLVSpan_eq hheader hstart hspan
      have hroottag : tagEuiccPkg.octets = Raw.tagEuiccPackageResult := by decide
      simp only [ok_bind, headerSpan, Nat.zero_add, hlength, hroottag, ne_eq, not_true_eq_false,
        if_false, onlyChild]
      cases harm_span : parseTLVSpan resultDER hroot.length with
      | error e => exact iff_of_false (by simp) (by simp)
      | ok selected =>
          obtain rfl := parseTLVSpan_eq harmHeader hdrop harm_span
          have hend : hroot.length + harm.length + body.length = resultDER.length := by
            rw [← hlength, List.length_append]
            omega
          simp only [ok_bind, headerSpan, hend, not_true_eq_false, if_false, pure_eq]
          exact ((and_iff_right rfl).trans (and_iff_right rfl)).symm

theorem signedDataOfArm_of_tag {data : Bytes} {selected : TlvSpan} {tag : Tag}
    (hselected : selected.tag = tag.octets)
    (htag : tag = tagSequence ∨ tag = contextConstructed 0 ∨ tag = contextConstructed 1 ∨
      tag = contextConstructed 2) :
    signedDataOfArm data selected =
      if tag = contextConstructed 2 then .ok none
      else children data selected >>= signedDataOfSpans data := by
  rw [signedDataOfArm, hselected]
  rcases htag with rfl | rfl | rfl | rfl
  · rfl
  · rfl
  · rfl
  · rfl

/-- The raw parser accepts just the readable ones among the results that decode as signed. -/
theorem rawSignedData_isOk_iff {hroot harm h b after : Bytes} {arm first : Tlv} {rest : List Tlv}
    (hheader : Header tagEuiccPkg (harm ++ (h ++ b ++ after)).length hroot)
    (harmHeader : Header arm.tag (h ++ b ++ after).length harm)
    (hfirstHeader : Header first.tag b.length h) (hfields : EncodesAll first.children b)
    (hfirst : Encodes first (h ++ b)) (hrest : EncodesAll rest after)
    (hchildren : arm.children = first :: rest) (hsequence : first.tag = tagSequence)
    (htag : arm.tag = tagSequence ∨ arm.tag = contextConstructed 0 ∨
      arm.tag = contextConstructed 1 ∨ arm.tag = contextConstructed 2) :
    (rawSignedDataFromResultDER (hroot ++ (harm ++ (h ++ b ++ after)))).isOk ↔
      RawReadable (hroot ++ (harm ++ (h ++ b ++ after))) arm first (h ++ b) := by
  rw [rawReadable_iff hheader harmHeader, rawSignedData_of_headers hheader harmHeader,
    signedDataOfArm_of_tag rfl htag]
  refine and_congr_right fun _ => and_congr_right fun _ => ?_
  by_cases h2 : arm.tag = contextConstructed 2
  · rw [if_pos h2]
    exact iff_of_true rfl fun hne => absurd h2 hne
  · have hinner : (hroot ++ (harm ++ (h ++ b ++ after))).drop (hroot.length + harm.length) =
        h ++ b ++ after ++ [] := by
      rw [← List.drop_drop, List.drop_left, List.drop_left, List.append_nil]
    have hall := childrenFrom_isOk_iff (.cons hfirst hrest) hinner le_rfl
    rw [if_neg h2, ArmReadable, forall_prop_of_true h2, hchildren, ← hall, children]
    simp only [headerSpan, Nat.add_sub_cancel_left]
    cases hspans : childrenFrom (hroot ++ (harm ++ (h ++ b ++ after)))
        (hroot.length + harm.length + (h ++ b ++ after).length) (h ++ b ++ after).length
        (hroot.length + harm.length) with
    | error e => exact iff_of_false (by simp) (by simp)
    | ok spans =>
        have hsigned := signedDataOfSpans_isOk_iff hsequence hfirstHeader hfields hfirst hrest
          hchildren h2 hinner hspans
        rw [ok_bind, hsigned, hchildren]
        exact (and_iff_right rfl).symm

end OpenIotRsp.Euiccpkg
