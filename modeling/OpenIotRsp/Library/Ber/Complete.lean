import OpenIotRsp.Library.Ber.Codec

/-!
# Complete objects

One object in any of the forms of BER: with a definite length, or with contents
up to the end-of-contents octets.  No complete object is the front of another
one.
-/

namespace Ber

open Octets Reader

def endOfContents : Bytes := [0, 0]

mutual

/-- The octets are one object. -/
inductive Complete : Bytes → Prop
  | definite {tag : Tag} {header body : Bytes} (hheader : Header tag body.length header) :
      Complete (header ++ body)
  | indefinite {tag : Tag} {row : Bytes} (htag : tag.Valid) (hform : tag.isConstructed = true)
      (hrow : Contents row) : Complete (tag.octets ++ 0x80 :: (row ++ endOfContents))

/-- The octets are a row of objects, none of which ends it. -/
inductive Contents : Bytes → Prop
  | nil : Contents []
  | cons {object row : Bytes} (hobject : Complete object) (hne : object ≠ endOfContents)
      (hrow : Contents row) : Contents (object ++ row)

end

theorem Encodes.complete {t : Tlv} {w : Bytes} (ht : Encodes t w) : Complete w := by
  obtain ⟨header, body, rfl, hheader⟩ := ht.exists_header
  exact .definite hheader

theorem header_endOfContents : Header ⟨[0]⟩ 0 endOfContents :=
  encodeHeader_sound (by decide) rfl

/-- The object at the front is the one that a definite length announces there. -/
theorem Complete.eq_of_header {tag : Tag} {header b object r r' : Bytes}
    (hobject : Complete object) (hheader : Header tag b.length header)
    (heq : object ++ r = header ++ b ++ r') : object = header ++ b := by
  cases hobject with
  | @definite tag' header' body' hheader' =>
      rw [List.append_assoc, List.append_assoc] at heq
      obtain ⟨rfl, -, hlength, hrest⟩ := hheader'.unique hheader heq
      rw [List.append_inj_left hrest hlength]
  | @indefinite tag' row htag hform hrow =>
      -- an indefinite length is none to the reader of headers
      have hread := hheader (b ++ r')
      rw [← List.append_assoc, ← heq, List.append_assoc, readHeader, andThen, htag.spells] at hread
      cases hread

theorem Complete.length_pos {object : Bytes} (h : Complete object) : 0 < object.length := by
  cases h with
  | definite hheader =>
      have hpos := hheader.length_pos
      rw [List.length_append]
      omega
  | indefinite _ _ _ =>
      simp only [List.length_append, List.length_cons]
      omega

/-- Objects are told apart as far as the rows inside them are. -/
theorem Complete.unique_of_contents {object object' r r' : Bytes} (h : Complete object)
    (h' : Complete object') (heq : object ++ r = object' ++ r')
    (hcontents : ∀ {row row' s s' : Bytes}, row.length < object.length → Contents row →
      Contents row' → row ++ (endOfContents ++ s) = row' ++ (endOfContents ++ s') → row = row') :
    object = object' := by
  cases h with
  | definite hheader => exact (h'.eq_of_header hheader heq.symm).symm
  | @indefinite tag row htag hform hrow =>
      cases h' with
      | definite hheader => exact (Complete.indefinite htag hform hrow).eq_of_header hheader heq
      | @indefinite tag' row' htag' hform' hrow' =>
          rw [List.append_assoc, List.append_assoc] at heq
          obtain ⟨hoctets, -, hrest⟩ := htag.spells.unique htag'.spells heq
          rw [List.cons_append, List.cons_append, List.append_assoc, List.append_assoc] at hrest
          rw [hoctets, hcontents ?_ hrow hrow' (List.cons.inj hrest).2]
          simp only [List.length_append, List.length_cons]
          omega

theorem Contents.unique {row row' r r' : Bytes} (h : Contents row) (h' : Contents row')
    (heq : row ++ (endOfContents ++ r) = row' ++ (endOfContents ++ r')) : row = row' := by
  induction hn : row.length using Nat.strongRecOn generalizing row row' r r' with
  | ind n ih =>
      cases h with
      | nil =>
          cases h' with
          | nil => rfl
          | cons hobject hne _ =>
              rw [List.append_assoc] at heq
              exact absurd (hobject.eq_of_header (b := []) header_endOfContents heq.symm) hne
      | @cons object row hobject hne hrow =>
          have hpos := hobject.length_pos
          rw [List.append_assoc] at heq
          rw [List.length_append] at hn
          cases h' with
          | nil => exact absurd (hobject.eq_of_header (b := []) header_endOfContents heq) hne
          | cons hobject' _ hrow' =>
              rw [List.append_assoc] at heq
              obtain rfl := hobject.unique_of_contents hobject' heq fun hlt hs hs' hrows =>
                ih _ (by omega) hs hs' hrows rfl
              rw [ih _ (by omega) hrow hrow' (List.append_cancel_left heq) rfl]

/-- No complete object is the front of another one. -/
theorem Complete.unique {object object' r r' : Bytes} (h : Complete object)
    (h' : Complete object') (heq : object ++ r = object' ++ r') : object = object' :=
  h.unique_of_contents h' heq fun _ hrow hrow' hrows => hrow.unique hrow' hrows

end Ber
