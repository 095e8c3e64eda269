import OpenIotRsp.Library.Octets
import OpenIotRsp.Library.Reader

/-!
# Definite-length BER-TLV

Tags, TLV trees, and the relation between a tree and the octet strings that
spell it.  Any valid identifier and any valid definite length is admitted; the
minimal form is the business of an encoder.
-/

namespace Ber

open Octets Reader

/-! ## Tags -/

/-- A tag is kept as its identifier octets. -/
structure Tag where
  octets : Bytes
deriving DecidableEq

namespace Tag

def isConstructed (tag : Tag) : Bool :=
  match tag.octets with
  | [] => false
  | b :: _ => b &&& 0x20 != 0

def isContextSpecific (tag : Tag) : Bool :=
  match tag.octets with
  | [] => false
  | b :: _ => b &&& 0xc0 == 0x80

/-- The tag number: the low bits of a single octet, else base 128 over the octets that follow. -/
def number (tag : Tag) : Nat :=
  match tag.octets with
  | [] => 0
  | [b] => b.toNat % 32
  | _ :: bs => bs.foldl (fun n x => n * 128 + x.toNat % 128) 0

end Tag

inductive TagClass where
  | universal
  | application
  | contextSpecific
  | «private»
deriving DecidableEq

namespace TagClass

def bits : TagClass → Nat
  | universal => 0x00
  | application => 0x40
  | contextSpecific => 0x80
  | «private» => 0xc0

/-- Identifier octets for tag numbers below 128: numbers from 31 take a second octet. -/
def tag (c : TagClass) (form number : Nat) : Tag :=
  if number < 31 then ⟨[UInt8.ofNat (c.bits + form + number)]⟩
  else ⟨[UInt8.ofNat (c.bits + form + 31), UInt8.ofNat number]⟩

def primitive (c : TagClass) (number : Nat) : Tag := c.tag 0 number

def constructed (c : TagClass) (number : Nat) : Tag := c.tag 0x20 number

end TagClass

/-! ## Trees -/

inductive Tlv where
  | primitive (tag : Tag) (value : Bytes)
  | constructed (tag : Tag) (children : List Tlv)

namespace Tlv

mutual

def decEq : (s t : Tlv) → Decidable (s = t)
  | primitive a v, primitive b w =>
      decidable_of_iff (a = b ∧ v = w) (by simp)
  | primitive _ _, constructed _ _ => isFalse (by simp)
  | constructed _ _, primitive _ _ => isFalse (by simp)
  | constructed a ss, constructed b ts =>
      match decEqAll ss ts with
      | isTrue h => decidable_of_iff (a = b) (by simp [h])
      | isFalse h => isFalse (by simp [h])

def decEqAll : (ss ts : List Tlv) → Decidable (ss = ts)
  | [], [] => isTrue rfl
  | [], _ :: _ => isFalse (by simp)
  | _ :: _, [] => isFalse (by simp)
  | s :: ss, t :: ts =>
      match decEq s t, decEqAll ss ts with
      | isTrue h, isTrue hs => isTrue (by simp [h, hs])
      | isFalse h, _ => isFalse (by simp [h])
      | _, isFalse hs => isFalse (by simp [hs])

end

instance : DecidableEq Tlv := decEq

def tag : Tlv → Tag
  | primitive tag _ => tag
  | constructed tag _ => tag

/-- The value octets; a constructed TLV has none of its own. -/
def value : Tlv → Bytes
  | primitive _ value => value
  | constructed _ _ => []

def children : Tlv → List Tlv
  | primitive _ _ => []
  | constructed _ children => children

/-- The first direct child with the tag. -/
def first (t : Tlv) (tag : Tag) : Option Tlv :=
  t.children.find? fun child => child.tag = tag

@[simp]
theorem tag_primitive (tag : Tag) (value : Bytes) : (primitive tag value).tag = tag := rfl

@[simp]
theorem tag_constructed (tag : Tag) (ts : List Tlv) : (constructed tag ts).tag = tag := rfl

@[simp]
theorem children_constructed (tag : Tag) (ts : List Tlv) : (constructed tag ts).children = ts := rfl

end Tlv

/-! ## Identifier and length octets -/

/-- The octets after a first identifier octet whose tag number is 31. -/
def readContinuation : Bytes → Option (Bytes × Bytes)
  | [] => none
  | b :: bs =>
      if b &&& 0x80 = 0 then some ([b], bs)
      else (readContinuation bs).map (Prod.map (b :: ·) id)

def readIdentifier : Bytes → Option (Bytes × Bytes)
  | [] => none
  | b :: bs =>
      if b &&& 0x1f = 0x1f then (readContinuation bs).map (Prod.map (b :: ·) id)
      else some ([b], bs)

/-- A definite length, in the short form or with 1 to 126 length octets. -/
def readLength : Bytes → Option (Nat × Bytes)
  | [] => none
  | b :: bs =>
      if b < 0x80 then some (b.toNat, bs)
      else if b = 0x80 ∨ b = 0xff ∨ bs.length < b.toNat - 0x80 then none
      else some (ofBigEndian (bs.take (b.toNat - 0x80)), bs.drop (b.toNat - 0x80))

def readHeader : Bytes → Option ((Tag × Nat) × Bytes) :=
  andThen readIdentifier fun octets bs =>
    (readLength bs).map (Prod.map (fun n => (⟨octets⟩, n)) id)

theorem readContinuation_spells {s octets r : Bytes}
    (hread : readContinuation s = some (octets, r)) :
    s = octets ++ r ∧ Spells readContinuation octets octets := by
  induction s generalizing octets with
  | nil => cases hread
  | cons b bs ih =>
      by_cases hb : b &&& 0x80 = 0
      · simp only [readContinuation, hb, if_true, Option.some.injEq, Prod.mk.injEq] at hread
        obtain ⟨rfl, rfl⟩ := hread
        exact ⟨rfl, fun r => by simp [readContinuation, hb]⟩
      · simp only [readContinuation, hb, if_false, Option.map_eq_some_iff] at hread
        obtain ⟨⟨c, t⟩, hc, heq⟩ := hread
        obtain ⟨rfl, rfl⟩ := Prod.mk.inj heq
        obtain ⟨rfl, hspell⟩ := ih hc
        exact ⟨rfl, fun r => by simp [readContinuation, hb, hspell r]⟩

/-- An identifier is read as the octets that it has. -/
theorem readIdentifier_spells {s octets r : Bytes} (hread : readIdentifier s = some (octets, r)) :
    s = octets ++ r ∧ Spells readIdentifier octets octets := by
  cases s with
  | nil => cases hread
  | cons b bs =>
      by_cases hb : b &&& 0x1f = 0x1f
      · simp only [readIdentifier, hb, if_true, Option.map_eq_some_iff] at hread
        obtain ⟨⟨c, t⟩, hc, heq⟩ := hread
        obtain ⟨rfl, rfl⟩ := Prod.mk.inj heq
        obtain ⟨rfl, hspell⟩ := readContinuation_spells hc
        exact ⟨rfl, fun r => by simp [readIdentifier, hb, hspell r]⟩
      · simp only [readIdentifier, hb, if_false, Option.some.injEq, Prod.mk.injEq] at hread
        obtain ⟨rfl, rfl⟩ := hread
        exact ⟨rfl, fun r => by simp [readIdentifier, hb]⟩

theorem readIdentifier_local : Local readIdentifier :=
  fun _ octets _ hread => ⟨octets, readIdentifier_spells hread⟩

theorem readLength_local : Local readLength := by
  intro s a r hread
  cases s with
  | nil => simp [readLength] at hread
  | cons b bs =>
      by_cases hb : b < 0x80
      · simp only [readLength, hb, if_true, Option.some.injEq, Prod.mk.injEq] at hread
        obtain ⟨rfl, rfl⟩ := hread
        exact ⟨[b], rfl, fun r => by simp [readLength, hb]⟩
      · by_cases hbad : b = 0x80 ∨ b = 0xff ∨ bs.length < b.toNat - 0x80
        · simp [readLength, hb, hbad] at hread
        · simp only [readLength, hb, hbad, if_false, Option.some.injEq, Prod.mk.injEq] at hread
          obtain ⟨rfl, rfl⟩ := hread
          push Not at hbad
          refine ⟨b :: bs.take (b.toNat - 0x80), by simp, fun r => ?_⟩
          have hlen : (bs.take (b.toNat - 0x80)).length = b.toNat - 0x80 := by
            simpa using hbad.2.2
          simp only [readLength, List.cons_append, hb, if_false, hbad.1, hbad.2.1, false_or]
          rw [if_neg (by simp; omega), List.take_left' hlen, List.drop_left' hlen]

theorem readHeader_local : Local readHeader :=
  readIdentifier_local.andThen fun _ => readLength_local.map _

/-- `h` is the header of a TLV with the tag and `n` value octets. -/
def Header (tag : Tag) (n : Nat) (h : Bytes) : Prop :=
  Spells readHeader h (tag, n)

theorem Header.unique {tag tag' : Tag} {n n' : Nat} {h h' r r' : Bytes}
    (hh : Header tag n h) (hh' : Header tag' n' h') (heq : h ++ r = h' ++ r') :
    h = h' ∧ tag = tag' ∧ n = n' ∧ r = r' := by
  obtain ⟨hh, hval, hr⟩ := Spells.unique hh hh' heq
  exact ⟨hh, congrArg Prod.fst hval, congrArg Prod.snd hval, hr⟩

theorem Header.length_pos {tag : Tag} {n : Nat} {h : Bytes} (hh : Header tag n h) :
    0 < h.length := by
  apply List.length_pos_iff.mpr
  rintro rfl
  exact absurd (hh []) (by simp [readHeader, andThen, readIdentifier])

/-! ## Spellings of a tree -/

mutual

/-- The octet string is a definite-length spelling of the tree. -/
inductive Encodes : Tlv → Bytes → Prop
  | primitive {tag : Tag} {value h : Bytes} (hform : tag.isConstructed = false)
      (hheader : Header tag value.length h) : Encodes (.primitive tag value) (h ++ value)
  | constructed {tag : Tag} {ts : List Tlv} {body h : Bytes} (hform : tag.isConstructed = true)
      (hheader : Header tag body.length h) (hbody : EncodesAll ts body) :
      Encodes (.constructed tag ts) (h ++ body)

/-- The octet string is a concatenation of spellings of the trees. -/
inductive EncodesAll : List Tlv → Bytes → Prop
  | nil : EncodesAll [] []
  | cons {t : Tlv} {ts : List Tlv} {w b : Bytes} (hhead : Encodes t w)
      (htail : EncodesAll ts b) : EncodesAll (t :: ts) (w ++ b)

end

theorem Encodes.exists_header {t : Tlv} {w : Bytes} (ht : Encodes t w) :
    ∃ h body, w = h ++ body ∧ Header t.tag body.length h := by
  cases ht with
  | primitive _ hheader => exact ⟨_, _, rfl, hheader⟩
  | constructed _ hheader _ => exact ⟨_, _, rfl, hheader⟩

theorem Encodes.length_pos {t : Tlv} {w : Bytes} (ht : Encodes t w) : 0 < w.length := by
  obtain ⟨h, body, rfl, hheader⟩ := ht.exists_header
  have := hheader.length_pos
  simp only [List.length_append]
  omega

theorem EncodesAll.append_inv {ts us : List Tlv} {b : Bytes} (h : EncodesAll (ts ++ us) b) :
    ∃ b₁ b₂, b = b₁ ++ b₂ ∧ EncodesAll ts b₁ ∧ EncodesAll us b₂ := by
  induction ts generalizing b with
  | nil => exact ⟨[], b, rfl, .nil, h⟩
  | cons t ts ih =>
      cases h with
      | @cons _ _ w b hhead htail =>
          obtain ⟨b₁, b₂, rfl, hts, hus⟩ := ih htail
          exact ⟨w ++ b₁, b₂, by rw [List.append_assoc], .cons hhead hts, hus⟩

/-- In a spelling of a tree, the octets that spell its first child with the property. -/
inductive FirstChildAt (p : Tlv → Bool) : Tlv → Bytes → Tlv → Bytes → Prop
  | intro {tag : Tag} {before after : List Tlv} {c : Tlv} {h b₁ v b₂ : Bytes}
      (hform : tag.isConstructed = true) (hheader : Header tag (b₁ ++ (v ++ b₂)).length h)
      (hbefore : EncodesAll before b₁) (hchild : Encodes c v) (hafter : EncodesAll after b₂)
      (hskipped : ∀ t ∈ before, p t = false) (hfound : p c = true) :
      FirstChildAt p (.constructed tag (before ++ c :: after)) (h ++ (b₁ ++ (v ++ b₂))) c v

theorem exists_firstChildAt {p : Tlv → Bool} {t c : Tlv} {w : Bytes} (ht : Encodes t w)
    (hfind : t.children.find? p = some c) : ∃ v, FirstChildAt p t w c v := by
  cases ht with
  | primitive _ _ => cases hfind
  | constructed hform hheader hbody =>
      obtain ⟨hfound, before, after, rfl, hskipped⟩ := List.find?_eq_some_iff_append.mp hfind
      obtain ⟨b₁, b, rfl, hbefore, hrest⟩ := hbody.append_inv
      cases hrest with
      | cons hchild hafter =>
          exact ⟨_, .intro hform hheader hbefore hchild hafter
            (fun t ht => by simpa using hskipped t ht) hfound⟩

theorem FirstChildAt.encodes {p : Tlv → Bool} {t c : Tlv} {w v : Bytes}
    (h : FirstChildAt p t w c v) : Encodes c v := by
  cases h
  assumption

end Ber
