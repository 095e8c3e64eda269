import Mathlib.Data.List.Find
import OpenIotRsp.Library.Text

/-!
# Trimming and splitting

What `dropWords` leaves of a string when no word starts another one, and the two
ends of `trimSpace`: they are independent of each other, and neither goes past a
character that is not white space.
-/

namespace Text

open Octets

variable {c : UInt8} {dropped : List Bytes}

/-! ## Words dropped from the front -/

section

variable {words : List Bytes}

theorem prefix_of_find? {s w : Bytes} (h : (words.find? fun w => w.isPrefixOf s) = some w) :
    w ∈ words ∧ w <+: s := by
  have hpre := List.find?_some h
  exact ⟨List.mem_of_find?_eq_some h, List.isPrefixOf_iff_prefix.mp hpre⟩

/-- The words that are dropped. -/
theorem exists_dropped (words : List Bytes) (rounds : Nat) (s : Bytes) :
    ∃ dropped : List Bytes, (∀ w ∈ dropped, w ∈ words) ∧
      s = dropped.flatten ++ dropWords words rounds s := by
  induction rounds generalizing s with
  | zero => exact ⟨[], by simp, rfl⟩
  | succ rounds ih =>
      rw [dropWords]
      cases hfind : words.find? fun w => w.isPrefixOf s with
      | none => exact ⟨[], by simp, rfl⟩
      | some w =>
          obtain ⟨dropped, hdropped, hs⟩ := ih (s.drop w.length)
          obtain ⟨hw, rest, rfl⟩ := prefix_of_find? hfind
          refine ⟨w :: dropped, ?_, ?_⟩
          · rintro v (_ | ⟨_, hv⟩)
            · exact hw
            · exact hdropped v hv
          · simp only [List.drop_left] at hs ⊢
            rw [List.flatten_cons, List.append_assoc, ← hs]

/-- With enough rounds, no word is left at the front. -/
theorem not_prefix_dropWords (hne : [] ∉ words) {rounds : Nat} {s : Bytes}
    (h : s.length ≤ rounds) {w : Bytes} (hw : w ∈ words) : ¬ w <+: dropWords words rounds s := by
  induction rounds generalizing s with
  | zero =>
      obtain rfl := List.length_eq_zero_iff.mp (Nat.le_zero.mp h)
      rw [dropWords, List.prefix_nil]
      exact fun hnil => hne (hnil ▸ hw)
  | succ rounds ih =>
      rw [dropWords]
      cases hfind : words.find? fun w => w.isPrefixOf s with
      | none =>
          intro hpre
          exact List.find?_eq_none.mp hfind w hw (List.isPrefixOf_iff_prefix.mpr hpre)
      | some v =>
          have hv : 0 < v.length :=
            List.length_pos_iff.mpr fun hnil => hne (hnil ▸ List.mem_of_find?_eq_some hfind)
          exact ih (by rw [List.length_drop]; omega)

/-- The rest of a string behind words is what is left of it, if no word starts another one. -/
theorem dropWords_flatten_append (hne : [] ∉ words)
    (hfree : ∀ v ∈ words, ∀ w ∈ words, v <+: w → v = w) {r : Bytes}
    (hdropped : ∀ w ∈ dropped, w ∈ words) (hr : ∀ w ∈ words, ¬ w <+: r) {rounds : Nat}
    (h : (dropped.flatten ++ r).length ≤ rounds) :
    dropWords words rounds (dropped.flatten ++ r) = r := by
  induction dropped generalizing rounds with
  | nil => exact dropWords_eq_self hr rounds
  | cons w dropped ih =>
      have hw := hdropped w List.mem_cons_self
      have hpos : 0 < w.length := List.length_pos_iff.mpr fun hnil => hne (hnil ▸ hw)
      rw [List.flatten_cons, List.append_assoc] at h ⊢
      cases rounds with
      | zero => simp only [List.length_append] at h; omega
      | succ rounds =>
          have hpre : w <+: w ++ (dropped.flatten ++ r) := List.prefix_append _ _
          have hfind : (words.find? fun v => v.isPrefixOf (w ++ (dropped.flatten ++ r))) =
              some w := by
            cases hfind : words.find? fun v => v.isPrefixOf (w ++ (dropped.flatten ++ r)) with
            | none =>
                exact absurd (List.isPrefixOf_iff_prefix.mpr hpre)
                  (List.find?_eq_none.mp hfind w hw)
            | some v =>
                obtain ⟨hv, hvpre⟩ := prefix_of_find? hfind
                rcases List.prefix_or_prefix_of_prefix hvpre hpre with hvw | hwv
                · rw [hfree v hv w hw hvw]
                · rw [hfree w hw v hv hwv]
          rw [dropWords, hfind]
          simp only [List.drop_left]
          refine ih (fun v hv => hdropped v (List.mem_cons_of_mem w hv)) ?_
          rw [List.length_append] at h
          omega

/-- A word ends before a character that is not in it. -/
theorem prefix_append_cons_iff {w : Bytes} (hc : c ∉ w) (u r : Bytes) :
    w <+: u ++ c :: r ↔ w <+: u := by
  refine ⟨fun hpre => ?_, fun hpre => hpre.trans (List.prefix_append _ _)⟩
  rcases List.prefix_or_prefix_of_prefix hpre (List.prefix_append u (c :: r)) with h | h
  · exact h
  · obtain ⟨tail, rfl⟩ := h
    rw [List.prefix_append_right_inj] at hpre
    cases tail with
    | nil => simp
    | cons d tail =>
        obtain ⟨rfl, -⟩ := List.cons_prefix_cons.mp hpre
        simp at hc

theorem suffix_append_cons_iff {w : Bytes} (hc : c ∉ w) (u r : Bytes) :
    w <:+ u ++ c :: r ↔ w <:+ r := by
  rw [← List.reverse_prefix, List.reverse_append, List.reverse_cons, List.append_assoc]
  exact (prefix_append_cons_iff (fun h => hc (List.mem_reverse.mp h)) _ _).trans
    List.reverse_prefix

end

/-! ## White space at the two ends -/

def trimLeft (s : Bytes) : Bytes := dropWords spaces s.length s

def trimRight (s : Bytes) : Bytes :=
  (dropWords (spaces.map List.reverse) s.length s.reverse).reverse

theorem trimSpace_eq (s : Bytes) : trimSpace s = trimRight (trimLeft s) := rfl

theorem spaces_ne_nil : [] ∉ spaces := by decide

theorem reversed_spaces_ne_nil : [] ∉ spaces.map List.reverse := by decide

theorem spaces_prefixFree : ∀ v ∈ spaces, ∀ w ∈ spaces, v <+: w → v = w := by decide

theorem reversed_spaces_prefixFree :
    ∀ v ∈ spaces.map List.reverse, ∀ w ∈ spaces.map List.reverse, v <+: w → v = w := by decide

theorem trimLeft_spec (s : Bytes) :
    ∃ dropped : List Bytes, (∀ w ∈ dropped, w ∈ spaces) ∧ s = dropped.flatten ++ trimLeft s ∧
      ∀ w ∈ spaces, ¬ w <+: trimLeft s := by
  obtain ⟨dropped, hdropped, hs⟩ := exists_dropped spaces s.length s
  exact ⟨dropped, hdropped, hs, fun w hw => not_prefix_dropWords spaces_ne_nil le_rfl hw⟩

theorem trimLeft_eq {r : Bytes} (hdropped : ∀ w ∈ dropped, w ∈ spaces)
    (hr : ∀ w ∈ spaces, ¬ w <+: r) : trimLeft (dropped.flatten ++ r) = r :=
  dropWords_flatten_append spaces_ne_nil spaces_prefixFree hdropped hr le_rfl

theorem trimRight_spec (s : Bytes) :
    ∃ dropped : List Bytes, (∀ w ∈ dropped, w ∈ spaces) ∧ s = trimRight s ++ dropped.flatten ∧
      ∀ w ∈ spaces, ¬ w <:+ trimRight s := by
  obtain ⟨dropped, hdropped, hs⟩ :=
    exists_dropped (spaces.map List.reverse) s.length s.reverse
  refine ⟨(dropped.map List.reverse).reverse, ?_, ?_, ?_⟩
  · intro w hw
    obtain ⟨v, hv, rfl⟩ := List.mem_map.mp (List.mem_reverse.mp hw)
    obtain ⟨w, hw, rfl⟩ := List.mem_map.mp (hdropped v hv)
    rwa [List.reverse_reverse]
  · rw [trimRight, ← List.reverse_flatten, ← List.reverse_append, ← hs, List.reverse_reverse]
  · intro w hw hsuf
    refine not_prefix_dropWords reversed_spaces_ne_nil (s := s.reverse)
      (List.length_reverse).le (List.mem_map_of_mem hw) ?_
    rw [trimRight, ← List.reverse_prefix, List.reverse_reverse] at hsuf
    exact hsuf

theorem trimRight_eq {r : Bytes} (hdropped : ∀ w ∈ dropped, w ∈ spaces)
    (hr : ∀ w ∈ spaces, ¬ w <:+ r) : trimRight (r ++ dropped.flatten) = r := by
  have hreverse : (r ++ dropped.flatten).reverse =
      (dropped.map List.reverse).reverse.flatten ++ r.reverse := by
    rw [List.reverse_append, List.reverse_flatten]
  rw [trimRight, hreverse, dropWords_flatten_append reversed_spaces_ne_nil
    reversed_spaces_prefixFree, List.reverse_reverse]
  · intro w hw
    obtain ⟨v, hv, rfl⟩ := List.mem_map.mp (List.mem_reverse.mp hw)
    exact List.mem_map_of_mem (hdropped v hv)
  · intro w hw hpre
    obtain ⟨v, hv, rfl⟩ := List.mem_map.mp hw
    exact hr v hv (List.reverse_prefix.mp hpre)
  · rw [← hreverse, List.length_reverse]

theorem trimRight_trimRight (s : Bytes) : trimRight (trimRight s) = trimRight s := by
  obtain ⟨dropped, -, -, hback⟩ := trimRight_spec s
  simpa using trimRight_eq (List.forall_mem_nil _) hback

/-- A character of no encoding of white space. -/
def Solid (c : UInt8) : Prop := ∀ w ∈ spaces, c ∉ w

instance (c : UInt8) : Decidable (Solid c) := inferInstanceAs (Decidable (∀ w ∈ spaces, _))

/-- Trimming does not go past such a character. -/
theorem trimLeft_append_cons (hc : Solid c) (u v : Bytes) :
    trimLeft (u ++ c :: v) = trimLeft u ++ c :: v := by
  obtain ⟨dropped, hdropped, hu, hrest⟩ := trimLeft_spec u
  have hsplit : u ++ c :: v = dropped.flatten ++ (trimLeft u ++ c :: v) := by
    rw [← List.append_assoc, ← hu]
  rw [hsplit]
  refine trimLeft_eq hdropped fun w hw hpre => hrest w hw ?_
  exact (prefix_append_cons_iff (hc w hw) _ _).mp hpre

theorem trimRight_append_cons (hc : Solid c) (u v : Bytes) :
    trimRight (u ++ c :: v) = u ++ c :: trimRight v := by
  obtain ⟨dropped, hdropped, hv, hrest⟩ := trimRight_spec v
  have hsplit : u ++ c :: v = (u ++ c :: trimRight v) ++ dropped.flatten := by
    rw [List.append_assoc, List.cons_append, ← hv]
  rw [hsplit]
  refine trimRight_eq hdropped fun w hw hsuf => hrest w hw ?_
  exact (suffix_append_cons_iff (hc w hw) _ _).mp hsuf

theorem trimSpace_append_cons (hc : Solid c) (u v : Bytes) :
    trimSpace (u ++ c :: v) = trimLeft u ++ c :: trimRight v := by
  rw [trimSpace_eq, trimLeft_append_cons hc, trimRight_append_cons hc]

/-- The octets of a character after its first one. -/
def IsContinuation (c : UInt8) : Prop := 0x80 ≤ c ∧ c ≤ 0xbf

instance (c : UInt8) : Decidable (IsContinuation c) := inferInstanceAs (Decidable (_ ∧ _))

theorem spaces_aligned : ∀ w ∈ spaces,
    (∀ c ∈ w.head?, ¬ IsContinuation c) ∧ ∀ c ∈ w.tail, IsContinuation c := by decide +kernel

/-- The first octet of a character among characters of white space starts one of them. -/
theorem exists_prefix_of_flatten (hdropped : ∀ w ∈ dropped, w ∈ spaces) {y t : Bytes}
    (hc : ¬ IsContinuation c) (h : dropped.flatten = y ++ c :: t) : ∃ w ∈ spaces, w <+: c :: t := by
  induction dropped generalizing y with
  | nil => simp at h
  | cons w dropped ih =>
      have hw := hdropped w List.mem_cons_self
      rw [List.flatten_cons, List.append_eq_append_iff] at h
      rcases h with ⟨tail, rfl, h⟩ | ⟨tail, hwtail, h⟩
      · exact ih (fun v hv => hdropped v (List.mem_cons_of_mem w hv)) h
      · cases y with
        | nil => exact ⟨w, hw, ⟨dropped.flatten, by rw [h, hwtail]; rfl⟩⟩
        | cons d y =>
            cases tail with
            | nil =>
                exact ih (y := []) (fun v hv => hdropped v (List.mem_cons_of_mem w hv)) h.symm
            | cons d' tail =>
                -- the octet would be inside the word
                obtain ⟨rfl, -⟩ := List.cons.inj h
                refine absurd ((spaces_aligned w hw).2 c ?_) hc
                simp [hwtail]

/-- White space before other characters does not hide white space after them. -/
theorem not_suffix_flatten_append (hdropped : ∀ w ∈ dropped, w ∈ spaces) {r : Bytes} (hne : r ≠ [])
    (hr : ∀ w ∈ spaces, ¬ w <:+ r) {w : Bytes} (hw : w ∈ spaces) :
    ¬ w <:+ dropped.flatten ++ r := by
  intro hsuf
  rcases List.suffix_or_suffix_of_suffix hsuf (List.suffix_append dropped.flatten r) with h | h
  · exact hr w hw h
  · obtain ⟨z, rfl⟩ := h
    obtain ⟨y, hy⟩ := hsuf
    have hflatten : dropped.flatten = y ++ z := by
      rw [← List.append_assoc] at hy
      exact (List.append_cancel_right hy).symm
    cases z with
    | nil => exact hr r hw (List.suffix_refl r)
    | cons c t =>
        have hc := (spaces_aligned _ hw).1 c rfl
        obtain ⟨v, hv, hpre⟩ := exists_prefix_of_flatten hdropped hc hflatten
        have hlength := hpre.length_le
        rw [spaces_prefixFree v hv _ hw (hpre.trans (List.prefix_append _ _)),
          List.length_append] at hlength
        exact hne (List.length_eq_zero_iff.mp (by omega))

/-- The two ends are trimmed independently of each other. -/
theorem trimSpace_trimRight (s : Bytes) : trimSpace (trimRight s) = trimSpace s := by
  obtain ⟨left, hleft, hs, hfront⟩ := trimLeft_spec s
  obtain ⟨right, hright, hcore, hback⟩ := trimRight_spec (trimLeft s)
  have hnone : ∀ w ∈ spaces, ¬ w <:+ [] := by decide
  rw [trimSpace_eq s]
  by_cases hne : trimRight (trimLeft s) = []
  · -- all of it is white space
    have hempty : right = [] := by
      cases right with
      | nil => rfl
      | cons w right =>
          rw [hne, List.nil_append, List.flatten_cons] at hcore
          exact absurd ⟨_, hcore.symm⟩ (hfront w (hright w List.mem_cons_self))
    have hall : s = [] ++ left.flatten := by
      rw [hne, hempty] at hcore
      rw [hs, hcore]
      simp
    rw [hne, hall, trimRight_eq hleft hnone]
    decide
  · have hsplit : s = (left.flatten ++ trimRight (trimLeft s)) ++ right.flatten := by
      rw [List.append_assoc, ← hcore, ← hs]
    have htrim : trimRight s = left.flatten ++ trimRight (trimLeft s) := by
      conv_lhs => rw [hsplit]
      exact trimRight_eq hright fun w hw => not_suffix_flatten_append hleft hne hback hw
    have hprefix : ∀ w ∈ spaces, ¬ w <+: trimRight (trimLeft s) := by
      intro w hw hpre
      exact hfront w hw (hpre.trans ⟨right.flatten, hcore.symm⟩)
    rw [htrim, trimSpace_eq, trimLeft_eq hleft hprefix]
    exact trimRight_trimRight (trimLeft s)

theorem mem_of_mem_trimRight {s : Bytes} (h : c ∈ trimRight s) : c ∈ s := by
  obtain ⟨dropped, -, hs, -⟩ := trimRight_spec s
  rw [hs]
  exact List.mem_append_left _ h

theorem mem_trimSpace {s : Bytes} (hc : Solid c) : c ∈ trimSpace s ↔ c ∈ s := by
  constructor
  · intro h
    obtain ⟨dropped, -, hs, -⟩ := trimLeft_spec s
    rw [hs]
    exact List.mem_append_right _ (mem_of_mem_trimRight h)
  · intro h
    obtain ⟨u, v, rfl⟩ := List.append_of_mem h
    rw [trimSpace_append_cons hc]
    simp

/-! ## Parts between separators -/

theorem splitOn_of_not_mem {separator : UInt8} {s : Bytes} (h : separator ∉ s) :
    splitOn separator s = [s] := by
  induction s with
  | nil => rfl
  | cons b s ih =>
      have hb : b ≠ separator := fun hb => h (hb ▸ List.mem_cons_self)
      rw [splitOn, if_neg hb, ih fun hs => h (List.mem_cons_of_mem b hs)]

theorem splitOn_append_cons {separator : UInt8} {a : Bytes} (h : separator ∉ a) (s : Bytes) :
    splitOn separator (a ++ separator :: s) = a :: splitOn separator s := by
  induction a with
  | nil => simp [splitOn]
  | cons b a ih =>
      have hb : b ≠ separator := fun hb => h (hb ▸ List.mem_cons_self)
      rw [List.cons_append, splitOn, if_neg hb, ih fun ha => h (List.mem_cons_of_mem b ha)]

/-- The first of several parts ends at a separator. -/
theorem eq_append_cons_of_splitOn {separator : UInt8} {s first second : Bytes}
    {rest : List Bytes} (h : splitOn separator s = first :: second :: rest) :
    ∃ tail, s = first ++ separator :: tail ∧ splitOn separator tail = second :: rest := by
  have hmem : separator ∈ s := by
    by_contra hnot
    rw [splitOn_of_not_mem hnot] at h
    simp at h
  obtain ⟨a, tail, rfl, ha⟩ := List.eq_append_cons_of_mem hmem
  rw [splitOn_append_cons ha] at h
  obtain ⟨rfl, htail⟩ := List.cons.inj h
  exact ⟨tail, rfl, htail⟩

/-- No part holds a separator. -/
theorem not_mem_of_mem_splitOn {separator : UInt8} {s part : Bytes}
    (h : part ∈ splitOn separator s) : separator ∉ part := by
  induction s generalizing part with
  | nil => simp_all [splitOn]
  | cons b s ih =>
      rw [splitOn] at h
      split at h
      next =>
          rcases List.mem_cons.mp h with rfl | h
          · simp
          · exact ih h
      next hb =>
          cases hsplit : splitOn separator s with
          | nil =>
              rw [hsplit] at h
              obtain rfl := List.mem_singleton.mp h
              simpa using Ne.symm hb
          | cons first rest =>
              rw [hsplit] at h ih
              rcases List.mem_cons.mp h with rfl | h
              · have hfirst := ih List.mem_cons_self
                simp [Ne.symm hb, hfirst]
              · exact ih (List.mem_cons_of_mem first h)

end Text
