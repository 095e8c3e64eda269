import Mathlib.Data.List.DropRight
import OpenIotRsp.Library.Delimited

/-!
# Dates and times as text

The RFC 3339 text of a time in UTC, with the fraction of the second as far as it
has digits other than zero.  The text ends with its zone mark and names one time
only.
-/

namespace Rfc3339

open Octets Delimited

/-- A time in UTC.  The numbers of month and day start with one. -/
structure DateTime where
  year : Int
  month : Fin 13
  day : Fin 32
  hour : Fin 24
  minute : Fin 60
  second : Fin 60
  nanosecond : Fin 1000000000
deriving DecidableEq

/-! ## Decimal numbers -/

def digit (d : Nat) : UInt8 := UInt8.ofNat (48 + d)

/-- The decimal digits of a number, with zeros in front up to the width. -/
def padded (width n : Nat) : Bytes :=
  let digits := ((Nat.digits 10 n).reverse).map digit
  List.replicate (width - digits.length) (digit 0) ++ digits

def decimalValue (s : Bytes) : Nat :=
  Nat.ofDigits 10 (s.reverse.map fun c => c.toNat - 48)

theorem toNat_digit {d : Nat} (h : d < 10) : (digit d).toNat - 48 = d := by
  rw [digit, UInt8.toNat_ofNat_of_lt' (by simp [UInt8.size]; omega)]
  omega

theorem decimalValue_padded (width n : Nat) : decimalValue (padded width n) = n := by
  have hdigits : ((Nat.digits 10 n).map digit).map (fun c => c.toNat - 48) = Nat.digits 10 n := by
    rw [List.map_map]
    conv_rhs => rw [← List.map_id (Nat.digits 10 n)]
    refine List.map_congr_left fun d hd => ?_
    exact toNat_digit (Nat.digits_lt_base (by norm_num) hd)
  rw [decimalValue, padded, List.reverse_append, List.reverse_replicate, ← List.map_reverse,
    List.reverse_reverse, List.map_append, hdigits, Nat.ofDigits_append, Nat.ofDigits_digits,
    List.map_replicate, show (digit 0).toNat - 48 = 0 from rfl, Nat.ofDigits_replicate_zero]
  simp

theorem padded_injective (width : Nat) : Function.Injective (padded width) := by
  intro m n h
  have hvalue := congrArg decimalValue h
  rwa [decimalValue_padded, decimalValue_padded] at hvalue

theorem isDigit_of_mem_padded {width n : Nat} {c : UInt8} (h : c ∈ padded width n) :
    48 ≤ c.toNat ∧ c.toNat ≤ 57 := by
  have hdigit : ∃ d < 10, c = digit d := by
    rcases List.mem_append.mp h with hzero | hmem
    · exact ⟨0, by norm_num, (List.mem_replicate.mp hzero).2⟩
    · obtain ⟨d, hd, rfl⟩ := List.mem_map.mp hmem
      exact ⟨d, Nat.digits_lt_base (by norm_num) (List.mem_reverse.mp hd), rfl⟩
  obtain ⟨d, hd, rfl⟩ := hdigit
  rw [digit, UInt8.toNat_ofNat_of_lt' (by simp [UInt8.size]; omega)]
  omega

theorem not_mem_padded {width n : Nat} {c : UInt8} (h : c.toNat < 48 ∨ 57 < c.toNat) :
    c ∉ padded width n := by
  intro hmem
  have hdigit := isDigit_of_mem_padded hmem
  omega

theorem length_padded {width n : Nat} (h : n < 10 ^ width) : (padded width n).length = width := by
  have hlength := (Nat.digits_length_le_iff (by norm_num : 1 < 10) n).mpr h
  simp only [padded, List.length_append, List.length_replicate, List.length_map,
    List.length_reverse]
  omega

theorem le_length_padded (width n : Nat) : width ≤ (padded width n).length := by
  simp only [padded, List.length_append, List.length_replicate, List.length_map,
    List.length_reverse]
  omega

/-! ## The text -/

def yearText (year : Int) : Bytes :=
  if year < 0 then 0x2d :: padded 4 year.natAbs else padded 4 year.natAbs

/-- The digits of the fraction without the zeros at its end. -/
def fractionDigits (nanosecond : Nat) : Bytes :=
  (padded 9 nanosecond).rdropWhile fun c => c = 0x30

def fractionText (nanosecond : Nat) : Bytes :=
  if fractionDigits nanosecond = [] then [] else 0x2e :: fractionDigits nanosecond

/-- `Format` with the layout `time.RFC3339Nano`. -/
def format (t : DateTime) : Bytes :=
  yearText t.year ++ 0x2d :: (padded 2 t.month ++ 0x2d :: (padded 2 t.day ++
    0x54 :: (padded 2 t.hour ++ 0x3a :: (padded 2 t.minute ++ 0x3a :: (padded 2 t.second ++
      (fractionText t.nanosecond ++ [0x5a]))))))

/-- `Truncate(time.Microsecond)` -/
def truncateMicrosecond (t : DateTime) : DateTime :=
  { t with nanosecond := ⟨t.nanosecond - t.nanosecond % 1000, by omega⟩ }

example : format ⟨2026, 3, 1, 12, 0, 5, 120000000⟩ = text "2026-03-01T12:00:05.12Z" := by
  decide +kernel

theorem yearText_delimits {y y' : Int} {s t : Bytes}
    (h : yearText y ++ 0x2d :: s = yearText y' ++ 0x2d :: t) : y = y' ∧ s = t := by
  -- the sign is seen at the first octet, which is a digit otherwise
  have hhead : ∀ n (s : Bytes), (padded 4 n ++ s).head? ≠ some 0x2d := by
    intro n s hhead
    have hne : padded 4 n ≠ [] := List.ne_nil_of_length_pos (Nat.lt_of_lt_of_le (by norm_num) (le_length_padded 4 n))
    rw [List.head?_append_of_ne_nil _ hne] at hhead
    exact not_mem_padded (by decide) (List.mem_of_mem_head? hhead)
  rw [yearText, yearText] at h
  by_cases hy : y < 0
  all_goals by_cases hy' : y' < 0
  · rw [if_pos hy, if_pos hy'] at h
    obtain ⟨hyear, hrest⟩ := append_mark_inj (not_mem_padded (by decide))
      (not_mem_padded (by decide)) (List.cons.inj h).2
    have habs := padded_injective 4 hyear
    exact ⟨by omega, hrest⟩
  · rw [if_pos hy, if_neg hy'] at h
    exact absurd (congrArg List.head? h).symm (hhead _ _)
  · rw [if_neg hy, if_pos hy'] at h
    exact absurd (congrArg List.head? h) (hhead _ _)
  · rw [if_neg hy, if_neg hy'] at h
    obtain ⟨hyear, hrest⟩ := append_mark_inj (not_mem_padded (by decide))
      (not_mem_padded (by decide)) h
    have habs := padded_injective 4 hyear
    exact ⟨by omega, hrest⟩

/-- The zeros that were dropped are those that fill the nine digits. -/
theorem padded_of_fractionDigits {n : Nat} (h : n < 10 ^ 9) :
    padded 9 n = fractionDigits n ++ List.replicate (9 - (fractionDigits n).length) 0x30 := by
  have hsplit := List.rdropWhile_append_rtakeWhile (p := fun c : UInt8 => decide (c = 0x30))
    (l := padded 9 n)
  have hzeros : (padded 9 n).rtakeWhile (fun c => decide (c = 0x30)) =
      List.replicate ((padded 9 n).rtakeWhile fun c => decide (c = 0x30)).length 0x30 := by
    refine List.eq_replicate_of_mem fun c hc => ?_
    have hzero := List.mem_rtakeWhile_imp hc
    exact of_decide_eq_true hzero
  have hlength := congrArg List.length hsplit
  rw [List.length_append, length_padded h] at hlength
  have hcount : ((padded 9 n).rtakeWhile fun c => decide (c = 0x30)).length =
      9 - (fractionDigits n).length := by
    rw [fractionDigits]
    omega
  rw [hcount] at hzeros
  rw [← hzeros]
  exact hsplit.symm

theorem fractionText_injective {m n : Nat} (hm : m < 10 ^ 9) (hn : n < 10 ^ 9)
    (h : fractionText m = fractionText n) : m = n := by
  have hdigits : fractionDigits m = fractionDigits n := by
    rw [fractionText, fractionText] at h
    split at h
    next hm =>
        split at h
        next hn => rw [hm, hn]
        next => cases h
    next =>
        split at h
        next => cases h
        next => exact (List.cons.inj h).2
  apply padded_injective 9
  rw [padded_of_fractionDigits hm, padded_of_fractionDigits hn, hdigits]

theorem not_mem_fractionText (n : Nat) : 0x5a ∉ fractionText n := by
  rw [fractionText]
  split
  next => simp
  next =>
      intro hmem
      rcases List.mem_cons.mp hmem with h | hmem
      · cases h
      · exact not_mem_padded (by decide) ((List.rdropWhile_prefix _ _).subset hmem)

/-- Two digits, whatever follows. -/
theorem padded_two_delimits {m n : Nat} {s t : Bytes} (hm : m < 100) (hn : n < 100)
    (h : padded 2 m ++ s = padded 2 n ++ t) : m = n ∧ s = t := by
  obtain ⟨hdigits, hrest⟩ := List.append_inj h
    ((length_padded (by omega)).trans (length_padded (by omega)).symm)
  exact ⟨padded_injective 2 hdigits, hrest⟩

/-- The text of a time ends with its zone mark, and no two times have the same text. -/
theorem delimits_format : Delimits (fun _ _ => True) format := by
  intro a b _ s t h
  obtain ⟨year, month, day, hour, minute, second, nanosecond⟩ := a
  obtain ⟨year', month', day', hour', minute', second', nanosecond'⟩ := b
  simp only [format, List.append_assoc, List.cons_append, List.nil_append] at h
  obtain ⟨hyear, h⟩ := yearText_delimits h
  obtain ⟨hmonth, h⟩ := padded_two_delimits (by omega) (by omega) h
  obtain ⟨hday, h⟩ := padded_two_delimits (by omega) (by omega) (List.cons.inj h).2
  obtain ⟨hhour, h⟩ := padded_two_delimits (by omega) (by omega) (List.cons.inj h).2
  obtain ⟨hminute, h⟩ := padded_two_delimits (by omega) (by omega) (List.cons.inj h).2
  obtain ⟨hsecond, h⟩ := padded_two_delimits (by omega) (by omega) (List.cons.inj h).2
  obtain ⟨hfraction, hrest⟩ := append_mark_inj (not_mem_fractionText _) (not_mem_fractionText _) h
  have hnanosecond := fractionText_injective nanosecond.isLt nanosecond'.isLt hfraction
  refine ⟨?_, hrest⟩
  simp only [DateTime.mk.injEq]
  exact ⟨hyear, Fin.ext hmonth, Fin.ext hday, Fin.ext hhour, Fin.ext hminute, Fin.ext hsecond,
    Fin.ext hnanosecond⟩

end Rfc3339
