import OpenIotRsp.Library.Octets

/-!
# Text in UTF-8

The string functions of the standard library that input checks use, on the
octets of a string: trimming white space, splitting, lower case and decimal
integers, and the replacement of octets that encode no character.
-/

namespace Text

open Octets

/-! ## White space -/

/-- The encodings of the characters that count as white space. -/
def spaces : List Bytes :=
  [[0x09], [0x0a], [0x0b], [0x0c], [0x0d], [0x20], [0xc2, 0x85], [0xc2, 0xa0], [0xe1, 0x9a, 0x80],
    [0xe2, 0x80, 0x80], [0xe2, 0x80, 0x81], [0xe2, 0x80, 0x82], [0xe2, 0x80, 0x83],
    [0xe2, 0x80, 0x84], [0xe2, 0x80, 0x85], [0xe2, 0x80, 0x86], [0xe2, 0x80, 0x87],
    [0xe2, 0x80, 0x88], [0xe2, 0x80, 0x89], [0xe2, 0x80, 0x8a], [0xe2, 0x80, 0xa8],
    [0xe2, 0x80, 0xa9], [0xe2, 0x80, 0xaf], [0xe2, 0x81, 0x9f], [0xe3, 0x80, 0x80]]

/-- Drop words of the list from the front as long as there is one; each is not empty, so the length
bounds the rounds. -/
def dropWords (words : List Bytes) : Nat → Bytes → Bytes
  | 0, s => s
  | rounds + 1, s =>
      match words.find? fun w => w.isPrefixOf s with
      | none => s
      | some w => dropWords words rounds (s.drop w.length)

def trimSpace (s : Bytes) : Bytes :=
  let front := dropWords spaces s.length s
  (dropWords (spaces.map List.reverse) front.length front.reverse).reverse

/-- A visible character of ASCII. -/
def Visible (c : UInt8) : Prop := 0x21 ≤ c ∧ c < 0x7f

instance (c : UInt8) : Decidable (Visible c) := inferInstanceAs (Decidable (_ ∧ _))

theorem dropWords_eq_self {words : List Bytes} {s : Bytes} (h : ∀ w ∈ words, ¬ w <+: s)
    (rounds : Nat) : dropWords words rounds s = s := by
  cases rounds with
  | zero => rfl
  | succ rounds =>
      have hnone : (words.find? fun w => w.isPrefixOf s) = none := by
        rw [List.find?_eq_none]
        exact fun w hw hpre => h w hw (List.isPrefixOf_iff_prefix.mp hpre)
      rw [dropWords, hnone]

/-- No word that starts with something else is dropped from visible text. -/
theorem dropWords_of_visible {words : List Bytes} {s : Bytes}
    (hwords : ∀ w ∈ words, ∃ c ∈ w.head?, ¬ Visible c) (hs : ∀ c ∈ s, Visible c) (rounds : Nat) :
    dropWords words rounds s = s := by
  refine dropWords_eq_self (fun w hw hpre => ?_) rounds
  obtain ⟨c, hc, hvisible⟩ := hwords w hw
  obtain ⟨rest, rfl⟩ := hpre
  exact hvisible (hs c (List.mem_append_left _ (List.mem_of_mem_head? hc)))

/-- Visible text has nothing to trim. -/
theorem trimSpace_of_visible {s : Bytes} (hs : ∀ c ∈ s, Visible c) : trimSpace s = s := by
  have hfront : ∀ w ∈ spaces, ∃ c ∈ w.head?, ¬ Visible c := by decide
  have hback : ∀ w ∈ spaces.map List.reverse, ∃ c ∈ w.head?, ¬ Visible c := by decide
  rw [trimSpace, dropWords_of_visible hfront hs]
  rw [dropWords_of_visible hback fun c hc => hs c (List.mem_reverse.mp hc), List.reverse_reverse]

/-! ## Splitting and case -/

/-- The parts between the separators, at least one. -/
def splitOn (separator : UInt8) : Bytes → List Bytes
  | [] => [[]]
  | b :: bs =>
      if b = separator then [] :: splitOn separator bs
      else
        match splitOn separator bs with
        | [] => [[b]]
        | part :: parts => (b :: part) :: parts

/-- A string without a start that it may have. -/
def trimPrefix (start s : Bytes) : Bytes :=
  if start.isPrefixOf s then s.drop start.length else s

/-- Lower case for the letters of ASCII. -/
def toLower (s : Bytes) : Bytes :=
  s.map fun b => if 65 ≤ b.toNat ∧ b.toNat ≤ 90 then b + 32 else b

/-! ## Decimal integers -/

/-- The value of a string of decimal digits, at least one. -/
def digits : Bytes → Option Nat
  | [] => none
  | s => s.foldl (fun value b =>
      value.bind fun n =>
        if 48 ≤ b.toNat ∧ b.toNat ≤ 57 then some (10 * n + (b.toNat - 48)) else none) (some 0)

/-- A decimal integer with an optional sign, within 64 bits. -/
def parseInt (s : Bytes) : Option Int :=
  let value := match s with
    | 0x2b :: rest => (digits rest).map Int.ofNat
    | 0x2d :: rest => (digits rest).map fun n => -(n : Int)
    | _ => (digits s).map Int.ofNat
  value.filter fun v => -2 ^ 63 ≤ v ∧ v < 2 ^ 63

/-! ## Characters -/

/-- The first octets of the longer characters, from and to, the range of the second octet, and the
length of the character. -/
def leads : List (UInt8 × UInt8 × UInt8 × UInt8 × Nat) :=
  [(0xc2, 0xdf, 0x80, 0xbf, 2), (0xe0, 0xe0, 0xa0, 0xbf, 3), (0xe1, 0xec, 0x80, 0xbf, 3),
    (0xed, 0xed, 0x80, 0x9f, 3), (0xee, 0xef, 0x80, 0xbf, 3), (0xf0, 0xf0, 0x90, 0xbf, 4),
    (0xf1, 0xf3, 0x80, 0xbf, 4), (0xf4, 0xf4, 0x80, 0x8f, 4)]

/-- The length of the character at the front, zero if there is none. -/
def characterLength : Bytes → Nat
  | [] => 0
  | [b] => if b < 0x80 then 1 else 0
  | b :: c :: rest =>
      if b < 0x80 then 1
      else
        match leads.find? fun (low, high, _) => low ≤ b ∧ b ≤ high with
        | none => 0
        | some (_, _, low, high, length) =>
            let continuation := rest.take (length - 2)
            if low ≤ c ∧ c ≤ high ∧ continuation.length = length - 2 ∧
                continuation.all fun d => 0x80 ≤ d ∧ d ≤ 0xbf then length
            else 0

/-- Replace each octet at which no character starts by U+FFFD; each round takes at least one octet,
so the length bounds the rounds. -/
def replaceInvalid : Nat → Bytes → Bytes
  | 0, _ => []
  | _ + 1, [] => []
  | rounds + 1, b :: rest =>
      match characterLength (b :: rest) with
      | 0 => [0xef, 0xbf, 0xbd] ++ replaceInvalid rounds rest
      | length + 1 => b :: rest.take length ++ replaceInvalid rounds (rest.drop length)

def toValidUTF8 (s : Bytes) : Bytes := replaceInvalid s.length s

/-- A string of characters, in which nothing is to be replaced. -/
def isUTF8 (s : Bytes) : Bool := toValidUTF8 s = s

example : trimSpace [0x20, 0x09, 0x61, 0x20, 0x62, 0xc2, 0xa0] = [0x61, 0x20, 0x62] := by decide

example : parseInt [0x2d, 0x34, 0x32] = some (-42) := by decide

example : toValidUTF8 [0x61, 0xc3, 0xa9, 0xc3, 0xed, 0xa0, 0x80] =
    [0x61, 0xc3, 0xa9, 0xef, 0xbf, 0xbd, 0xef, 0xbf, 0xbd, 0xef, 0xbf, 0xbd, 0xef, 0xbf, 0xbd] := by
  decide

end Text
