import OpenIotRsp.Library.Ber.Codec
import OpenIotRsp.Library.Ber.Integer
import OpenIotRsp.Model.Error

/-!
# The `asn1` codec helpers

`asn1/codec.go` and `asn1/tags.go` over a `bertlv` package.  The package is not
part of the repository: it is a parameter, and `Bertlv.Lawful` states what its
documentation promises.
-/

namespace OpenIotRsp

open Octets Ber

/-! ## The BER-TLV package -/

/-- How `ReadFrom` fails: at the end of the input, or on malformed octets. -/
inductive ReadError where
  | eof
  | malformed
deriving DecidableEq

/-- The operations of `bertlv` and `bertlv/primitive` that the code calls. -/
structure Bertlv where
  /-- `TLV.ReadFrom`: one TLV from the front of the input, with the octets consumed -/
  readFrom : Bytes → Except ReadError (Tlv × Nat)
  /-- `TLV.MarshalBinary` -/
  marshalBinary : Tlv → Option Bytes
  /-- the value octets of `primitive.MarshalInt` -/
  marshalInt : Int → Option Bytes
  /-- `TLV.UnmarshalValue` with `primitive.UnmarshalInt` -/
  unmarshalInt : Tlv → Option Int
  /-- the value octets of `primitive.MarshalBool` -/
  marshalBool : Bool → Option Bytes
  /-- `TLV.UnmarshalValue` with `primitive.UnmarshalBool` -/
  unmarshalBool : Tlv → Option Bool

namespace Bertlv

/-- The documented behaviour: definite-length BER-TLV is read, and what is written is read back. -/
structure Lawful (B : Bertlv) : Prop where
  readFrom_sound : ∀ s t n, B.readFrom s = .ok (t, n) →
    ∃ w r, s = w ++ r ∧ w.length = n ∧ Encodes t w
  readFrom_marshalBinary : ∀ t w, t.WellFormed → B.marshalBinary t = some w →
    B.readFrom w = .ok (t, w.length)
  unmarshalInt_marshalInt : ∀ v b tag, B.marshalInt v = some b →
    B.unmarshalInt (.primitive tag b) = some v
  unmarshalBool_marshalBool : ∀ v b tag, B.marshalBool v = some b →
    B.unmarshalBool (.primitive tag b) = some v

/-- A concrete package with that behaviour: the reference codec, with 64-bit integers. -/
def reference : Bertlv where
  readFrom s :=
    match decode s with
    | some x => .ok x
    | none => .error .malformed
  marshalBinary := encode
  marshalInt v := if -2 ^ 63 ≤ v ∧ v < 2 ^ 63 then some (encodeInteger v) else none
  unmarshalInt
    | .primitive _ b => decodeInteger b
    | .constructed _ _ => none
  marshalBool v := some [if v then 0xff else 0x00]
  unmarshalBool
    | .primitive _ [b] => some (b != 0)
    | _ => none

theorem reference_lawful : reference.Lawful where
  readFrom_sound s t n hread := by
    apply decode_sound
    simp only [reference] at hread
    split at hread
    next x hx =>
        cases hread
        exact hx
    next => cases hread
  readFrom_marshalBinary t w ht hw := by
    have hdecode := decode_complete (encode_sound t w ht hw) []
    rw [List.append_nil] at hdecode
    simp [reference, hdecode]
  unmarshalInt_marshalInt v b tag hb := by
    simp only [reference] at hb ⊢
    split at hb
    next hrange =>
        cases hb
        exact decodeInteger_encodeInteger hrange.1 hrange.2
    next => cases hb
  unmarshalBool_marshalBool v b tag hb := by
    simp only [reference, Option.some.injEq] at hb ⊢
    cases v <;> simp [← hb]

end Bertlv

namespace Asn1

/-! ## Tags -/

def context (number : Nat) : Tag := TagClass.contextSpecific.primitive number

def contextConstructed (number : Nat) : Tag := TagClass.contextSpecific.constructed number

def tagSequence : Tag := TagClass.universal.constructed 16
def tagInteger : Tag := TagClass.universal.primitive 2
def tagOctet : Tag := TagClass.universal.primitive 4
def tagNull : Tag := TagClass.universal.primitive 5
def tagUTF8 : Tag := TagClass.universal.primitive 12

def tagEID : Tag := TagClass.application.primitive 26
def tagSignature : Tag := TagClass.application.primitive 55
def tagEuiccPkg : Tag := contextConstructed 81
def tagIpaEuiccData : Tag := contextConstructed 82
def tagEimAck : Tag := contextConstructed 83
def tagDownloadTrig : Tag := contextConstructed 84

def tagTransferEimPackage : Tag := contextConstructed 78
def tagGetEimPackage : Tag := contextConstructed 79
def tagProvideEimResult : Tag := contextConstructed 80

def tagProfileInfoList : Tag := contextConstructed 45
def tagProfileInfo : Tag := TagClass.private.constructed 3
def tagProfileState : Tag := context 112
def tagFallbackAttribute : Tag := context 38
def tagNotificationList : Tag := contextConstructed 0
def tagNotificationMeta : Tag := contextConstructed 47
def tagProfileInstall : Tag := contextConstructed 55
def tagProfileInstallData : Tag := contextConstructed 39
def tagProfileFinalResult : Tag := contextConstructed 2
def tagSetDefaultDPAddress : Tag := contextConstructed 101

/-! ## Whole inputs -/

variable (B : Bertlv)

def parseTLV (data : Bytes) : Except Error Tlv :=
  if data = [] then .error (.message "asn1: empty BER-TLV input")
  else
    match B.readFrom data with
    | .error .eof => .error (.message "asn1: truncated BER-TLV input")
    | .error .malformed => .error (.message "asn1: parse BER-TLV")
    | .ok (tlv, n) =>
        if n ≠ data.length then .error (.message "asn1: trailing data after BER-TLV object")
        else .ok tlv

/-- `Encode` after the value's `MarshalBERTLV`. -/
def encode (marshaled : Except Error Tlv) : Except Error Bytes := do
  match B.marshalBinary (← marshaled) with
  | some encoded => return encoded
  | none => throw (.message "asn1: marshal TLV")

/-- `Decode` with the value's `UnmarshalBERTLV`. -/
def decode {α : Type} (unmarshal : Tlv → Except Error α) (data : Bytes) : Except Error α := do
  unmarshal (← parseTLV B data)

/-! ## Primitive values -/

def expectTag (tlv : Tlv) (tag : Tag) : Except Error Unit :=
  if tlv.tag = tag then .ok () else .error (.unexpectedTag tlv.tag tag)

def integerTLV (tag : Tag) (value : Int) : Except Error Tlv :=
  match B.marshalInt value with
  | some octets => .ok (.primitive tag octets)
  | none => .error (.message "primitive: marshal INTEGER")

def integerValue : Option Tlv → Except Error Int
  | none => .error (.message "asn1: missing INTEGER")
  | some tlv =>
      match B.unmarshalInt tlv with
      | some value => .ok value
      | none => .error (.message "asn1: decode INTEGER")

def booleanTLV (tag : Tag) (value : Bool) : Except Error Tlv :=
  match B.marshalBool value with
  | some octets => .ok (.primitive tag octets)
  | none => .error (.message "primitive: marshal BOOLEAN")

def booleanValue : Option Tlv → Except Error Bool
  | none => .error (.message "asn1: missing BOOLEAN")
  | some tlv =>
      match B.unmarshalBool tlv with
      | some value => .ok value
      | none => .error (.message "asn1: decode BOOLEAN")

def utf8TLV (tag : Tag) (value : Bytes) : Tlv := .primitive tag value

def utf8Value : Option Tlv → Except Error Bytes
  | none => .error (.message "asn1: missing UTF8String")
  | some tlv => .ok tlv.value

def octetTLV (tag : Tag) (value : Bytes) : Tlv := .primitive tag value

def octetValue : Option Tlv → Except Error Bytes
  | none => .error (.message "asn1: missing OCTET STRING")
  | some tlv => .ok tlv.value

def nullTLV (tag : Tag) : Tlv := .primitive tag []

/-! ## BIT STRING -/

/-- The bits of one octet, most significant first; missing bits are zero. -/
def packOctet (bits : List Bool) : UInt8 :=
  UInt8.ofNat ((List.range 8).foldl (fun n i => 2 * n + (bits.getD i false).toNat) 0)

def packOctets : Nat → List Bool → Bytes
  | 0, _ => []
  | n + 1, bits => packOctet (bits.take 8) :: packOctets n (bits.drop 8)

def marshalBitString (bits : List Bool) : Bytes :=
  if bits = [] then [0]
  else UInt8.ofNat ((8 - bits.length % 8) % 8) :: packOctets ((bits.length + 7) / 8) bits

def unmarshalBitString : Bytes → Except Error (List Bool)
  | [] => .error (.message "asn1: BIT STRING missing unused-bit octet")
  | unused :: data =>
      if 7 < unused.toNat ∨ data = [] ∧ unused ≠ 0 then
        .error (.message "asn1: invalid BIT STRING unused-bit count")
      else if data ≠ [] ∧ (data.getLastD 0).toNat % 2 ^ unused.toNat ≠ 0 then
        .error (.message "asn1: non-zero BIT STRING padding bits")
      else
        .ok ((List.range (data.length * 8 - unused.toNat)).map fun i =>
          (data.getD (i / 8) 0).toNat.testBit (7 - i % 8))

def bitStringTLV (tag : Tag) (bits : List Bool) : Tlv := .primitive tag (marshalBitString bits)

def bitStringValue : Option Tlv → Except Error (List Bool)
  | none => .error (.message "asn1: missing BIT STRING")
  | some tlv => unmarshalBitString tlv.value

/-! ## Optional children -/

/-- An optional field appended to the children when it is present. -/
def optionalChild {α : Type} (field : Option α) (marshal : α → Except Error Tlv) :
    Except Error (List Tlv) :=
  match field with
  | none => .ok []
  | some value => do return [← marshal value]

/-- An optional field read from the child with its tag when there is one. -/
def optionalValue {α : Type} (child : Option Tlv) (value : Tlv → Except Error α) :
    Except Error (Option α) :=
  match child with
  | none => .ok none
  | some tlv => do return some (← value tlv)

end Asn1

end OpenIotRsp
