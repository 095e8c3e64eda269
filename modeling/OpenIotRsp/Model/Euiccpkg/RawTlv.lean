import OpenIotRsp.Model.Error

/-!
# Raw TLV spans

`euiccpkg/raw_tlv.go`: the second parser of a package result.  It works on
offsets into the received octets and returns the octets the signature covers.
-/

namespace OpenIotRsp.Euiccpkg

open Octets

namespace Raw

def tagEuiccPackageResult : Bytes := [0xbf, 0x51]
def tagSequence : Bytes := [0x30]
def tagSignature : Bytes := [0x5f, 0x37]
def tagInteger : Bytes := [0x02]
def tagContext0 : Bytes := [0x80]
def tagContext1 : Bytes := [0x81]
def tagContext2 : Bytes := [0x82]
def tagContext3 : Bytes := [0x83]

end Raw

/-- `end` equals `valueEnd` in every span the parser returns, so it is kept once. -/
structure TlvSpan where
  tagStart : Nat
  valueStart : Nat
  valueEnd : Nat
  tag : Bytes
deriving DecidableEq

/-- How many octets after the first one a high tag number takes. -/
def highTagOctets : Bytes → Option Nat
  | [] => none
  | b :: bs => if b &&& 0x80 = 0 then some 1 else (highTagOctets bs).map (· + 1)

/-- The number of identifier octets at the front. -/
def tagOctets : Bytes → Except Error Nat
  | [] => .error (.message "euiccpkg: missing TLV")
  | b :: bs =>
      if b &&& 0x1f = 0x1f then
        match highTagOctets bs with
        | none => .error (.message "euiccpkg: truncated high-tag-number TLV")
        | some n => .ok (n + 1)
      else .ok 1

/-- The number of length octets at the front and the length they give. -/
def lengthOctets : Bytes → Except Error (Nat × Nat)
  | [] => .error (.message "euiccpkg: missing TLV length")
  | lengthByte :: bs =>
      if lengthByte < 0x80 then .ok (1, lengthByte.toNat)
      else if lengthByte = 0x80 then
        .error (.message "euiccpkg: indefinite-length TLV is not supported")
      else if 4 < lengthByte.toNat - 0x80 then .error (.message "euiccpkg: TLV length too large")
      else if bs.length < lengthByte.toNat - 0x80 then
        .error (.message "euiccpkg: truncated TLV length")
      else .ok (1 + (lengthByte.toNat - 0x80), ofBigEndian (bs.take (lengthByte.toNat - 0x80)))

def parseTLVSpan (data : Bytes) (offset : Nat) : Except Error TlvSpan := do
  let tagLength ← tagOctets (data.drop offset)
  let (lengthLength, length) ← lengthOctets (data.drop (offset + tagLength))
  let valueStart := offset + tagLength + lengthLength
  if data.length < valueStart + length then throw (.message "euiccpkg: truncated TLV value")
  return ⟨offset, valueStart, valueStart + length, (data.drop offset).take tagLength⟩

/-- The loop of `children` from an offset; every span is longer than zero octets, so the number of
octets left bounds the rounds. -/
def childrenFrom (data : Bytes) (stop : Nat) : Nat → Nat → Except Error (List TlvSpan)
  | 0, _ => .ok []
  | rounds + 1, offset =>
      if offset < stop then do
        let child ← parseTLVSpan data offset
        return child :: (← childrenFrom data stop rounds child.valueEnd)
      else .ok []

def children (data : Bytes) (parent : TlvSpan) : Except Error (List TlvSpan) :=
  childrenFrom data parent.valueEnd (parent.valueEnd - parent.valueStart) parent.valueStart

def onlyChild (data : Bytes) (parent : TlvSpan) : Except Error TlvSpan := do
  let child ← parseTLVSpan data parent.valueStart
  if child.valueEnd ≠ parent.valueEnd then
    throw (.message "euiccpkg: expected exactly one selected result child")
  return child

/-- Short-form context-specific constructed tags A0, A1, A2. -/
def isContextConstructedTag (tag : Bytes) (number : UInt8) : Bool :=
  tag = [0xa0 + number]

/-- The fields of `eimId`, `counterValue` and an optional transaction identifier, and what follows;
at least one field has to follow. -/
def signedDataPrefix : List TlvSpan → Option (List TlvSpan)
  | eimID :: counter :: third :: rest =>
      if eimID.tag = Raw.tagContext0 ∧ counter.tag = Raw.tagContext1 then
        if third.tag = Raw.tagContext2 then (if rest = [] then none else some rest)
        else some (third :: rest)
      else none
  | _ => none

def isPackageResultDataSigned (fields : List TlvSpan) : Bool :=
  match signedDataPrefix fields with
  | some [sequence, results] =>
      sequence.tag = Raw.tagContext3 ∧ results.tag = Raw.tagSequence
  | _ => false

def isPackageErrorDataSigned (fields : List TlvSpan) : Bool :=
  match signedDataPrefix fields with
  | some [code] => code.tag = Raw.tagInteger
  | _ => false

def validateResultSignedData (data : Bytes) (signedData : TlvSpan) : Except Error Unit := do
  if signedData.tag ≠ Raw.tagSequence then
    throw (.message "euiccpkg: signed result data must be a SEQUENCE")
  let fields ← children data signedData
  if isPackageResultDataSigned fields ∨ isPackageErrorDataSigned fields then return ()
  throw (.message "euiccpkg: signed data is not an SGP.32 eUICC package result payload")

/-- The octets of the signed-data TLV, or none for a shape that carries no signature. -/
def signedDataOfSpans (data : Bytes) (spans : List TlvSpan) : Except Error (Option Bytes) :=
  match spans with
  | [] => .error (.message "euiccpkg: signed result child is empty")
  | signedData :: rest => do
      if (rest.getLastD signedData).tag ≠ Raw.tagSignature then return none
      if rest.length ≠ 1 then
        throw (.message "euiccpkg: signed result requires signed data and signature")
      validateResultSignedData data signedData
      return some ((data.take signedData.valueEnd).drop signedData.tagStart)

def rawSignedDataFromResultDER (data : Bytes) : Except Error (Option Bytes) := do
  let root ← parseTLVSpan data 0
  if root.valueEnd ≠ data.length then
    throw (.message "euiccpkg: trailing data after eUICC package result")
  if root.tag ≠ Raw.tagEuiccPackageResult then throw (.message "euiccpkg: result tag")
  let selected ← onlyChild data root
  if isContextConstructedTag selected.tag 2 then return none
  if selected.tag ≠ Raw.tagSequence ∧ !isContextConstructedTag selected.tag 0 ∧
      !isContextConstructedTag selected.tag 1 then
    return none
  signedDataOfSpans data (← children data selected)

/-! ## Index by index

`parseTLVSpan` once more, with every index into the octets as the source has it.
An index or a slice out of range panics. -/

inductive Halt where
  | panic
  | error (e : Error)
deriving DecidableEq

def octetAt (data : Bytes) (i : Nat) : Except Halt UInt8 :=
  match data[i]? with
  | some b => .ok b
  | none => .error .panic

def octetsBetween (data : Bytes) (start stop : Nat) : Except Halt Bytes :=
  if start ≤ stop ∧ stop ≤ data.length then .ok ((data.take stop).drop start)
  else .error .panic

/-- The offset after a high tag number; the octets left bound the rounds. -/
def skipHighTag (data : Bytes) : Nat → Nat → Except Halt Nat
  | 0, _ => .error (.error (.message "euiccpkg: truncated high-tag-number TLV"))
  | rounds + 1, offset =>
      if data.length ≤ offset then
        .error (.error (.message "euiccpkg: truncated high-tag-number TLV"))
      else do
        let b ← octetAt data offset
        if b &&& 0x80 = 0 then return offset + 1
        else skipHighTag data rounds (offset + 1)

/-- The offset after the identifier octets. -/
def tagEnd (data : Bytes) (tagStart : Nat) (first : UInt8) : Except Halt Nat :=
  if first &&& 0x1f = 0x1f then skipHighTag data (data.length - (tagStart + 1)) (tagStart + 1)
  else .ok (tagStart + 1)

/-- The length octets shifted into the length, with the offset after them. -/
def shiftLength (data : Bytes) : Nat → Nat → Nat → Except Halt (Nat × Nat)
  | 0, offset, length => .ok (offset, length)
  | lengthBytes + 1, offset, length => do
      let b ← octetAt data offset
      shiftLength data lengthBytes (offset + 1) (length <<< 8 ||| b.toNat)

/-- The length and the offset after it, from the first length octet on. -/
def lengthAt (data : Bytes) (offset : Nat) : Except Halt (Nat × Nat) :=
  if data.length ≤ offset then .error (.error (.message "euiccpkg: missing TLV length"))
  else do
    let lengthByte ← octetAt data offset
    if lengthByte < 0x80 then return (offset + 1, lengthByte.toNat)
    else if lengthByte = 0x80 then
      throw (.error (.message "euiccpkg: indefinite-length TLV is not supported"))
    else
      let lengthBytes := (lengthByte &&& 0x7f).toNat
      if lengthBytes = 0 then throw (.error (.message "euiccpkg: invalid TLV length"))
      else if 4 < lengthBytes then throw (.error (.message "euiccpkg: TLV length too large"))
      else if data.length < offset + 1 + lengthBytes then
        throw (.error (.message "euiccpkg: truncated TLV length"))
      else shiftLength data lengthBytes (offset + 1) 0

def parseTLVSpanAt (data : Bytes) (start : Int) : Except Halt TlvSpan :=
  if start < 0 ∨ data.length ≤ start then .error (.error (.message "euiccpkg: missing TLV"))
  else do
    let tagStart := start.toNat
    let first ← octetAt data tagStart
    let offset ← tagEnd data tagStart first
    let tag ← octetsBetween data tagStart offset
    let (offset, length) ← lengthAt data offset
    if data.length < offset + length then
      throw (.error (.message "euiccpkg: truncated TLV value"))
    else return ⟨tagStart, offset, offset + length, tag⟩

end OpenIotRsp.Euiccpkg
