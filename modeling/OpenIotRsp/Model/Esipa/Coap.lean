import OpenIotRsp.Library.Concurrent
import OpenIotRsp.Model.Asn1.Esipa

/-!
# The CoAP binding

`esipa/coap.go`: long responses go out in blocks.  The first one answers the
request; the others are asked for with empty requests and come from a cache of
the last response for each remote address and path.
-/

namespace OpenIotRsp.Esipa

open Octets Ber Asn1 Concurrent

/-! ## Blocks -/

/-- The operations of `go-coap`'s `blockwise` package on a size exponent `szx`. -/
structure Blockwise where
  /-- `SZX.Size` -/
  size : Nat → Int
  /-- `EncodeBlockOption` of a block number and of whether more blocks follow -/
  encodeBlockOption : Nat → Nat → Bool → Except Error Nat
  /-- `DecodeBlockOption` -/
  decodeBlockOption : Nat → Except Error (Nat × Nat × Bool)

/-- `blockwise.SZX1024`. -/
def coapResponseBlockSZX : Nat := 6

structure BlockOptions where
  block2 : Nat
  size2 : Nat
deriving DecidableEq

inductive CoapReply where
  | methodNotAllowed
  | requestEntityTooLarge (reason : String)
  | badRequest (reason : String)
  | changed
  | content (payload : Bytes) (options : Option BlockOptions)
deriving DecidableEq

section

variable (W : Blockwise)

def coapBlock2Chunk (response : Bytes) (szx blockNumber : Nat) :
    Except Error (Bytes × BlockOptions) :=
  if W.size szx ≤ 0 then .error (.message "invalid block size")
  else
    let blockSize := (W.size szx).toNat
    let start := blockNumber * blockSize
    if response.length < start then .error (.message "block starts beyond response size")
    else do
      let stop := min (start + blockSize) response.length
      let block2 ← W.encodeBlockOption szx blockNumber (decide (stop < response.length))
      return ((response.take stop).drop start, ⟨block2, response.length % 2 ^ 32⟩)

/-- Nothing where the response fits into one block. -/
def coapFirstBlock2Response (response : Bytes) : Option (Except Error (Bytes × BlockOptions)) :=
  if (response.length : Int) ≤ W.size coapResponseBlockSZX then none
  else some (coapBlock2Chunk W response coapResponseBlockSZX 0)

/-- The block that the option of a request asks for. -/
def coapBlock2Response (response : Bytes) (block2 : Except Error Nat) :
    Except Error (Bytes × BlockOptions) := do
  let (szx, blockNumber, _) ← W.decodeBlockOption (← block2)
  coapBlock2Chunk W response szx blockNumber

end

/-! ## The cache -/

structure CoapBlockwiseResponse where
  payload : Bytes
  expires : Nat

/-- `blockwiseResponses`. -/
abbrev BlockwiseResponses := Bytes → Option CoapBlockwiseResponse

/-- `time.Minute`, in nanoseconds. -/
def minute : Nat := 60 * 10 ^ 9

/-- The critical sections; each takes the time. -/
inductive CoapAction where
  | cachedBlockwiseResponse (key : Bytes)
  | cacheBlockwiseResponse (key response : Bytes)
deriving DecidableEq

/-- An entry that has not expired. -/
def BlockwiseResponses.current (cache : BlockwiseResponses) (now : Nat) : BlockwiseResponses :=
  fun key => (cache key).filter fun cached => cached.expires ≥ now

def coapExec : Nat → CoapAction → BlockwiseResponses → Option Bytes × BlockwiseResponses
  | now, .cachedBlockwiseResponse key, cache =>
      (((cache.current now) key).map CoapBlockwiseResponse.payload,
        Function.update cache key ((cache.current now) key))
  | now, .cacheBlockwiseResponse key response, cache =>
      (none, Function.update (cache.current now) key (some ⟨response, now + minute⟩))

/-! ## Requests -/

structure CoapRequest where
  isPost : Bool
  /-- absent without a connection -/
  remoteAddr : Option Bytes
  path : Except Error Bytes
  body : Except Error Bytes
  /-- the Block2 option, which may fail to decode -/
  block2 : Option (Except Error Nat)

/-- The key of the cache, empty where there is none. -/
def coapBlockwiseCacheKey (r : CoapRequest) : Bytes :=
  match r.remoteAddr, r.path with
  | some addr, .ok path => addr ++ [0] ++ path
  | _, _ => []

/-- A message that has been decoded, with the octets in which it came. -/
structure EncodedMessage where
  message : Tlv
  payload : Bytes

abbrev CoapM := Program Error CoapAction (Option Bytes) EncodedMessage (Except Error (Option Bytes))

variable (B : Bertlv) (W : Blockwise)

/-- The response in one piece or its first block. -/
def firstReply (response : Bytes) : CoapReply :=
  match coapFirstBlock2Response W response with
  | none => .content response none
  | some (.error _) => .badRequest "write ESipa block2 response"
  | some (.ok (payload, options)) => .content payload (some options)

/-- A block of a cached response. -/
def blockReply (response : Bytes) (block2 : Except Error Nat) : CoapReply :=
  match coapBlock2Response W response block2 with
  | .error _ => .badRequest "read ESipa block2 request"
  | .ok (payload, options) => .content payload (some options)

/-- A request that is handled; what becomes of the decoded message is answered from outside. -/
def serveRequest (cacheKey payload : Bytes) : CoapM CoapReply :=
  match Asn1.decode B ESipaMessageFromIpaToEim.unmarshalBERTLV payload with
  | .error _ => pure (.badRequest "handle ESipa request")
  | .ok message => .call ⟨message, payload⟩ fun
      | .error _ => pure (.badRequest "handle ESipa request")
      | .ok none => pure .changed
      | .ok (some response) =>
          if cacheKey = [] then pure (firstReply W response)
          else .act (.cacheBlockwiseResponse cacheKey response) fun _ =>
            pure (firstReply W response)

/-- An empty request for a block of the cached response; without one it is handled like others. -/
def serveContinuation (cacheKey : Bytes) (block2 : Except Error Nat) : CoapM CoapReply :=
  .act (.cachedBlockwiseResponse cacheKey) fun
    | some response => pure (blockReply W response block2)
    | none => serveRequest B W cacheKey []

def serveCoAP (maxMessageSize : Nat) (r : CoapRequest) : CoapM CoapReply :=
  if ¬ r.isPost then pure .methodNotAllowed
  else
    match r.body with
    | .error _ => pure (.badRequest "read ESipa request")
    | .ok payload =>
        if maxMessageSize < payload.length then
          pure (.requestEntityTooLarge "ESipa request too large")
        else
          match r.block2 with
          | none => serveRequest B W (coapBlockwiseCacheKey r) payload
          | some block2 =>
              if payload = [] ∧ coapBlockwiseCacheKey r ≠ [] then
                serveContinuation B W (coapBlockwiseCacheKey r) block2
              else serveRequest B W (coapBlockwiseCacheKey r) payload

end OpenIotRsp.Esipa
