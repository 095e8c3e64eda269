import OpenIotRsp.Verification.Esipa.Blockwise

/-!
# Reassembly of a response

A client gets the first block of a long response and asks for the others, each
where the octets it has received end, in blocks of any size.
-/

namespace OpenIotRsp.Esipa

open Octets

/-- Blocks of the standard sizes with numbers of 20 bits have an option. -/
structure Blockwise.Standard (W : Blockwise) : Prop extends W.Lawful where
  size_first : W.size coapResponseBlockSZX = 1024
  encodes : ∀ szx blockNumber more, 0 < W.size szx → blockNumber < 2 ^ 20 →
    ∃ block2, W.encodeBlockOption szx blockNumber more = .ok block2

theorem Blockwise.reference_standard : Blockwise.reference.Standard where
  toLawful := Blockwise.reference_lawful
  size_first := rfl
  encodes szx blockNumber more hsize hnumber := by
    have hszx : szx < 8 := by
      by_contra hlarge
      simp only [reference] at hsize
      rw [if_neg (by omega), if_neg (by omega)] at hsize
      cases hsize
    exact ⟨_, if_pos ⟨hszx, hnumber⟩⟩

/-! ## What a client asks for -/

/-- Each request asks for the block that starts at the number of octets received. -/
def InTurn (W : Blockwise) (response : Bytes) : Nat → List Nat → Prop
  | _, [] => True
  | received, block2 :: requests =>
      (∃ szx blockNumber more, W.decodeBlockOption block2 = .ok (szx, blockNumber, more) ∧
        0 < W.size szx ∧ blockNumber < 2 ^ 20 ∧ blockNumber * (W.size szx).toNat = received) ∧
      ∀ payload options, coapBlock2Response W response (.ok block2) = .ok (payload, options) →
        InTurn W response (received + payload.length) requests

abbrev Block := Bytes × BlockOptions

def Block.MoreFollow (W : Blockwise) (block : Block) : Prop :=
  ∃ szx blockNumber, W.decodeBlockOption block.2.block2 = .ok (szx, blockNumber, true) ∧
    block.1.length = (W.size szx).toNat

def Block.NoMoreFollow (W : Blockwise) (block : Block) : Prop :=
  ∃ szx blockNumber, W.decodeBlockOption block.2.block2 = .ok (szx, blockNumber, false)

def payloads (blocks : List Block) : Bytes := blocks.flatMap Prod.fst

/-- The blocks are full and announce more as long as octets are missing; the one that completes the
octets announces no more, and there is nothing in those after it. -/
def Transfer (W : Blockwise) (octets : Bytes) (blocks : List Block) : Prop :=
  ((∀ block ∈ blocks, block.MoreFollow W) ∧
      ∃ missing, missing ≠ [] ∧ octets = payloads blocks ++ missing) ∨
    ∃ before last after, blocks = before ++ last :: after ∧
      (∀ block ∈ before, block.MoreFollow W) ∧ last.NoMoreFollow W ∧
      payloads (before ++ [last]) = octets ∧
      ∀ block ∈ after, block.1 = [] ∧ block.NoMoreFollow W

variable {W : Blockwise} {response : Bytes}

theorem Transfer.cons {payload missing : Bytes} {options : BlockOptions} {blocks : List Block}
    (hmore : Block.MoreFollow W (payload, options)) (h : Transfer W missing blocks) :
    Transfer W (payload ++ missing) ((payload, options) :: blocks) := by
  rcases h with ⟨hall, rest, hrest, rfl⟩ | ⟨before, last, after, rfl, hbefore, hlast, rfl, hafter⟩
  · exact .inl ⟨List.forall_mem_cons.mpr ⟨hmore, hall⟩, rest, hrest, by simp [payloads]⟩
  · exact .inr ⟨(payload, options) :: before, last, after, rfl,
      List.forall_mem_cons.mpr ⟨hmore, hbefore⟩, hlast, by simp [payloads], hafter⟩

theorem Transfer.last {payload : Bytes} {options : BlockOptions} {blocks : List Block}
    (hlast : Block.NoMoreFollow W (payload, options))
    (h : ∀ block ∈ blocks, block.1 = [] ∧ block.NoMoreFollow W) :
    Transfer W payload ((payload, options) :: blocks) :=
  .inr ⟨[], (payload, options), blocks, rfl, nofun, hlast, by simp [payloads], h⟩

/-! ## Blocks -/

/-- A block within the response is the slice of its size, the last one what is left. -/
theorem coapBlock2Chunk_eq (hW : W.Standard) {szx blockNumber received : Nat}
    (hsize : 0 < W.size szx) (hnumber : blockNumber < 2 ^ 20)
    (hstart : blockNumber * (W.size szx).toNat = received) (hle : received ≤ response.length) :
    ∃ options, coapBlock2Chunk W response szx blockNumber =
        .ok ((response.drop received).take (W.size szx).toNat, options) ∧
      W.decodeBlockOption options.block2 = .ok (szx, blockNumber,
        decide (received + (W.size szx).toNat < response.length)) := by
  obtain ⟨block2, hencode⟩ := hW.encodes szx blockNumber
    (decide (received + (W.size szx).toNat < response.length)) hsize hnumber
  have hslice : (response.take (min (received + (W.size szx).toNat) response.length)).drop received =
      (response.drop received).take (W.size szx).toNat := by
    rw [List.drop_take, List.take_eq_take_iff, List.length_drop]
    omega
  refine ⟨⟨block2, response.length % 2 ^ 32⟩, ?_, hW.decodeBlockOption_encode _ _ _ _ hencode⟩
  rw [coapBlock2Chunk, if_neg (Int.not_le.mpr hsize)]
  simp only [hstart, if_neg (Nat.not_lt.mpr hle), min_lt_iff, lt_irrefl, or_false, hencode,
    Outcome.ok_bind, Outcome.pure_eq, hslice]

/-- The reply to the next request in turn. -/
theorem InTurn.reply (hW : W.Standard) {received block2 : Nat} {requests : List Nat}
    (h : InTurn W response received (block2 :: requests)) (hle : received ≤ response.length) :
    ∃ szx blockNumber options, coapBlock2Response W response (.ok block2) =
        .ok ((response.drop received).take (W.size szx).toNat, options) ∧
      W.decodeBlockOption options.block2 = .ok (szx, blockNumber,
        decide (received + (W.size szx).toNat < response.length)) ∧
      InTurn W response
        (received + ((response.drop received).take (W.size szx).toNat).length) requests := by
  obtain ⟨⟨szx, blockNumber, more, hdecode, hsize, hnumber, hstart⟩, hnext⟩ := h
  obtain ⟨options, hchunk, hoption⟩ := coapBlock2Chunk_eq hW hsize hnumber hstart hle
  have hreply : coapBlock2Response W response (.ok block2) =
      .ok ((response.drop received).take (W.size szx).toNat, options) := by
    rw [coapBlock2Response, Outcome.ok_bind, hdecode]
    exact hchunk
  exact ⟨szx, blockNumber, options, hreply, hoption, hnext _ _ hreply⟩

/-- A client that has received everything gets empty blocks. -/
theorem fetch_finished (hW : W.Standard) {requests : List Nat}
    (h : InTurn W response response.length requests) :
    ∃ blocks, requests.mapM (fun block2 => coapBlock2Response W response (.ok block2)) =
        .ok blocks ∧ ∀ block ∈ blocks, block.1 = [] ∧ Block.NoMoreFollow W block := by
  induction requests with
  | nil => exact ⟨[], rfl, nofun⟩
  | cons block2 requests ih =>
      obtain ⟨szx, blockNumber, options, hreply, hoption, hnext⟩ := h.reply hW (Nat.le_refl _)
      rw [List.drop_length, List.take_nil] at hreply hnext
      obtain ⟨blocks, hblocks, hall⟩ := ih hnext
      refine ⟨([], options) :: blocks, ?_, List.forall_mem_cons.mpr ⟨⟨rfl, ?_⟩, hall⟩⟩
      · rw [List.mapM_cons, hreply, hblocks]
        rfl
      · rw [decide_eq_false (by omega)] at hoption
        exact ⟨szx, blockNumber, hoption⟩

/-- A client that has received a part gets the rest of it, or as much as it asks for. -/
theorem fetch_transfer (hW : W.Standard) {received : Nat} {requests : List Nat}
    (hlt : received < response.length) (h : InTurn W response received requests) :
    ∃ blocks, requests.mapM (fun block2 => coapBlock2Response W response (.ok block2)) =
        .ok blocks ∧ Transfer W (response.drop received) blocks := by
  induction requests generalizing received with
  | nil =>
      have hmissing : response.drop received ≠ [] := by
        rw [Ne, List.drop_eq_nil_iff]
        omega
      exact ⟨[], rfl, .inl ⟨nofun, _, hmissing, rfl⟩⟩
  | cons block2 requests ih =>
      obtain ⟨szx, blockNumber, options, hreply, hoption, hnext⟩ := h.reply hW hlt.le
      rw [List.mapM_cons, hreply]
      by_cases hmore : received + (W.size szx).toNat < response.length
      · have hfull : ((response.drop received).take (W.size szx).toNat).length =
            (W.size szx).toNat := by
          rw [List.length_take, List.length_drop]
          omega
        rw [decide_eq_true hmore] at hoption
        rw [hfull] at hnext
        obtain ⟨blocks, hblocks, htransfer⟩ := ih hmore hnext
        refine ⟨_ :: blocks, by rw [hblocks]; rfl, ?_⟩
        have hcons := htransfer.cons ⟨szx, blockNumber, hoption, hfull⟩
        rwa [← List.drop_drop, List.take_append_drop] at hcons
      · have hrest : (response.drop received).take (W.size szx).toNat = response.drop received := by
          refine List.take_of_length_le ?_
          rw [List.length_drop]
          omega
        rw [decide_eq_false hmore] at hoption
        rw [hrest, List.length_drop, Nat.add_sub_cancel' hlt.le] at hnext
        obtain ⟨blocks, hblocks, hall⟩ := fetch_finished hW hnext
        rw [hrest]
        exact ⟨_ :: blocks, by rw [hblocks]; rfl, Transfer.last ⟨szx, blockNumber, hoption⟩ hall⟩

/-- **Reassembly.**  A long response is answered with its first block, and every request in turn
with the next one.  The blocks are full and announce more up to the one that completes the response,
which announces no more. -/
theorem blockwise_reassembly (hW : W.Standard) (hlong : 1024 < response.length) :
    ∃ first, coapFirstBlock2Response W response = some (.ok first) ∧
      ∀ requests, InTurn W response first.1.length requests →
        ∃ rest, requests.mapM (fun block2 => coapBlock2Response W response (.ok block2)) =
            .ok rest ∧ Transfer W response (first :: rest) := by
  have hsize : (W.size coapResponseBlockSZX).toNat = 1024 := congrArg Int.toNat hW.size_first
  obtain ⟨options, hchunk, hoption⟩ := @coapBlock2Chunk_eq W response hW coapResponseBlockSZX 0 0
    (by rw [hW.size_first]; decide) (by decide) (Nat.zero_mul _) (Nat.zero_le _)
  have hmore : Block.MoreFollow W (response.take 1024, options) := by
    refine ⟨coapResponseBlockSZX, 0, ?_, ?_⟩
    · rw [hoption, decide_eq_true (by omega)]
    · rw [hsize, List.length_take]
      omega
  refine ⟨(response.take 1024, options), ?_, fun requests hturn => ?_⟩
  · rw [coapFirstBlock2Response, hW.size_first, if_neg (by omega), hchunk, hsize, List.drop_zero]
  · have hfirst : (response.take 1024).length = 1024 := by
      rw [List.length_take]
      omega
    rw [hfirst] at hturn
    obtain ⟨rest, hrest, htransfer⟩ := fetch_transfer hW hlong hturn
    refine ⟨rest, hrest, ?_⟩
    have hcons := htransfer.cons hmore
    rwa [List.take_append_drop] at hcons

def sampleLong : Bytes := List.replicate 1056 0

/-- After the first block of 1024 octets, the blocks 64 and 65 of 16 octets. -/
theorem blockwise_reassembly_smaller_blocks :
    InTurn Blockwise.reference sampleLong 1024 [1024, 1040] ∧
      ∃ first rest, coapFirstBlock2Response Blockwise.reference sampleLong = some (.ok first) ∧
        [1024, 1040].mapM (fun block2 =>
          coapBlock2Response Blockwise.reference sampleLong (.ok block2)) = .ok rest ∧
        Transfer Blockwise.reference sampleLong (first :: rest) := by
  have hturn : InTurn Blockwise.reference sampleLong 1024 [1024, 1040] := by
    refine ⟨⟨0, 64, false, rfl, by decide, by decide, rfl⟩, fun payload options h => ?_⟩
    have hlength : (coapBlock2Response Blockwise.reference sampleLong (.ok 1024)).toOption.map
        (fun block => block.1.length) = some 16 := by
      decide +kernel
    rw [h] at hlength
    rw [show payload.length = 16 from Option.some.inj hlength]
    exact ⟨⟨0, 65, false, rfl, by decide, by decide, rfl⟩, fun _ _ _ => trivial⟩
  obtain ⟨first, hfirst, h⟩ :=
    @blockwise_reassembly _ sampleLong Blockwise.reference_standard (by decide +kernel)
  have hlength : (coapFirstBlock2Response Blockwise.reference sampleLong).map
      (fun reply => reply.toOption.map fun block => block.1.length) = some (some 1024) := by
    decide +kernel
  rw [hfirst] at hlength
  rw [show first.1.length = 1024 from Option.some.inj (Option.some.inj hlength)] at h
  obtain ⟨rest, hrest, htransfer⟩ := h _ hturn
  exact ⟨hturn, first, rest, hfirst, hrest, htransfer⟩

end OpenIotRsp.Esipa
