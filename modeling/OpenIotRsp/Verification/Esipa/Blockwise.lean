import OpenIotRsp.Library.Outcome
import OpenIotRsp.Model.Esipa.Coap

/-!
# Responses in blocks

A client that asks for the blocks of its response gets them from a cache that
other exchanges write as well.  It gets its own response as long as none of them
does.
-/

namespace OpenIotRsp.Esipa

open Octets Ber Asn1 Concurrent

/-! ## The system -/

abbrev CoapSystem :=
  Pool BlockwiseResponses CoapRequest Error CoapAction (Option Bytes) EncodedMessage
    (Except Error (Option Bytes)) CoapReply

def CoapSystem.new : CoapSystem := ⟨fun _ => none, []⟩

/-- Requests arrive, are handled with any outcome, and take their critical sections at any time. -/
abbrev CoapEvent := Event CoapRequest Nat (Except Error (Option Bytes))

def coapStep (B : Bertlv) (W : Blockwise) (maxMessageSize : Nat) :
    CoapSystem → CoapEvent → CoapSystem :=
  Pool.step coapExec (serveCoAP B W maxMessageSize)

/-! ## What a client puts together -/

/-- A block option that is written is read back. -/
structure Blockwise.Lawful (W : Blockwise) : Prop where
  decodeBlockOption_encode : ∀ szx blockNumber more block2,
    W.encodeBlockOption szx blockNumber more = .ok block2 →
    W.decodeBlockOption block2 = .ok (szx, blockNumber, more)

/-- The content of the reply is the response, or the block of it that its option names. -/
def Belongs (W : Blockwise) (response : Bytes) : CoapReply → Prop
  | .content payload none => payload = response
  | .content payload (some options) => ∃ szx blockNumber,
      W.decodeBlockOption options.block2 = .ok (szx, blockNumber,
        decide ((blockNumber + 1) * (W.size szx).toNat < response.length)) ∧
      payload = (response.drop (blockNumber * (W.size szx).toNat)).take (W.size szx).toNat
  | _ => True

/-- The client appends block after block, each where the last one ended, to the one after which no
more follow. -/
def reassemble (W : Blockwise) : Bytes → List CoapReply → Option Bytes
  | [], [.content payload none] => some payload
  | received, .content payload (some options) :: rest =>
      match W.decodeBlockOption options.block2 with
      | .ok (szx, blockNumber, more) =>
          if blockNumber * (W.size szx).toNat ≠ received.length then none
          else if more then reassemble W (received ++ payload) rest
          else if rest = [] then some (received ++ payload) else none
      | .error _ => none
  | _, _ => none

variable {B : Bertlv} {W : Blockwise} {maxMessageSize : Nat} {response : Bytes}

/-- A block that starts where the received part ends continues it. -/
theorem Belongs.append {received payload : Bytes} {options : BlockOptions} {szx blockNumber : Nat}
    {more : Bool} (h : Belongs W response (.content payload (some options)))
    (hreceived : received = response.take received.length)
    (hdecode : W.decodeBlockOption options.block2 = .ok (szx, blockNumber, more))
    (hstart : blockNumber * (W.size szx).toNat = received.length) :
    received ++ payload = response.take (received.length + (W.size szx).toNat) ∧
      more = decide (received.length + (W.size szx).toNat < response.length) := by
  obtain ⟨szx', blockNumber', hoption, rfl⟩ := h
  obtain ⟨rfl, heq⟩ := Prod.mk.inj (Except.ok.inj (hdecode.symm.trans hoption))
  obtain ⟨rfl, rfl⟩ := Prod.mk.inj heq
  rw [Nat.succ_mul, hstart]
  refine ⟨?_, rfl⟩
  rw [List.take_add, ← hreceived]

/-- Blocks of one response are put together to that response. -/
theorem reassemble_eq {received bytes : Bytes} {replies : List CoapReply}
    (hreceived : received = response.take received.length)
    (hbelongs : ∀ reply ∈ replies, Belongs W response reply)
    (h : reassemble W received replies = some bytes) : bytes = response := by
  fun_induction reassemble W received replies with
  | case1 payload =>
      obtain rfl := Option.some.inj h
      exact hbelongs _ List.mem_cons_self
  | case2 => cases h
  | case3 received payload options rest szx blockNumber hstart hdecode ih =>
      obtain ⟨hnext, hmore⟩ := (hbelongs _ List.mem_cons_self).append hreceived hdecode
        (not_not.mp hstart)
      refine ih ?_ (fun reply hreply => hbelongs reply (List.mem_cons_of_mem _ hreply)) h
      have hlen := of_decide_eq_true hmore.symm
      rw [hnext, List.length_take, Nat.min_eq_left hlen.le]
  | case4 received payload options szx blockNumber more hdecode hstart hlast =>
      obtain ⟨hnext, rfl⟩ := (hbelongs _ List.mem_cons_self).append hreceived hdecode
        (not_not.mp hstart)
      obtain rfl := Option.some.inj h
      rw [hnext]
      exact List.take_of_length_le (Nat.le_of_not_lt fun hlt => hlast (decide_eq_true hlt))
  | case5 => cases h
  | case6 => cases h
  | case7 => cases h

/-! ## Replies -/

theorem belongs_of_chunk (hW : W.Lawful) {szx blockNumber : Nat} {payload : Bytes}
    {options : BlockOptions}
    (h : coapBlock2Chunk W response szx blockNumber = .ok (payload, options)) :
    Belongs W response (.content payload (some options)) := by
  rw [coapBlock2Chunk] at h
  obtain ⟨-, h⟩ := Outcome.guard_eq_ok.mp h
  obtain ⟨hstart, h⟩ := Outcome.guard_eq_ok.mp h
  obtain ⟨block2, hencode, h⟩ := Outcome.bind_eq_ok.mp h
  obtain ⟨rfl, rfl⟩ := Prod.mk.inj (Except.ok.inj h)
  refine ⟨szx, blockNumber, ?_, ?_⟩
  · rw [hW.decodeBlockOption_encode _ _ _ _ hencode, Nat.succ_mul]
    simp only [min_lt_iff, lt_irrefl, or_false]
  · rw [List.drop_take, List.take_eq_take_iff, List.length_drop]
    omega

theorem belongs_firstReply (hW : W.Lawful) (response : Bytes) :
    Belongs W response (firstReply W response) := by
  rw [firstReply, coapFirstBlock2Response]
  split
  next => rfl
  next => trivial
  next payload options h =>
      split at h
      next => cases h
      next => exact belongs_of_chunk hW (Option.some.inj h)

theorem belongs_blockReply (hW : W.Lawful) (response : Bytes) (block2 : Except Error Nat) :
    Belongs W response (blockReply W response block2) := by
  rw [blockReply]
  split
  next => trivial
  next payload options h =>
      obtain ⟨value, -, h⟩ := Outcome.bind_eq_ok.mp h
      obtain ⟨⟨szx, blockNumber, more⟩, -, h⟩ := Outcome.bind_eq_ok.mp h
      exact belongs_of_chunk hW h

/-! ## Points of a request -/

/-- A request for a block of the response that is cached under the key. -/
structure IsContinuation (K : Bytes) (r : CoapRequest) : Prop where
  isPost : r.isPost = true
  body : r.body = .ok []
  block2 : r.block2.isSome
  key : coapBlockwiseCacheKey r = K
  keyed : K ≠ []

variable {K : Bytes} {r : CoapRequest}

theorem IsContinuation.serveCoAP_eq (h : IsContinuation K r) :
    ∃ block2, serveCoAP B W maxMessageSize r = serveContinuation B W K block2 := by
  obtain ⟨hpost, hbody, hblock2, rfl, hkeyed⟩ := h
  obtain ⟨block2, hblock2⟩ := Option.isSome_iff_exists.mp hblock2
  refine ⟨block2, ?_⟩
  simp [serveCoAP, hpost, hbody, hblock2, hkeyed]

/-- An empty message is refused. -/
theorem serveRequest_nil : serveRequest B W K [] = .done (.ok (.badRequest "handle ESipa request")) :=
  rfl

theorem caching_of_serveRequest {rely : EncodedMessage → Except Error (Option Bytes) → Prop}
    {next : Option Bytes → CoapM CoapReply} {cacheKey payload : Bytes}
    (h : (serveRequest B W cacheKey payload).Reaches rely
      (.act (.cacheBlockwiseResponse K response) next)) :
    cacheKey = K ∧ ∀ v, next v = .done (.ok (firstReply W response)) := by
  rw [serveRequest] at h
  split at h
  · cases Program.reaches_done.mp h
  rcases Program.reaches_call.mp h with heq | ⟨answer, -, h⟩
  · cases heq
  rcases answer with e | _ | response'
  · cases Program.reaches_done.mp h
  · cases Program.reaches_done.mp h
  dsimp only at h
  split at h
  · cases Program.reaches_done.mp h
  rcases Program.reaches_act.mp h with heq | ⟨v, h⟩
  · obtain ⟨haction, rfl⟩ := Program.act.inj heq
    obtain ⟨rfl, rfl⟩ := CoapAction.cacheBlockwiseResponse.inj haction
    exact ⟨rfl, fun v => rfl⟩
  · cases Program.reaches_done.mp h

/-- A response is cached under the key of its request, which is then answered with it. -/
theorem caching_of_reaches {rely : EncodedMessage → Except Error (Option Bytes) → Prop}
    {next : Option Bytes → CoapM CoapReply}
    (h : (serveCoAP B W maxMessageSize r).Reaches rely
      (.act (.cacheBlockwiseResponse K response) next)) :
    coapBlockwiseCacheKey r = K ∧ ∀ v, next v = .done (.ok (firstReply W response)) := by
  rw [serveCoAP] at h
  split at h
  · cases Program.reaches_done.mp h
  split at h
  · cases Program.reaches_done.mp h
  split at h
  · cases Program.reaches_done.mp h
  split at h
  · exact caching_of_serveRequest h
  split at h
  · rw [serveContinuation] at h
    rcases Program.reaches_act.mp h with heq | ⟨v, h⟩
    · cases heq
    cases v with
    | some cached => cases Program.reaches_done.mp h
    | none => exact caching_of_serveRequest h
  · exact caching_of_serveRequest h

/-! ## Fetching a response -/

/-- The event stores a response under the key. -/
def Caches (K : Bytes) (x : CoapSystem) (event : CoapEvent) : Prop :=
  ∃ request response, x.performed event = some (request, .cacheBlockwiseResponse K response)

variable (B W maxMessageSize) in
/-- What can be fetched under the key is the response, for the request `i` that has been answered
with it and for continuations that are started from `n` on. -/
structure Serves (K response : Bytes) (i n : Nat) (x : CoapSystem) : Prop where
  cached : ∀ entry, x.state K = some entry → entry.payload = response
  answered : ∃ request, x.threads[i]? = some (request, .done (.ok (firstReply W response)))
  continued : ∀ j request p, n ≤ j → x.threads[j]? = some (request, p) →
    IsContinuation K request → p = serveCoAP B W maxMessageSize request ∨
      ∃ reply, p = .done (.ok reply) ∧ Belongs W response reply

variable {x : CoapSystem} {event : CoapEvent} {i n : Nat}

/-- A cache that holds nothing else under the key is left that way by the other exchanges. -/
theorem cached_step (h : ∀ entry, x.state K = some entry → entry.payload = response)
    (hkept : ¬ Caches K x event) (entry : CoapBlockwiseResponse)
    (hentry : (coapStep B W maxMessageSize x event).state K = some entry) :
    entry.payload = response := by
  have hcurrent (now : Nat) (hcurrent : x.state.current now K = some entry) :
      entry.payload = response :=
    h entry (Option.filter_eq_some_iff.mp hcurrent).1
  rcases Pool.state_step coapExec (serveCoAP B W maxMessageSize) x event with
    ⟨hstate, -⟩ | ⟨thread, now, request, action, next, -, -, hperformed, -, hstate⟩
  · rw [coapStep, hstate] at hentry
    exact h entry hentry
  rw [coapStep, hstate] at hentry
  cases action with
  | cachedBlockwiseResponse key =>
      simp only [coapExec, Function.update_apply] at hentry
      split at hentry
      next hkey => exact hcurrent now (hkey ▸ hentry)
      next => exact h entry hentry
  | cacheBlockwiseResponse key response' =>
      simp only [coapExec, Function.update_apply] at hentry
      split at hentry
      next hkey => exact absurd ⟨request, response', hkey ▸ hperformed⟩ hkept
      next => exact hcurrent now hentry

/-- A continuation is answered with what is in the cache. -/
theorem continued_step (hW : W.Lawful) (h : Serves B W maxMessageSize K response i n x)
    {j : Nat} {request : CoapRequest} {p : CoapM CoapReply} (hj : n ≤ j)
    (hthread : (coapStep B W maxMessageSize x event).threads[j]? = some (request, p))
    (hcontinuation : IsContinuation K request) :
    p = serveCoAP B W maxMessageSize request ∨
      ∃ reply, p = .done (.ok reply) ∧ Belongs W response reply := by
  obtain ⟨block2, hserve⟩ : ∃ block2, serveCoAP B W maxMessageSize request =
      serveContinuation B W K block2 := hcontinuation.serveCoAP_eq
  rcases Pool.thread_step coapExec (serveCoAP B W maxMessageSize) hthread with hold |
    ⟨-, -, rfl⟩ | ⟨now, action, next, rfl, hold, rfl⟩ | ⟨answer, query, next, rfl, hold, rfl⟩
  · exact h.continued j request p hj hold hcontinuation
  · exact .inl rfl
  · -- the lookup: what it finds is the response, or nothing any more
    rcases h.continued j request _ hj hold hcontinuation with hp | ⟨reply, hp, -⟩
    · rw [hserve] at hp
      obtain ⟨rfl, rfl⟩ := Program.act.inj hp
      right
      cases hcurrent : x.state.current now K with
      | none =>
          refine ⟨.badRequest "handle ESipa request", ?_, trivial⟩
          simp only [coapExec, hcurrent, Option.map_none, serveRequest_nil]
      | some entry =>
          have hpayload := h.cached entry (Option.filter_eq_some_iff.mp hcurrent).1
          refine ⟨blockReply W response block2, ?_, belongs_blockReply hW response block2⟩
          simp only [coapExec, hcurrent, Option.map_some, hpayload]
          rfl
    · cases hp
  · rcases h.continued j request _ hj hold hcontinuation with hp | ⟨reply, hp, -⟩
    · rw [hserve] at hp
      cases hp
    · cases hp

theorem Serves.step (hW : W.Lawful) (h : Serves B W maxMessageSize K response i n x)
    (hkept : ¬ Caches K x event) :
    Serves B W maxMessageSize K response i n (coapStep B W maxMessageSize x event) := by
  obtain ⟨request, hanswered⟩ := h.answered
  exact ⟨cached_step h.cached hkept, ⟨request, Pool.finished_step _ _ hanswered event⟩,
    fun j request p hj hthread => continued_step hW h hj hthread⟩

/-- Whatever happens, requests are at points they can get to. -/
theorem reachable_after (B : Bertlv) (W : Blockwise) (maxMessageSize : Nat)
    (events : List CoapEvent) :
    (Run.after (coapStep B W maxMessageSize) CoapSystem.new events).Reachable
      (serveCoAP B W maxMessageSize) (fun _ => True) fun _ _ => True := by
  refine Run.invariant (P := fun x => Pool.Reachable (serveCoAP B W maxMessageSize) (fun _ => True)
    (fun _ _ => True) x) (fun x event hx => Pool.Reachable.step hx ?_) ?_ events
  · cases event with
    | start _ => trivial
    | step _ _ => trivial
    | answer _ _ => exact fun _ _ _ _ => trivial
  · exact fun thread hthread => nomatch hthread

theorem serves_of_caches {before : List CoapEvent} {now : Nat} {request : CoapRequest}
    (hcaches : (Run.after (coapStep B W maxMessageSize) CoapSystem.new before).performed
      (.step i now) = some (request, .cacheBlockwiseResponse K response)) :
    Serves B W maxMessageSize K response i
      (Run.after (coapStep B W maxMessageSize) CoapSystem.new before).threads.length
      (coapStep B W maxMessageSize
        (Run.after (coapStep B W maxMessageSize) CoapSystem.new before) (.step i now)) := by
  have hreachable := reachable_after B W maxMessageSize before
  generalize Run.after (coapStep B W maxMessageSize) CoapSystem.new before = x at *
  obtain ⟨next, hthread⟩ := Pool.performed_step hcaches
  obtain ⟨-, hnext⟩ := caching_of_reaches (hreachable _ (List.mem_of_getElem? hthread)).2
  have hstep : coapStep B W maxMessageSize x (.step i now) =
      ⟨(coapExec now (.cacheBlockwiseResponse K response) x.state).2,
        x.threads.set i (request, .done (.ok (firstReply W response)))⟩ := by
    rw [coapStep, Pool.step, hthread]
    simp only [hnext]
  rw [hstep]
  refine ⟨?_, ⟨request, List.getElem?_set_self (List.getElem?_eq_some_iff.mp hthread).1⟩, ?_⟩
  · intro entry hentry
    simp only [coapExec, Function.update_self, Option.some.injEq] at hentry
    rw [← hentry]
  · intro j continuation p hj hcontinued
    have hlt := (List.getElem?_eq_some_iff.mp hcontinued).1
    rw [List.length_set] at hlt
    omega

/-- Once the response of a request has been cached, and as long as no other exchange of its remote
address on its path has a response cached, the client that fetches it block by block receives blocks
of this response only, and puts them together to this response. -/
theorem blockwise_consistent (hW : W.Lawful) {before after : List CoapEvent} {now : Nat}
    {request : CoapRequest}
    (hcaches : (Run.after (coapStep B W maxMessageSize) CoapSystem.new before).performed
      (.step i now) = some (request, .cacheBlockwiseResponse K response))
    (hkept : Run.Meets (coapStep B W maxMessageSize) (fun x event => ¬ Caches K x event)
      (Run.after (coapStep B W maxMessageSize) CoapSystem.new (before ++ [.step i now])) after)
    {first : CoapReply} {rest : List CoapReply}
    (hfirst : (Run.after (coapStep B W maxMessageSize) CoapSystem.new
      (before ++ .step i now :: after)).result? i = some (request, .ok first))
    (hrest : ∀ reply ∈ rest, ∃ j continuation, IsContinuation K continuation ∧
      (Run.after (coapStep B W maxMessageSize) CoapSystem.new before).threads.length ≤ j ∧
      (Run.after (coapStep B W maxMessageSize) CoapSystem.new
        (before ++ .step i now :: after)).result? j = some (continuation, .ok reply)) :
    (∀ reply ∈ first :: rest, Belongs W response reply) ∧
      ∀ bytes, reassemble W [] (first :: rest) = some bytes → bytes = response := by
  rw [Run.after_append, Run.after_cons, Run.after_nil] at hkept
  rw [Run.after_append, Run.after_cons] at hfirst
  have hserves := hkept.invariant (fun _ _ => Serves.step hW) (serves_of_caches hcaches)
  have hbelongs : ∀ reply ∈ first :: rest, Belongs W response reply := by
    rintro reply hreply
    rcases List.mem_cons.mp hreply with rfl | hreply
    · obtain ⟨request', hanswered⟩ := hserves.answered
      have heq := (Pool.result?_eq_some.mp hfirst).symm.trans hanswered
      obtain ⟨-, hreply⟩ := Prod.mk.inj (Option.some.inj heq)
      obtain rfl := Except.ok.inj (Program.done.inj hreply)
      exact belongs_firstReply hW response
    · obtain ⟨j, continuation, hcontinuation, hj, hresult⟩ := hrest reply hreply
      rw [Run.after_append, Run.after_cons, Pool.result?_eq_some] at hresult
      rcases hserves.continued j continuation _ hj hresult hcontinuation with hp | ⟨reply', hp, h⟩
      · obtain ⟨block2, hserve⟩ : ∃ block2, serveCoAP B W maxMessageSize continuation =
          serveContinuation B W K block2 := hcontinuation.serveCoAP_eq
        cases hp.trans hserve
      · obtain rfl := Except.ok.inj (Program.done.inj hp)
        exact h
  exact ⟨hbelongs, fun bytes => reassemble_eq rfl hbelongs⟩

/-! The options as CoAP has them, and two exchanges on one path. -/

def Blockwise.reference : Blockwise where
  size szx := if szx ≤ 6 then 16 * 2 ^ szx else if szx = 7 then 1024 else -1
  encodeBlockOption szx blockNumber more :=
    if szx < 8 ∧ blockNumber < 2 ^ 20 then .ok (blockNumber * 16 + more.toNat * 8 + szx)
    else .error (.message "invalid block option")
  decodeBlockOption block2 := .ok (block2 % 8, block2 / 16, decide (block2 / 8 % 2 = 1))

theorem Blockwise.reference_lawful : Blockwise.reference.Lawful where
  decodeBlockOption_encode szx blockNumber more block2 h := by
    simp only [reference] at h ⊢
    split at h
    next hrange =>
        obtain rfl := Except.ok.inj h
        cases more
        all_goals
          simp only [Bool.toNat_true, Bool.toNat_false, Except.ok.injEq, Prod.mk.injEq]
          refine ⟨by omega, by omega, ?_⟩
          simp
          omega
    next => cases h

/-- A message from the address `1` on the path `/`. -/
def samplePost : CoapRequest where
  isPost := true
  remoteAddr := some [0x31]
  path := .ok [0x2f]
  body := .ok [0xbf, 0x4f, 0x00]
  block2 := none

/-- The request for the second block of 1024 octets. -/
def sampleContinuation : CoapRequest :=
  { samplePost with body := .ok [], block2 := some (.ok 22) }

def sampleKey : Bytes := [0x31, 0x00, 0x2f]

def sampleResponse (b : UInt8) : Bytes := List.replicate 1030 b

/-- A message is answered with the response, which is cached. -/
def sampleBefore (b : UInt8) : List CoapEvent :=
  [.start samplePost, .answer 0 (.ok (some (sampleResponse b)))]

theorem sample_caches (b : UInt8) :
    (Run.after (coapStep Bertlv.reference Blockwise.reference 65536) CoapSystem.new
      (sampleBefore b)).performed (.step 0 0) =
        some (samplePost, .cacheBlockwiseResponse sampleKey (sampleResponse b)) := rfl

theorem sample_continuation : IsContinuation sampleKey sampleContinuation := by
  constructor <;> decide

/-- The two blocks of a response, fetched with nothing in between. -/
theorem blockwise_consistent_two :
    reassemble Blockwise.reference []
      [firstReply Blockwise.reference (sampleResponse 0xaa),
        blockReply Blockwise.reference (sampleResponse 0xaa) (.ok 22)] =
          some (sampleResponse 0xaa) := by
  have hkept : Run.Meets (coapStep Bertlv.reference Blockwise.reference 65536)
      (fun x event => ¬ Caches sampleKey x event)
      (Run.after (coapStep Bertlv.reference Blockwise.reference 65536) CoapSystem.new
        (sampleBefore 0xaa ++ [.step 0 0])) [.start sampleContinuation, .step 1 1] := by
    refine ⟨?_, ?_, trivial⟩
    all_goals
      rintro ⟨request, response, hperformed⟩
      cases hperformed
  obtain ⟨bytes, hbytes⟩ : ∃ bytes, reassemble Blockwise.reference []
      [firstReply Blockwise.reference (sampleResponse 0xaa),
        blockReply Blockwise.reference (sampleResponse 0xaa) (.ok 22)] = some bytes :=
    Option.isSome_iff_exists.mp (by decide +kernel)
  have hrest (reply : CoapReply)
      (hreply : reply ∈ [blockReply Blockwise.reference (sampleResponse 0xaa) (.ok 22)]) :
      ∃ j continuation, IsContinuation sampleKey continuation ∧
        (Run.after (coapStep Bertlv.reference Blockwise.reference 65536) CoapSystem.new
          (sampleBefore 0xaa)).threads.length ≤ j ∧
        (Run.after (coapStep Bertlv.reference Blockwise.reference 65536) CoapSystem.new
          (sampleBefore 0xaa ++ .step 0 0 :: [.start sampleContinuation, .step 1 1])).result? j =
            some (continuation, .ok reply) := by
    rw [List.mem_singleton] at hreply
    exact ⟨1, sampleContinuation, sample_continuation, Nat.le_refl 1, by rw [hreply]; rfl⟩
  have hresponse := (blockwise_consistent Blockwise.reference_lawful (sample_caches 0xaa) hkept rfl
    hrest).2 bytes hbytes
  rw [hbytes, hresponse]

/-- Another exchange of the client is answered before it asks for the second block. -/
def sampleAfter (b : UInt8) : List CoapEvent :=
  [.start samplePost, .answer 1 (.ok (some (sampleResponse b))), .step 1 0,
    .start sampleContinuation, .step 2 1]

theorem mixed_responses :
    (Run.after (coapStep Bertlv.reference Blockwise.reference 65536) CoapSystem.new
        (sampleBefore 0xaa)).performed (.step 0 0) =
          some (samplePost, .cacheBlockwiseResponse sampleKey (sampleResponse 0xaa)) ∧
      (Run.after (coapStep Bertlv.reference Blockwise.reference 65536) CoapSystem.new
        (sampleBefore 0xaa ++ .step 0 0 :: sampleAfter 0xbb)).result? 0 =
          some (samplePost, .ok (firstReply Blockwise.reference (sampleResponse 0xaa))) ∧
      IsContinuation sampleKey sampleContinuation ∧
      (Run.after (coapStep Bertlv.reference Blockwise.reference 65536) CoapSystem.new
        (sampleBefore 0xaa ++ .step 0 0 :: sampleAfter 0xbb)).result? 2 =
          some (sampleContinuation,
            .ok (blockReply Blockwise.reference (sampleResponse 0xbb) (.ok 22))) ∧
      reassemble Blockwise.reference []
        [firstReply Blockwise.reference (sampleResponse 0xaa),
          blockReply Blockwise.reference (sampleResponse 0xbb) (.ok 22)] =
            some (List.replicate 1024 0xaa ++ List.replicate 6 0xbb) :=
  ⟨sample_caches 0xaa, rfl, sample_continuation, rfl, by decide +kernel⟩

end OpenIotRsp.Esipa
