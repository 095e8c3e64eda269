import OpenIotRsp.Verification.Server.Ledger

/-!
# Accounting of queue numbers and counters

In every run identifiers and sequence numbers of the queue are handed out once,
and so are the counters of a device: no two packages of a device, queued or in
flight, carry the same counter.
-/

namespace OpenIotRsp.Server

open Octets Ber Asn1 Storage Euiccpkg Api Esipa

variable {B : Bertlv} {S : Service} {fs fs' : List InFlight} {l l' : Ledger} {event : Event}

/-! ## The counter of a payload -/

/-- The counter field of an encoded package request. -/
def payloadCounter (B : Bertlv) (payload : Bytes) : Option Int := do
  let tlv ← (parseTLV B payload).toOption
  let signed ← tlv.children.head?
  (integerValue B (signed.first (context 1))).toOption

theorem payloadCounter_of_encodes (hB : B.Lawful) {input : SignInput} {counter : Int} {der : Bytes}
    (hplain : input.package.Plain) (h : SignedRequest.Encodes B S input counter der) :
    payloadCounter B der = some counter := by
  obtain ⟨signature, h⟩ := h
  obtain ⟨t, ht, hder⟩ := encode_eq_ok.mp h
  obtain ⟨-, -, hwf, -⟩ := EuiccPackageRequest.unmarshalBERTLV_written hB hplain ht
  obtain ⟨signed, hsigned, ht⟩ := Outcome.bind_eq_ok.mp ht
  obtain rfl := Except.ok.inj ht
  have hcounter := EuiccPackageSigned.counter_written hB hplain hsigned
  simp only [payloadCounter, parseTLV_marshalBinary hB hwf hder, Except.toOption,
    Option.bind_eq_bind, Option.bind_some, Tlv.children_constructed, List.head?_cons, hcounter]
  rfl

def Entry.counter (B : Bertlv) (e : Entry) : Option Int :=
  if e.kind = .euiccPackage then payloadCounter B e.payload else none

/-! ## Queue numbers -/

/-- Identifiers and sequence numbers are handed out once. -/
structure Numbered (l : Ledger) : Prop where
  nextID_pos : 1 ≤ l.nextID
  id_range : ∀ {id e}, l.entries id = some e → 1 ≤ id ∧ id < l.nextID
  sequence_lt : ∀ {id e}, l.entries id = some e → e.sequenceNumber < l.nextSequence e.device
  sequence_injective : ∀ {id id' e e'}, l.entries id = some e → l.entries id' = some e' →
    e.device = e'.device → e.sequenceNumber = e'.sequenceNumber → id = id'

/-- An entry after an operation was queued: the new one, or an old one. -/
theorem Ledger.enqueue_entries {l : Ledger} {key : DeviceKey} {kind : Storage.OperationKind}
    {payload : Bytes} {id : Int} {e : Entry}
    (h : (l.enqueue key kind payload).entries id = some e) :
    (id = l.nextID ∧ e = ⟨key, l.nextSequence key, kind, payload⟩) ∨ l.entries id = some e := by
  by_cases hid : id = l.nextID
  · subst hid
    simp only [Ledger.enqueue, Function.update_self] at h
    exact .inl ⟨rfl, (Option.some.inj h).symm⟩
  · simp only [Ledger.enqueue, Function.update_of_ne hid] at h
    exact .inr h

theorem Ledger.nextSequence_le_enqueue (l : Ledger) (key key' : DeviceKey)
    (kind : Storage.OperationKind) (payload : Bytes) :
    l.nextSequence key' ≤ (l.enqueue key kind payload).nextSequence key' := by
  by_cases hkey : key' = key
  · subst hkey
    simp [Ledger.enqueue]
  · simp [Ledger.enqueue, Function.update_of_ne hkey]

theorem Numbered.enqueue {l : Ledger} (h : Numbered l) (key : DeviceKey)
    (kind : Storage.OperationKind) (payload : Bytes) : Numbered (l.enqueue key kind payload) := by
  have hnext : (l.enqueue key kind payload).nextID = l.nextID + 1 := rfl
  have hpos := h.nextID_pos
  constructor
  case nextID_pos => omega
  case id_range =>
    intro id e he
    rcases Ledger.enqueue_entries he with ⟨rfl, -⟩ | hold
    · omega
    · have := h.id_range hold
      omega
  case sequence_lt =>
    intro id e he
    rcases Ledger.enqueue_entries he with ⟨-, rfl⟩ | hold
    · simp [Ledger.enqueue]
    · exact (h.sequence_lt hold).trans_le (l.nextSequence_le_enqueue key _ kind payload)
  case sequence_injective =>
    intro id id' e e' he he' hdevice hsequence
    rcases Ledger.enqueue_entries he with ⟨rfl, rfl⟩ | hold <;>
      rcases Ledger.enqueue_entries he' with ⟨rfl, rfl⟩ | hold'
    · rfl
    · have := h.sequence_lt hold'
      rw [← hdevice, ← hsequence] at this
      exact absurd this (lt_irrefl _)
    · have := h.sequence_lt hold
      rw [hdevice, hsequence] at this
      exact absurd this (lt_irrefl _)
    · exact h.sequence_injective hold hold' hdevice hsequence

theorem Moves.numbered (hmove : Moves B S event l fs l' fs') (h : Numbered l) : Numbered l' := by
  cases hmove with
  | stay => exact h
  | draw => exact ⟨h.nextID_pos, h.id_range, h.sequence_lt, h.sequence_injective⟩
  | sign => exact h
  | drop => exact h
  | enqueue => exact h.enqueue _ _ _
  | enqueueOther => exact h.enqueue _ _ _

/-! ## Counters in flight -/

/-- The device and the counter of a request in flight. -/
def InFlight.ticket (r : InFlight) : DeviceKey × Int := (r.device, r.counter)

def tickets (fs : List InFlight) : List (DeviceKey × Int) := fs.map InFlight.ticket

/-- The counters in flight were drawn, each of them once, the oldest first. -/
structure Held (next : DeviceKey → Int) (held : List (DeviceKey × Int)) : Prop where
  next_pos : ∀ key, 1 ≤ next key
  range : ∀ ticket ∈ held, 1 ≤ ticket.2 ∧ ticket.2 < next ticket.1
  increasing : held.Pairwise fun a b => a.1 = b.1 → a.2 < b.2

/-- What is signed is the package with the counter that was drawn for it. -/
structure Signs (B : Bertlv) (S : Service) (fs : List InFlight) : Prop where
  plain : ∀ r ∈ fs, r.input.package.Plain
  encodes : ∀ r ∈ fs, ∀ signed, r.signed = some signed →
    SignedRequest.Encodes B S r.input r.counter signed.der

theorem Ledger.nextCounter_le_draw (l : Ledger) (key key' : DeviceKey) :
    l.nextCounter key' ≤ (l.draw key).nextCounter key' := by
  by_cases hkey : key' = key
  · subst hkey
    simp [Ledger.draw]
  · simp [Ledger.draw, Function.update_of_ne hkey]

theorem Held.draw {l : Ledger} {held : List (DeviceKey × Int)} (h : Held l.nextCounter held)
    (key : DeviceKey) : Held (l.draw key).nextCounter (held ++ [(key, l.nextCounter key)]) := by
  constructor
  case next_pos => exact fun key' => (h.next_pos key').trans (l.nextCounter_le_draw key key')
  case range =>
    intro ticket hticket
    rcases List.mem_append.mp hticket with hold | hnew
    · have hrange := h.range ticket hold
      exact ⟨hrange.1, hrange.2.trans_le (l.nextCounter_le_draw key _)⟩
    · obtain rfl := List.mem_singleton.mp hnew
      exact ⟨h.next_pos key, by simp [Ledger.draw]⟩
  case increasing =>
    refine List.pairwise_append.mpr ⟨h.increasing, List.pairwise_singleton _ _, ?_⟩
    intro ticket hticket new hnew hdevice
    obtain rfl := List.mem_singleton.mp hnew
    have hrange := (h.range ticket hticket).2
    rwa [hdevice] at hrange

theorem Held.sublist {next : DeviceKey → Int} {held held' : List (DeviceKey × Int)}
    (h : Held next held) (hsub : held'.Sublist held) : Held next held' :=
  ⟨h.next_pos, fun ticket hticket => h.range ticket (hsub.subset hticket),
    h.increasing.sublist hsub⟩

/-- Signing does not change what is held. -/
theorem tickets_set {fs : List InFlight} {i : Nat} {r : InFlight} (signed : Option SignedRequest)
    (hget : fs[i]? = some r) : tickets (fs.set i { r with signed := signed }) = tickets fs := by
  refine List.ext_getElem? fun j => ?_
  rw [tickets, tickets, List.getElem?_map, List.getElem?_map, List.getElem?_set]
  split
  next hij =>
      subst hij
      rw [hget, if_pos (List.getElem?_eq_some_iff.mp hget).1]
      rfl
  next => rfl

theorem tickets_eraseIdx (fs : List InFlight) (i : Nat) :
    (tickets (fs.eraseIdx i)).Sublist (tickets fs) :=
  (List.eraseIdx_sublist fs i).map InFlight.ticket

theorem Moves.held (hmove : Moves B S event l fs l' fs') (h : Held l.nextCounter (tickets fs)) :
    Held l'.nextCounter (tickets fs') := by
  cases hmove with
  | stay => exact h
  | draw =>
      rw [tickets, List.map_append]
      exact h.draw _
  | sign hget => rwa [tickets_set _ hget]
  | drop i => exact h.sublist (tickets_eraseIdx fs i)
  | enqueue => exact h.sublist (tickets_eraseIdx fs _)
  | enqueueOther => exact h

theorem Moves.signs (hmove : Moves B S event l fs l' fs') (h : Signs B S fs) : Signs B S fs' := by
  have herase : ∀ i, Signs B S (fs.eraseIdx i) := fun i =>
    ⟨fun r hr => h.plain r (List.mem_of_mem_eraseIdx hr),
      fun r hr => h.encodes r (List.mem_of_mem_eraseIdx hr)⟩
  cases hmove with
  | stay => exact h
  | draw hplain =>
      refine ⟨fun r hr => ?_, fun r hr signed hsigned => ?_⟩ <;>
        rcases List.mem_append.mp hr with hold | hnew
      · exact h.plain r hold
      · obtain rfl := List.mem_singleton.mp hnew
        exact hplain
      · exact h.encodes r hold signed hsigned
      · obtain rfl := List.mem_singleton.mp hnew
        cases hsigned
  | sign hget hencodes =>
      refine ⟨fun r hr => ?_, fun r hr signed hsigned => ?_⟩ <;>
        rcases List.mem_or_eq_of_mem_set hr with hold | rfl
      · exact h.plain r hold
      · have hplain := h.plain _ (List.mem_of_getElem? hget)
        exact hplain
      · exact h.encodes r hold signed hsigned
      · obtain rfl := Option.some.inj hsigned
        exact hencodes
  | drop i => exact herase i
  | enqueue => exact herase _
  | enqueueOther => exact h

/-! ## Counters of the queue -/

/-- Every queued package has a counter of its own, that was drawn and is no longer in flight. -/
structure Counted (B : Bertlv) (l : Ledger) (held : List (DeviceKey × Int)) : Prop where
  counted : ∀ {id e}, l.entries id = some e → e.kind = .euiccPackage →
    ∃ counter, e.counter B = some counter ∧ 1 ≤ counter ∧ counter < l.nextCounter e.device ∧
      (e.device, counter) ∉ held
  counter_injective : ∀ {id id' e e' counter}, l.entries id = some e → l.entries id' = some e' →
    e.device = e'.device → e.counter B = some counter → e'.counter B = some counter → id = id'

theorem Entry.kind_of_counter {e : Entry} {counter : Int} (h : e.counter B = some counter) :
    e.kind = .euiccPackage := by
  by_contra hkind
  simp [Entry.counter, hkind] at h

namespace Counted

variable {B : Bertlv} {l : Ledger} {held : List (DeviceKey × Int)}

theorem draw (h : Counted B l held) (key : DeviceKey) :
    Counted B (l.draw key) (held ++ [(key, l.nextCounter key)]) := by
  refine ⟨fun {id e} he hkind => ?_, h.counter_injective⟩
  obtain ⟨counter, hcounter, hpos, hlt, hfree⟩ := h.counted he hkind
  refine ⟨counter, hcounter, hpos, hlt.trans_le (l.nextCounter_le_draw key _), ?_⟩
  rw [List.mem_append, List.mem_singleton, not_or]
  refine ⟨hfree, fun heq => ?_⟩
  obtain ⟨rfl, rfl⟩ := Prod.mk.inj heq
  exact absurd hlt (lt_irrefl _)

theorem sublist (h : Counted B l held) {held' : List (DeviceKey × Int)}
    (hsub : held'.Sublist held) : Counted B l held' := by
  refine ⟨fun {id e} he hkind => ?_, h.counter_injective⟩
  obtain ⟨counter, hcounter, hpos, hlt, hfree⟩ := h.counted he hkind
  exact ⟨counter, hcounter, hpos, hlt, fun hmem => hfree (hsub.subset hmem)⟩

theorem enqueueOther (h : Counted B l held) (key : DeviceKey) {kind : Storage.OperationKind}
    (hkind : kind ≠ .euiccPackage) (payload : Bytes) :
    Counted B (l.enqueue key kind payload) held := by
  constructor
  case counted =>
    intro id e he hpackage
    rcases Ledger.enqueue_entries he with ⟨-, rfl⟩ | hold
    · exact absurd hpackage hkind
    · exact h.counted hold hpackage
  case counter_injective =>
    intro id id' e e' counter he he' hdevice hcounter hcounter'
    rcases Ledger.enqueue_entries he with ⟨-, rfl⟩ | hold
    · exact absurd (Entry.kind_of_counter hcounter) hkind
    rcases Ledger.enqueue_entries he' with ⟨-, rfl⟩ | hold'
    · exact absurd (Entry.kind_of_counter hcounter') hkind
    exact h.counter_injective hold hold' hdevice hcounter hcounter'

/-- A held counter moves into the queue. -/
theorem enqueue (h : Counted B l held) {held' : List (DeviceKey × Int)} {key : DeviceKey}
    {counter : Int} {payload : Bytes} (hsub : held'.Sublist held) (hmem : (key, counter) ∈ held)
    (hnot : (key, counter) ∉ held') (hrange : 1 ≤ counter ∧ counter < l.nextCounter key)
    (hpayload : payloadCounter B payload = some counter) :
    Counted B (l.enqueue key .euiccPackage payload) held' := by
  -- no package of the queue has a counter that is still held
  have hnew : ∀ {id e}, l.entries id = some e → e.device = key → e.counter B ≠ some counter := by
    intro id e he hdevice hcounter
    obtain ⟨counter', hcounter', -, -, hfree⟩ := h.counted he (Entry.kind_of_counter hcounter)
    obtain rfl := Option.some.inj (hcounter.symm.trans hcounter')
    rw [hdevice] at hfree
    exact hfree hmem
  have hentry : ∀ n, Entry.counter B ⟨key, n, .euiccPackage, payload⟩ = some counter := fun n => by
    simp [Entry.counter, hpayload]
  constructor
  case counted =>
    intro id e he hkind
    rcases Ledger.enqueue_entries he with ⟨-, rfl⟩ | hold
    · exact ⟨counter, hentry _, hrange.1, hrange.2, hnot⟩
    · exact (h.sublist hsub).counted hold hkind
  case counter_injective =>
    intro id id' e e' counter' he he' hdevice hcounter hcounter'
    rcases Ledger.enqueue_entries he with ⟨rfl, rfl⟩ | hold <;>
      rcases Ledger.enqueue_entries he' with ⟨rfl, rfl⟩ | hold'
    · rfl
    · rw [hentry] at hcounter
      exact absurd (hcounter'.trans hcounter.symm) (hnew hold' hdevice.symm)
    · rw [hentry] at hcounter'
      exact absurd (hcounter.trans hcounter'.symm) (hnew hold hdevice)
    · exact h.counter_injective hold hold' hdevice hcounter hcounter'

end Counted

/-! ## Runs -/

/-- The invariant of every run. -/
structure Accounted (B : Bertlv) (S : Service) (l : Ledger) (fs : List InFlight) : Prop where
  numbered : Numbered l
  held : Held l.nextCounter (tickets fs)
  signs : Signs B S fs
  counted : Counted B l (tickets fs)

/-- Each counter is held once. -/
theorem Held.not_mem_eraseIdx {next : DeviceKey → Int} {fs : List InFlight} {i : Nat}
    {r : InFlight} (h : Held next (tickets fs)) (hget : fs[i]? = some r) :
    r.ticket ∉ tickets (fs.eraseIdx i) := by
  have hnodup : (tickets fs).Nodup :=
    h.increasing.imp fun hlt heq => absurd (hlt (congrArg Prod.fst heq)) (by simp [heq])
  have hticket : (tickets fs)[i]? = some r.ticket := by rw [tickets, List.getElem?_map, hget]; rfl
  obtain ⟨hi, hat⟩ := List.getElem?_eq_some_iff.mp hticket
  rw [tickets, ← List.eraseIdx_map, ← tickets, ← hnodup.erase_getElem i hi, hat]
  exact hnodup.not_mem_erase

theorem Moves.accounted (hB : B.Lawful) (hmove : Moves B S event l fs l' fs')
    (h : Accounted B S l fs) : Accounted B S l' fs' := by
  refine ⟨hmove.numbered h.numbered, hmove.held h.held, hmove.signs h.signs, ?_⟩
  cases hmove with
  | stay => exact h.counted
  | draw =>
      rw [tickets, List.map_append]
      exact h.counted.draw _
  | sign hget => rw [tickets_set _ hget]; exact h.counted
  | drop i => exact h.counted.sublist (tickets_eraseIdx fs i)
  | enqueue hget hsigned =>
      have hmem := List.mem_of_getElem? hget
      have hheld : (_, _) ∈ tickets fs := List.mem_map_of_mem hmem
      refine h.counted.enqueue (tickets_eraseIdx fs _) hheld (h.held.not_mem_eraseIdx hget)
        (h.held.range _ hheld) ?_
      exact payloadCounter_of_encodes hB (h.signs.plain _ hmem) (h.signs.encodes _ hmem _ hsigned)
  | enqueueOther key hkind payload => exact h.counted.enqueueOther key hkind payload

variable {S : Service} {H : Handler}

theorem accounted_new (B : Bertlv) (S : Service) :
    Accounted B S (ledger System.new.store) System.new.inFlight where
  numbered := ⟨le_refl _, nofun, nofun, nofun⟩
  held := ⟨fun _ => le_refl _, nofun, .nil⟩
  signs := ⟨nofun, nofun⟩
  counted := ⟨nofun, nofun⟩

/-- Every run keeps the accounts. -/
theorem accounted_after (hB : H.bertlv.Lawful) (events : List Event) :
    Accounted H.bertlv S (ledger (Run.after (step S H) System.new events).store)
      (Run.after (step S H) System.new events).inFlight :=
  Run.invariant (P := fun y : System => Accounted H.bertlv S (ledger y.store) y.inFlight)
    (fun _ event h => (moves_step hB event).accounted hB h) (accounted_new _ _) events

end OpenIotRsp.Server
