import OpenIotRsp.Verification.Esipa.Outcomes
import OpenIotRsp.Verification.Server.Accounting

/-!
# The order of counters

Drawing a counter and queueing what was signed with it are two store calls, so
the queue need not have the order of the counters.  It has, in every run that
queues the packages of a device in the order in which they drew.
-/

namespace OpenIotRsp.Server

open Octets Ber Stateful Asn1 Storage Euiccpkg Api Esipa

variable {s : Store} {key : DeviceKey} {operation : Operation} {event : Event}

/-! ## The invariant -/

/-- The place of the request that the event queues. -/
def Event.queues : Event → Option Nat
  | .enqueue i => some i
  | _ => none

/-- A package is queued when no request of its device with a smaller counter is in flight. -/
def OldestFirst (y : System) (event : Event) : Prop :=
  ∀ i ∈ event.queues, ∀ r ∈ y.inFlight[i]?, ∀ r' ∈ y.inFlight, r'.device = r.device →
    r.counter ≤ r'.counter

instance (y : System) (event : Event) : Decidable (OldestFirst y event) :=
  inferInstanceAs (Decidable (∀ i ∈ event.queues, ∀ r ∈ y.inFlight[i]?, ∀ r' ∈ y.inFlight,
    r'.device = r.device → r.counter ≤ r'.counter))

/-- Counters grow along the queue, and those in flight are greater still. -/
structure Ordered (B : Bertlv) (l : Ledger) (held : List (DeviceKey × Int)) : Prop where
  below : ∀ {id e counter ticket}, l.entries id = some e → e.counter B = some counter →
    ticket ∈ held → ticket.1 = e.device → counter < ticket.2
  increasing : ∀ {id id' e e' counter counter'}, l.entries id = some e → l.entries id' = some e' →
    e.device = e'.device → e.sequenceNumber < e'.sequenceNumber →
    e.counter B = some counter → e'.counter B = some counter' → counter < counter'

namespace Ordered

variable {B : Bertlv} {l : Ledger} {held : List (DeviceKey × Int)}

theorem draw (h : Ordered B l held) (hcounted : Counted B l held) (key : DeviceKey) :
    Ordered B (l.draw key) (held ++ [(key, l.nextCounter key)]) := by
  refine ⟨fun {id e counter ticket} he hcounter hticket hdevice => ?_, h.increasing⟩
  rcases List.mem_append.mp hticket with hold | hnew
  · exact h.below he hcounter hold hdevice
  · obtain rfl := List.mem_singleton.mp hnew
    obtain ⟨counter', hcounter', -, hlt, -⟩ := hcounted.counted he (Entry.kind_of_counter hcounter)
    obtain rfl := Option.some.inj (hcounter.symm.trans hcounter')
    rwa [← hdevice] at hlt

theorem sublist (h : Ordered B l held) {held' : List (DeviceKey × Int)}
    (hsub : held'.Sublist held) : Ordered B l held' :=
  ⟨fun he hcounter hticket => h.below he hcounter (hsub.subset hticket), h.increasing⟩

/-- A new entry keeps the order if its counter, if it has one, is between those of the queue and
those in flight. -/
theorem enqueue (h : Ordered B l held) (hnumbered : Numbered l) {kind : Storage.OperationKind}
    {payload : Bytes}
    (hbetween : ∀ counter, Entry.counter B ⟨key, l.nextSequence key, kind, payload⟩ = some counter →
      (∀ {id e counter'}, l.entries id = some e → e.device = key → e.counter B = some counter' →
        counter' < counter) ∧ ∀ ticket ∈ held, ticket.1 = key → counter < ticket.2) :
    Ordered B (l.enqueue key kind payload) held := by
  constructor
  case below =>
    intro id e counter ticket he hcounter hticket hdevice
    rcases Ledger.enqueue_entries he with ⟨-, rfl⟩ | hold
    · exact (hbetween counter hcounter).2 ticket hticket hdevice
    · exact h.below hold hcounter hticket hdevice
  case increasing =>
    intro id id' e e' counter counter' he he' hdevice hsequence hcounter hcounter'
    rcases Ledger.enqueue_entries he' with ⟨-, rfl⟩ | hold'
    · rcases Ledger.enqueue_entries he with ⟨-, rfl⟩ | hold
      · exact absurd hsequence (lt_irrefl _)
      · exact (hbetween counter' hcounter').1 hold hdevice hcounter
    · rcases Ledger.enqueue_entries he with ⟨-, rfl⟩ | hold
      · have hlast := hnumbered.sequence_lt hold'
        rw [← hdevice] at hlast
        exact absurd hsequence hlast.asymm
      · exact h.increasing hold hold' hdevice hsequence hcounter hcounter'

end Ordered

theorem Moves.ordered {B : Bertlv} (hB : B.Lawful) {S : Service} {y : System} {l' : Ledger}
    {fs' : List InFlight} (hmove : Moves B S event (ledger y.store) y.inFlight l' fs')
    (holdest : OldestFirst y event) (haccounted : Accounted B S (ledger y.store) y.inFlight)
    (h : Ordered B (ledger y.store) (tickets y.inFlight)) : Ordered B l' (tickets fs') := by
  cases hmove with
  | stay => exact h
  | draw =>
      rw [tickets, List.map_append]
      exact h.draw haccounted.counted _
  | sign hget =>
      rw [tickets_set _ hget]
      exact h
  | drop i => exact h.sublist (tickets_eraseIdx y.inFlight i)
  | @enqueue _ _ i r signed hget hsigned =>
      have hmem := List.mem_of_getElem? hget
      have hticket : r.ticket ∈ tickets y.inFlight := List.mem_map_of_mem hmem
      have hpayload : payloadCounter B signed.der = some r.counter :=
        payloadCounter_of_encodes hB (haccounted.signs.plain r hmem)
          (haccounted.signs.encodes r hmem signed hsigned)
      refine (h.sublist (tickets_eraseIdx y.inFlight i)).enqueue haccounted.numbered ?_
      intro counter hcounter
      obtain rfl : counter = r.counter := by
        rw [Entry.counter, if_pos rfl, hpayload] at hcounter
        exact (Option.some.inj hcounter).symm
      refine ⟨fun he hdevice hcounter' => h.below he hcounter' hticket hdevice.symm, ?_⟩
      intro ticket hheld hdevice
      -- another request of the device, which by the condition did not draw before this one
      have hne : ticket ≠ r.ticket := fun heq =>
        haccounted.held.not_mem_eraseIdx hget (heq ▸ hheld)
      obtain ⟨r', hr', rfl⟩ := List.mem_map.mp ((tickets_eraseIdx y.inFlight i).subset hheld)
      refine lt_of_le_of_ne (holdest i rfl r hget r' hr' hdevice) fun heq => hne ?_
      exact Prod.ext hdevice heq.symm
  | enqueueOther key hkind payload =>
      refine h.enqueue haccounted.numbered fun counter hcounter => ?_
      exact absurd (Entry.kind_of_counter hcounter) hkind

variable {S : Service} {H : Handler}

/-- The order holds after every run that meets the condition. -/
theorem ordered_after (hB : H.bertlv.Lawful) {events : List Event}
    (h : Run.Meets (step S H) OldestFirst System.new events) :
    Ordered H.bertlv (ledger (Run.after (step S H) System.new events).store)
      (tickets (Run.after (step S H) System.new events).inFlight) := by
  refine (h.invariant (P := fun y : System => Accounted H.bertlv S (ledger y.store) y.inFlight ∧
    Ordered H.bertlv (ledger y.store) (tickets y.inFlight)) ?_ ?_).2
  · rintro y event ⟨haccounted, hordered⟩ holdest
    have hmove := moves_step (S := S) (y := y) hB event
    exact ⟨hmove.accounted hB haccounted, hmove.ordered hB holdest haccounted hordered⟩
  · exact ⟨accounted_new _ _, nofun, nofun⟩

/-! ## The order of a listing -/

/-- Both payloads have a counter, and that of the first is smaller. -/
def CounterLt (B : Bertlv) (a b : Operation) : Prop :=
  ∃ counter counter', payloadCounter B a.payload = some counter ∧
    payloadCounter B b.payload = some counter' ∧ counter < counter'

def packages (operations : List Operation) : List Operation :=
  operations.filter fun operation => operation.kind = .euiccPackage

/-- The entry of an operation of the device. -/
def entry (key : DeviceKey) (operation : Operation) : Entry :=
  ⟨key, operation.sequenceNumber, operation.kind, operation.payload⟩

theorem entries_of_queued (h : Queued s key operation) :
    (ledger s).entries operation.id = some (entry key operation) := by
  obtain ⟨stored, hlookup, hstored, heid⟩ := h
  simp [ledger, hlookup, hstored, entryOf, entry, MemoryOperation.device, heid]

section

variable {B : Bertlv} {s : Store} {held : List (DeviceKey × Int)} {key : DeviceKey}
  {a b : Operation}

/-- Two packages of a device are in the order of their counters. -/
theorem Ordered.counterLt {l : Ledger} (h : Ordered B l held) (hcounted : Counted B l held)
    (ha : l.entries a.id = some (entry key a)) (hb : l.entries b.id = some (entry key b))
    (hkind : a.kind = .euiccPackage) (hkind' : b.kind = .euiccPackage)
    (hlt : a.sequenceNumber < b.sequenceNumber) : CounterLt B a b := by
  obtain ⟨counter, hcounter, -⟩ := hcounted.counted ha hkind
  obtain ⟨counter', hcounter', -⟩ := hcounted.counted hb hkind'
  refine ⟨counter, counter', ?_, ?_, h.increasing ha hb rfl hlt hcounter hcounter'⟩
  · rwa [Entry.counter, entry, if_pos hkind] at hcounter
  · rwa [Entry.counter, entry, if_pos hkind'] at hcounter'

theorem Numbered.sequence_lt_of_le (h : Numbered (ledger s)) (ha : Queued s key a)
    (hb : Queued s key b) (hle : a.sequenceNumber ≤ b.sequenceNumber) (hid : a.id ≠ b.id) :
    a.sequenceNumber < b.sequenceNumber := by
  refine lt_of_le_of_ne hle fun heq => hid ?_
  exact h.sequence_injective (entries_of_queued ha) (entries_of_queued hb) rfl heq

/-- A listing of queued operations has its packages in the order of their counters. -/
theorem Ordered.pairwise_packages (h : Ordered B (ledger s) held)
    (hcounted : Counted B (ledger s) held) (hnumbered : Numbered (ledger s))
    {operations : List Operation} (hqueued : ∀ a ∈ operations, Queued s key a)
    (hsorted : operations.Pairwise fun a b =>
      a.sequenceNumber ≤ b.sequenceNumber ∧ a.id ≠ b.id) :
    (packages operations).Pairwise (CounterLt B) := by
  refine (hsorted.filter _).imp_of_mem fun {a b} ha hb hab => ?_
  obtain ⟨ha, hkind⟩ := List.mem_filter.mp ha
  obtain ⟨hb, hkind'⟩ := List.mem_filter.mp hb
  have hlt := hnumbered.sequence_lt_of_le (hqueued a ha) (hqueued b hb) hab.1 hab.2
  exact h.counterLt hcounted (entries_of_queued (hqueued a ha)) (entries_of_queued (hqueued b hb))
    (of_decide_eq_true hkind) (of_decide_eq_true hkind') hlt

end

/-! ## What a device is sent next -/

/-- The search for a package, with the head of the queue to fall back on, over a window of it. -/
def selectFrom (queue : List Operation) : Option Operation :=
  (queue.find? fun operation => operation.kind = .euiccPackage).or queue.head?

theorem selectOperationForGetEimPackage_apply (H : Handler) (eid : Bytes) (s : Store) :
    selectOperationForGetEimPackage H eid s =
      (.ok (selectFrom (s.pending (H.device eid) 100)), s) := by
  have hfetch : fetchPendingOperations H.tenant eid 100 s =
      (.ok (s.pending (H.device eid) 100), s) := rfl
  rw [selectOperationForGetEimPackage, bind_of_ok hfetch, selectFrom]
  cases (s.pending (H.device eid) 100).find? fun operation => operation.kind = .euiccPackage <;> rfl

/-- What is selected is the first package, or the head of the queue. -/
theorem first_of_selectFrom {queue : List Operation} (h : selectFrom queue = some operation) :
    queue.find? (fun other => operation.kind = .euiccPackage → other.kind = .euiccPackage) =
      some operation := by
  rcases Option.or_eq_some_iff.mp h with hfind | ⟨hnone, hhead⟩
  · have hfound := List.find?_some hfind
    simpa [of_decide_eq_true hfound] using hfind
  · have hkind : operation.kind ≠ .euiccPackage := by
      simpa using List.find?_eq_none.mp hnone operation (List.mem_of_mem_head? hhead)
    obtain ⟨rest, rfl⟩ := List.head?_eq_some_iff.mp hhead
    simp [hkind]

/-- The package that a poll of the device is answered with. -/
def Polled (H : Handler) (s : Store) (eid : Bytes) (operation : Operation) : Prop :=
  (selectOperationForGetEimPackage H eid s).1 = .ok (some operation) ∧
    operation.kind = .euiccPackage

theorem find?_of_polled {eid : Bytes} (h : Polled H s eid operation) :
    (s.pending (H.device eid) 100).find? (fun operation => operation.kind = .euiccPackage) =
      some operation := by
  obtain ⟨hselect, hkind⟩ := h
  rw [selectOperationForGetEimPackage_apply] at hselect
  simpa [hkind] using first_of_selectFrom (Except.ok.inj hselect)

/-- The first element found in a sorted list is before any other that is looked for. -/
theorem rel_of_find? {α : Type} {R : α → α → Prop} {p : α → Bool} {xs : List α} {a b : α}
    (hsorted : xs.Pairwise R) (hfind : xs.find? p = some a) (hb : b ∈ xs) (hp : p b) :
    a = b ∨ R a b := by
  induction xs with
  | nil => cases hb
  | cons x xs ih =>
      obtain ⟨hx, hxs⟩ := List.pairwise_cons.mp hsorted
      cases hpx : p x with
      | true =>
          rw [List.find?_cons_of_pos hpx] at hfind
          obtain rfl := Option.some.inj hfind
          rcases List.mem_cons.mp hb with rfl | hb
          · exact .inl rfl
          · exact .inr (hx b hb)
      | false =>
          rw [List.find?_cons_of_neg (by simp [hpx])] at hfind
          rcases List.mem_cons.mp hb with rfl | hb
          · simp [hpx] at hp
          · exact ih hxs hfind hb

/-- No other pending package of the device is before the one that is sent. -/
theorem polled_before {eid : Bytes} {a b : Operation} (h : Polled H s eid a)
    (hb : Queued s (H.device eid) b) (hstatus : b.status = .pending)
    (hkind : b.kind = .euiccPackage) :
    a = b ∨ a.sequenceNumber ≤ b.sequenceNumber ∧ a.id ≠ b.id := by
  obtain ⟨longer, hmem, htake⟩ := exists_longer_pending hb hstatus 100
  have hfind := find?_of_polled h
  rw [htake] at hfind
  have hsorted : (s.pending (H.device eid) longer).Pairwise _ :=
    pairwise_selectOperations s _ longer
  refine rel_of_find? (p := fun operation => operation.kind = .euiccPackage) hsorted ?_ hmem
    (decide_eq_true hkind)
  rw [← List.take_append_drop 100 (s.pending (H.device eid) longer), List.find?_append, hfind]
  rfl

/-! ## Later states -/

/-- What is pending later was pending before, or was queued behind everything that was there. -/
structure Later (s s' : Store) : Prop where
  entries : ∀ {id e}, (ledger s).entries id = some e → (ledger s').entries id = some e
  nextSequence_le : ∀ key, (ledger s).nextSequence key ≤ (ledger s').nextSequence key
  pending : ∀ {key operation}, Queued s' key operation → operation.status = .pending →
    Queued s key operation ∨ (ledger s).nextSequence key ≤ operation.sequenceNumber

theorem Later.refl (s : Store) : Later s s := ⟨id, fun _ => le_refl _, fun h _ => .inl h⟩

theorem Later.trans {s s' s'' : Store} (h : Later s s') (h' : Later s' s'') : Later s s'' := by
  refine ⟨fun he => h'.entries (h.entries he),
    fun key => (h.nextSequence_le key).trans (h'.nextSequence_le key), ?_⟩
  intro key operation hqueued hstatus
  rcases h'.pending hqueued hstatus with hold | hnew
  · exact h.pending hold hstatus
  · exact .inr ((h.nextSequence_le key).trans hnew)

theorem Moves.nextSequence_le {B : Bertlv} {l l' : Ledger} {fs fs' : List InFlight}
    (h : Moves B S event l fs l' fs') (key : DeviceKey) :
    l.nextSequence key ≤ l'.nextSequence key := by
  cases h with
  | enqueue => exact l.nextSequence_le_enqueue _ _ _ _
  | enqueueOther => exact l.nextSequence_le_enqueue _ _ _ _
  | _ => exact le_refl _

theorem Numbered.entries_enqueue {l : Ledger} (h : Numbered l) {kind : Storage.OperationKind}
    {payload : Bytes} {id : Int} {e : Entry} (he : l.entries id = some e) :
    (l.enqueue key kind payload).entries id = some e := by
  have hid : id ≠ l.nextID := (h.id_range he).2.ne
  simp only [Ledger.enqueue, Function.update_of_ne hid, he]

theorem Moves.entries {B : Bertlv} {l l' : Ledger} {fs fs' : List InFlight}
    (h : Moves B S event l fs l' fs') (hnumbered : Numbered l) {id : Int} {e : Entry}
    (he : l.entries id = some e) : l'.entries id = some e := by
  cases h with
  | enqueue => exact hnumbered.entries_enqueue he
  | enqueueOther => exact hnumbered.entries_enqueue he
  | _ => exact he

/-! ### Pending operations -/

theorem queued_congr {s s' : Store} (h : s'.operations = s.operations)
    (hqueued : Queued s' key operation) : Queued s key operation := by
  rw [Queued, h] at hqueued
  exact hqueued

/-- A status update ends an operation. -/
theorem queued_of_pending_recorded {key key' : DeviceKey} {recorded operation : Operation}
    {status : OperationStatus} {payload : Bytes}
    (hqueued : Queued (s.recorded key recorded status payload) key' operation)
    (hpending : operation.status = .pending) : Queued s key' operation := by
  rw [Store.recorded, Store.updateStatus] at hqueued
  split at hqueued
  next => exact hqueued
  next row hfind =>
      obtain ⟨stored, hlookup, hstored, heid⟩ := hqueued
      by_cases hid : operation.id = row.1
      · -- the row that was updated is not pending
        exfalso
        obtain ⟨id, row⟩ := row
        simp only at hid hlookup
        subst hid
        rw [AList.lookup_insert] at hlookup
        obtain rfl := Option.some.inj hlookup
        have hstatus := congrArg (fun stored => stored.operation.status) hstored
        simp only [MemoryOperation.withStatus, Operation.result, hpending] at hstatus
        cases status <;> cases hstatus
      · rw [AList.lookup_insert_ne hid] at hlookup
        exact ⟨stored, hlookup, hstored, heid⟩

/-- An operation after one was queued: the new one, or an old one. -/
theorem queued_of_enqueueOperation {tenantID : TenantID} {request : OperationRequest}
    (h : Queued (enqueueOperation tenantID request s).2 key operation) :
    Queued s key operation ∨
      (ledger s).nextSequence key ≤ operation.sequenceNumber ∧ operation.status = .pending := by
  rw [enqueueOperation_apply] at h
  cases hdevice : s.devices.lookup (newDeviceKey tenantID request.eid) with
  | none =>
      rw [hdevice] at h
      exact .inl h
  | some device =>
      rw [hdevice] at h
      obtain ⟨stored, hlookup, hstored, heid⟩ := h
      simp only [Store.enqueued] at hlookup
      by_cases hid : operation.id = (s.newOperation device request).id
      · right
        obtain ⟨id, eid, sequenceNumber, kind, payload, status⟩ := operation
        obtain rfl : id = (s.newOperation device request).id := hid
        rw [AList.lookup_insert] at hlookup
        obtain rfl := Option.some.inj hlookup
        obtain ⟨htenant, hoperation⟩ := MemoryOperation.mk.inj hstored
        have hkey : newDeviceKey tenantID request.eid = key := by
          have heid' : request.eid = key.eid := (congrArg Operation.eid hoperation).trans heid
          rw [newDeviceKey, heid', show normalizeTenantID tenantID = key.tenantID from htenant]
        have hsequence : device.nextSequence = sequenceNumber :=
          congrArg Operation.sequenceNumber hoperation
        have hstatus : OperationStatus.pending = status := congrArg Operation.status hoperation
        refine ⟨?_, hstatus.symm⟩
        rw [← hkey, ← hsequence]
        simp [ledger, hdevice]
      · left
        rw [AList.lookup_insert_ne hid] at hlookup
        exact ⟨stored, hlookup, hstored, heid⟩

/-- A step leaves pending operations as they are, ends them, or queues new ones. -/
theorem Writes.pending {s s' : Store} (h : Writes H event s s') (hqueued : Queued s' key operation)
    (hpending : operation.status = .pending) :
    Queued s key operation ∨ (ledger s).nextSequence key ≤ operation.sequenceNumber := by
  cases h with
  | none => exact .inl hqueued
  | device => exact .inl hqueued
  | enqueue => exact (queued_of_enqueueOperation hqueued).imp_right And.left
  | config => exact .inl hqueued
  | associate tenantID eid config =>
      have hstate : IgnoresState Store.operations tenantID eid :=
        ignoresState_of_forall fun _ _ _ _ => rfl
      exact .inl (queued_congr (hstate.setAssociatedConfig _ config s) hqueued)
  | message =>
      left
      rcases booked_dispatch H s _ with hbook | ⟨eid, raw, payload, recorded, status, -, -, -, hbook⟩
      · exact queued_congr (congrArg Prod.fst hbook) hqueued
      · exact queued_of_pending_recorded (queued_congr (congrArg Prod.fst hbook) hqueued) hpending

theorem later_step (hB : H.bertlv.Lawful) {y : System} (hnumbered : Numbered (ledger y.store))
    (event : Event) : Later y.store (step S H y event).store := by
  have hmove := moves_step (S := S) (y := y) hB event
  exact ⟨hmove.entries hnumbered, hmove.nextSequence_le, (writes_step S H y event).pending⟩

theorem later_after (hB : H.bertlv.Lawful) {y : System} (hnumbered : Numbered (ledger y.store))
    (events : List Event) : Later y.store (Run.after (step S H) y events).store := by
  refine (Run.invariant (P := fun y' : System => Numbered (ledger y'.store) ∧
    Later y.store y'.store) ?_ ⟨hnumbered, Later.refl _⟩ events).2
  rintro y' event ⟨hnumbered', h⟩
  exact ⟨(moves_step (S := S) hB event).numbered hnumbered', h.trans (later_step hB hnumbered' event)⟩

/-! ## Deliveries -/

/-- In every run that queues the packages of a device in the order of their counters, the listings
have that order, and a device is never sent a package with a smaller counter than one before. -/
theorem counters_increase (hB : H.bertlv.Lawful) {events events' : List Event}
    (h : Run.Meets (step S H) OldestFirst System.new (events ++ events')) :
    let y := Run.after (step S H) System.new events
    let y' := Run.after (step S H) System.new (events ++ events')
    (∀ tenantID eid limit operations,
      (listOperations tenantID eid limit y.store).1 = .ok operations ∨
        (fetchPendingOperations tenantID eid limit y.store).1 = .ok operations →
      (packages operations).Pairwise (CounterLt H.bertlv)) ∧
    ∀ eid a b, Polled H y.store eid a → Polled H y'.store eid b →
      a.id = b.id ∨ CounterLt H.bertlv a b := by
  intro y y'
  have haccounted : Accounted H.bertlv S (ledger y.store) y.inFlight := accounted_after hB events
  have hordered : Ordered H.bertlv (ledger y.store) _ :=
    ordered_after hB (Run.meets_append.mp h).1
  refine ⟨?_, ?_⟩
  · intro tenantID eid limit operations hlist
    have hqueued : ∀ a ∈ operations, Queued y.store (newDeviceKey tenantID eid) a := by
      rcases hlist with hlist | hlist
      all_goals
        obtain rfl := Except.ok.inj hlist
      · exact fun a ha => queued_of_mem_queue ha
      · exact fun a ha => (queued_of_mem_pending ha).1
    refine hordered.pairwise_packages haccounted.counted haccounted.numbered hqueued ?_
    rcases hlist with hlist | hlist
    all_goals
      obtain rfl := Except.ok.inj hlist
      exact pairwise_selectOperations _ _ _
  · intro eid a b ha hb
    obtain ⟨haq, hastatus⟩ := queued_of_mem_pending (List.mem_of_find?_eq_some (find?_of_polled ha))
    obtain ⟨hbq, hbstatus⟩ := queued_of_mem_pending (List.mem_of_find?_eq_some (find?_of_polled hb))
    have hlater : Later y.store y'.store := by
      have hafter := later_after (S := S) hB haccounted.numbered events'
      rwa [← Run.after_append] at hafter
    rcases hlater.pending hbq hbstatus with hold | hnew
    · rcases polled_before ha hold hbstatus hb.2 with heq | ⟨hle, hid⟩
      · exact .inl (congrArg Operation.id heq)
      · have hlt := haccounted.numbered.sequence_lt_of_le haq hold hle hid
        exact .inr (hordered.counterLt haccounted.counted (entries_of_queued haq)
          (entries_of_queued hold) ha.2 hb.2 hlt)
    · have haccounted' : Accounted H.bertlv S (ledger y'.store) y'.inFlight :=
        accounted_after hB (events ++ events')
      have hlt : a.sequenceNumber < b.sequenceNumber :=
        (haccounted.numbered.sequence_lt (entries_of_queued haq)).trans_le hnew
      exact .inr ((ordered_after hB h).counterLt haccounted'.counted
        (hlater.entries (entries_of_queued haq)) (entries_of_queued hbq) ha.2 hb.2 hlt)

/-! Two requests for one device draw their counters one after the other, and are queued in the given
order of places. -/

def sampleRequests (first second : Nat) : List Event :=
  [.register [] sampleDevice, .draw [] sampleDevice [0x07] .listProfileInfo,
    .draw [] sampleDevice [0x08] .getRAT, .sign 0, .sign 1, .enqueue first, .enqueue second]

def sampleSystem (events : List Event) : System :=
  Run.after (step sampleService sampleHandler) System.new events

theorem counters_increase_two_requests :
    (packages ((sampleSystem (sampleRequests 0 0)).store.pending (newDeviceKey [] sampleDevice) 10)).map
      (fun operation => payloadCounter .reference operation.payload) = [some 1, some 2] ∧
    (packages ((sampleSystem (sampleRequests 0 0)).store.pending
      (newDeviceKey [] sampleDevice) 10)).Pairwise (CounterLt .reference) := by
  have hmeets : Run.Meets (step sampleService sampleHandler) OldestFirst System.new
      (sampleRequests 0 0 ++ []) := by decide +kernel
  exact ⟨by decide +kernel,
    (counters_increase Bertlv.reference_lawful hmeets).1 [] sampleDevice 10 _ (.inr rfl)⟩

/-- The request that drew second is queued first. -/
theorem smaller_counter_behind :
    (packages ((sampleSystem (sampleRequests 1 0)).store.pending (newDeviceKey [] sampleDevice) 10)).map
      (fun operation => payloadCounter .reference operation.payload) = [some 2, some 1] ∧
    ¬ (packages ((sampleSystem (sampleRequests 1 0)).store.pending
      (newDeviceKey [] sampleDevice) 10)).Pairwise (CounterLt .reference) := by
  have hcounters : (packages ((sampleSystem (sampleRequests 1 0)).store.pending
      (newDeviceKey [] sampleDevice) 10)).map
        (fun operation => payloadCounter .reference operation.payload) = [some 2, some 1] := by
    decide +kernel
  refine ⟨hcounters, fun hpairwise => ?_⟩
  have hmapped := List.pairwise_map (R := fun x y => ∃ counter counter', x = some counter ∧
    y = some counter' ∧ counter < counter')
    (f := fun operation : Operation => payloadCounter .reference operation.payload) |>.mpr hpairwise
  rw [hcounters] at hmapped
  simp at hmapped

end OpenIotRsp.Server
