import Mathlib.Data.List.Basic
import OpenIotRsp.Library.Run

/-!
# Programs over shared state

A program works on shared state through atomic actions and asks for answers
from outside.  Several of them run at once: an event starts one, lets one do its
next action, or answers one.  Where a program can get to is said without the
others, by assuming anything of the values it reads.
-/

namespace Concurrent

/-- A program with errors in `ε`: actions in `A` return values in `V`, queries in `Q` are answered
in `R`. -/
inductive Program (ε A V Q R α : Type) where
  | done (result : Except ε α)
  | act (action : A) (next : V → Program ε A V Q R α)
  | call (query : Q) (next : R → Program ε A V Q R α)

namespace Program

variable {ε A V Q R α β : Type}

def bind : Program ε A V Q R α → (α → Program ε A V Q R β) → Program ε A V Q R β
  | done (.ok a), k => k a
  | done (.error e), _ => done (.error e)
  | act action next, k => act action fun v => (next v).bind k
  | call query next, k => call query fun r => (next r).bind k

instance : Monad (Program ε A V Q R) where
  pure a := done (.ok a)
  bind := bind

def ofExcept (r : Except ε α) : Program ε A V Q R α := done r

def fail (e : ε) : Program ε A V Q R α := done (.error e)

/-- The query that the program waits for. -/
def query? : Program ε A V Q R α → Option Q
  | call query _ => some query
  | _ => none

@[simp]
theorem done_ok_bind (a : α) (k : α → Program ε A V Q R β) :
    (done (.ok a) >>= k : Program ε A V Q R β) = k a := rfl

@[simp]
theorem done_error_bind (e : ε) (k : α → Program ε A V Q R β) :
    (done (.error e) >>= k : Program ε A V Q R β) = done (.error e) := rfl

@[simp]
theorem act_bind (action : A) (next : V → Program ε A V Q R α) (k : α → Program ε A V Q R β) :
    (act action next >>= k : Program ε A V Q R β) = act action fun v => next v >>= k := rfl

@[simp]
theorem call_bind (query : Q) (next : R → Program ε A V Q R α) (k : α → Program ε A V Q R β) :
    (call query next >>= k : Program ε A V Q R β) = call query fun r => next r >>= k := rfl

@[simp]
theorem pure_eq (a : α) : (pure a : Program ε A V Q R α) = done (.ok a) := rfl

/-- The program can get from one point to another if answers are as assumed. -/
inductive Reaches (rely : Q → R → Prop) (p : Program ε A V Q R α) : Program ε A V Q R α → Prop
  | refl : Reaches rely p p
  | act {action : A} {next : V → Program ε A V Q R α} (v : V)
      (h : Reaches rely p (.act action next)) : Reaches rely p (next v)
  | call {query : Q} {next : R → Program ε A V Q R α} {r : R}
      (h : Reaches rely p (.call query next)) (hr : rely query r) : Reaches rely p (next r)

variable {rely : Q → R → Prop} {p q : Program ε A V Q R α}

theorem Reaches.trans {p' : Program ε A V Q R α} (h : Reaches rely p q) (h' : Reaches rely q p') :
    Reaches rely p p' := by
  induction h' with
  | refl => exact h
  | act v _ ih => exact ih.act v
  | call _ hr ih => exact ih.call hr

theorem reaches_done {r : Except ε α} : Reaches rely (done r) q ↔ q = done r := by
  constructor
  · intro h
    induction h with
    | refl => rfl
    | act v _ ih => cases ih
    | call _ _ ih => cases ih
  · rintro rfl
    exact .refl

theorem reaches_act {action : A} {next : V → Program ε A V Q R α} :
    Reaches rely (act action next) q ↔ q = act action next ∨ ∃ v, Reaches rely (next v) q := by
  constructor
  · intro h
    induction h with
    | refl => exact .inl rfl
    | act v _ ih =>
        rcases ih with heq | ⟨v', ih⟩
        · obtain ⟨rfl, rfl⟩ := act.inj heq
          exact .inr ⟨v, .refl⟩
        · exact .inr ⟨v', ih.act v⟩
    | call _ hr ih =>
        rcases ih with heq | ⟨v', ih⟩
        · cases heq
        · exact .inr ⟨v', ih.call hr⟩
  · rintro (rfl | ⟨v, h⟩)
    · exact .refl
    · exact Reaches.trans (.act v .refl) h

theorem reaches_call {query : Q} {next : R → Program ε A V Q R α} :
    Reaches rely (call query next) q ↔
      q = call query next ∨ ∃ r, rely query r ∧ Reaches rely (next r) q := by
  constructor
  · intro h
    induction h with
    | refl => exact .inl rfl
    | act v _ ih =>
        rcases ih with heq | ⟨r, hr, ih⟩
        · cases heq
        · exact .inr ⟨r, hr, ih.act v⟩
    | call _ hr ih =>
        rcases ih with heq | ⟨r', hr', ih⟩
        · obtain ⟨rfl, rfl⟩ := call.inj heq
          exact .inr ⟨_, hr, .refl⟩
        · exact .inr ⟨r', hr', ih.call hr⟩
  · rintro (rfl | ⟨r, hr, h⟩)
    · exact .refl
    · exact Reaches.trans (.call .refl hr) h

/-- Whatever the program reads, every query it makes meets a condition and so does every result,
if answers are as assumed. -/
def Ensures (rely : Q → R → Prop) (asks : Q → Prop) (returns : α → Prop) :
    Program ε A V Q R α → Prop
  | done (.ok a) => returns a
  | done (.error _) => True
  | act _ next => ∀ v, (next v).Ensures rely asks returns
  | call query next => asks query ∧ ∀ r, rely query r → (next r).Ensures rely asks returns

section Ensures

variable {asks : Q → Prop} {returns : α → Prop}

theorem ensures_ofExcept {r : Except ε α} (h : ∀ a, r = .ok a → returns a) :
    (ofExcept r : Program ε A V Q R α).Ensures rely asks returns := by
  cases r with
  | ok a => exact h a rfl
  | error e => trivial

theorem Ensures.bind {m : Program ε A V Q R α} {k : α → Program ε A V Q R β} {returns' : β → Prop}
    (h : m.Ensures rely asks returns)
    (hk : ∀ a, returns a → (k a).Ensures rely asks returns') :
    (m >>= k).Ensures rely asks returns' := by
  induction m with
  | done result =>
      cases result with
      | ok a => exact hk a h
      | error e => trivial
  | act action next ih => exact fun v => ih v (h v)
  | call query next ih => exact ⟨h.1, fun r hr => ih r (h.2 r hr)⟩

/-- The condition holds of what is still to come at every point that is reached. -/
theorem Ensures.reaches (h : p.Ensures rely asks returns) (hreaches : Reaches rely p q) :
    q.Ensures rely asks returns := by
  induction hreaches with
  | refl => exact h
  | act v _ ih => exact ih v
  | call _ hr ih => exact ih.2 _ hr

end Ensures

end Program

/-! ## Pools -/

/-- The shared state and the programs that have been started, each with its request. -/
structure Pool (σ κ ε A V Q R α : Type) where
  state : σ
  threads : List (κ × Program ε A V Q R α)

/-- What happens next: a request arrives, a program does its next action, with an input from
outside such as the time, or a program is answered. -/
inductive Event (κ ι R : Type) where
  | start (request : κ)
  | step (thread : Nat) (input : ι)
  | answer (thread : Nat) (reply : R)

namespace Pool

variable {σ κ ι ε A V Q R α : Type} (exec : ι → A → σ → V × σ)
  (program : κ → Program ε A V Q R α)

def step (x : Pool σ κ ε A V Q R α) : Event κ ι R → Pool σ κ ε A V Q R α
  | .start request => { x with threads := x.threads ++ [(request, program request)] }
  | .step thread input =>
      match x.threads[thread]? with
      | some (request, .act action next) =>
          ⟨(exec input action x.state).2,
            x.threads.set thread (request, next (exec input action x.state).1)⟩
      | _ => x
  | .answer thread reply =>
      match x.threads[thread]? with
      | some (request, .call _ next) =>
          { x with threads := x.threads.set thread (request, next reply) }
      | _ => x

/-- The program that the event moves, after its move. -/
def moved (x : Pool σ κ ε A V Q R α) : Event κ ι R → Option (κ × Program ε A V Q R α)
  | .start request => some (request, program request)
  | .step thread input =>
      match x.threads[thread]? with
      | some (request, .act action next) => some (request, next (exec input action x.state).1)
      | _ => none
  | .answer thread reply =>
      match x.threads[thread]? with
      | some (request, .call _ next) => some (request, next reply)
      | _ => none

/-- The action that the event carries out. -/
def performed (x : Pool σ κ ε A V Q R α) : Event κ ι R → Option (κ × A)
  | .step thread _ =>
      match x.threads[thread]? with
      | some (request, .act action _) => some (request, action)
      | _ => none
  | _ => none

/-- The query with which the program that the event moves goes outside. -/
def issued (x : Pool σ κ ε A V Q R α) (event : Event κ ι R) : Option (κ × Q) :=
  (x.moved exec program event).bind fun thread => thread.2.query?.map fun query =>
    (thread.1, query)

/-- What a program that has finished has returned. -/
def result? (x : Pool σ κ ε A V Q R α) (thread : Nat) : Option (κ × Except ε α) :=
  match x.threads[thread]? with
  | some (request, .done result) => some (request, result)
  | _ => none

theorem result?_eq_some {x : Pool σ κ ε A V Q R α} {thread : Nat} {request : κ}
    {result : Except ε α} :
    x.result? thread = some (request, result) ↔
      x.threads[thread]? = some (request, .done result) := by
  rw [result?]
  split
  next hthread => simp [hthread]
  next hother =>
      constructor
      · exact nofun
      · exact fun h => absurd h (hother _ _)

/-- Requests and answers are as assumed. -/
def Admits (admissible : κ → Prop) (rely : Q → R → Prop) (x : Pool σ κ ε A V Q R α) :
    Event κ ι R → Prop
  | .start request => admissible request
  | .step _ _ => True
  | .answer thread reply => ∀ request query next,
      x.threads[thread]? = some (request, .call query next) → rely query reply

theorem admits_answer {admissible : κ → Prop} {rely : Q → R → Prop} {x : Pool σ κ ε A V Q R α}
    {thread : Nat} {reply : R}
    (h : ∀ query ∈ x.threads[thread]?.bind fun t => t.2.query?, rely query reply) :
    x.Admits (ι := ι) admissible rely (.answer thread reply) := by
  intro request query next hthread
  refine h query ?_
  rw [hthread]
  rfl

/-- Every program is at a point that it can get to, for an admissible request. -/
def Reachable (admissible : κ → Prop) (rely : Q → R → Prop) (x : Pool σ κ ε A V Q R α) : Prop :=
  ∀ thread ∈ x.threads, admissible thread.1 ∧ (program thread.1).Reaches rely thread.2

/-- A step changes the state by the action it performs. -/
theorem state_step (x : Pool σ κ ε A V Q R α) (event : Event κ ι R) :
    (x.step exec program event).state = x.state ∧ x.performed event = none ∨
      ∃ thread input request action next, event = .step thread input ∧
        x.threads[thread]? = some (request, .act action next) ∧
        x.performed event = some (request, action) ∧
        x.moved exec program event = some (request, next (exec input action x.state).1) ∧
        (x.step exec program event).state = (exec input action x.state).2 := by
  cases event with
  | start request => exact .inl ⟨rfl, rfl⟩
  | answer thread reply =>
      refine .inl ⟨?_, rfl⟩
      rw [step]
      split <;> rfl
  | step thread input =>
      cases hthread : x.threads[thread]? with
      | none => exact .inl ⟨by simp [step, hthread], by simp [performed, hthread]⟩
      | some entry =>
          obtain ⟨request, p⟩ := entry
          cases p with
          | done result => exact .inl ⟨by simp [step, hthread], by simp [performed, hthread]⟩
          | call query next => exact .inl ⟨by simp [step, hthread], by simp [performed, hthread]⟩
          | act action next =>
              exact .inr ⟨thread, input, request, action, next, rfl, hthread,
                by simp [performed, hthread], by simp [moved, hthread], by simp [step, hthread]⟩

/-- An event moves a new program, one that does an action, or one that is answered. -/
theorem moved_cases {x : Pool σ κ ε A V Q R α} {event : Event κ ι R} {request : κ}
    {p : Program ε A V Q R α} (h : x.moved exec program event = some (request, p)) :
    event = .start request ∧ p = program request ∨
      (∃ thread input action next, event = .step thread input ∧
        x.threads[thread]? = some (request, .act action next) ∧
        p = next (exec input action x.state).1) ∨
      ∃ thread reply query next, event = .answer thread reply ∧
        x.threads[thread]? = some (request, .call query next) ∧ p = next reply := by
  cases event with
  | start request' =>
      obtain ⟨rfl, rfl⟩ := Prod.mk.inj (Option.some.inj h)
      exact .inl ⟨rfl, rfl⟩
  | step thread input =>
      rw [moved] at h
      split at h
      next hthread =>
          obtain ⟨rfl, rfl⟩ := Prod.mk.inj (Option.some.inj h)
          exact .inr (.inl ⟨thread, input, _, _, rfl, hthread, rfl⟩)
      next => cases h
  | answer thread reply =>
      rw [moved] at h
      split at h
      next hthread =>
          obtain ⟨rfl, rfl⟩ := Prod.mk.inj (Option.some.inj h)
          exact .inr (.inr ⟨thread, reply, _, _, rfl, hthread, rfl⟩)
      next => cases h

theorem getElem?_set_cases {β : Type} {l : List β} {i j : Nat} {a b c : β} (hj : l[j]? = some c)
    (h : (l.set j a)[i]? = some b) : j = i ∧ a = b ∨ l[i]? = some b := by
  by_cases hi : j = i
  · subst hi
    rw [List.getElem?_set_self (List.getElem?_eq_some_iff.mp hj).1] at h
    exact .inl ⟨rfl, Option.some.inj h⟩
  · rw [List.getElem?_set_ne hi] at h
    exact .inr h

/-- A program of the next state is where it was, new, or moved by the event. -/
theorem thread_step {x : Pool σ κ ε A V Q R α} {event : Event κ ι R} {i : Nat} {request : κ}
    {p : Program ε A V Q R α} (h : (x.step exec program event).threads[i]? = some (request, p)) :
    x.threads[i]? = some (request, p) ∨
      (i = x.threads.length ∧ event = .start request ∧ p = program request) ∨
      (∃ input action next, event = .step i input ∧
        x.threads[i]? = some (request, .act action next) ∧ p = next (exec input action x.state).1) ∨
      ∃ reply query next, event = .answer i reply ∧
        x.threads[i]? = some (request, .call query next) ∧ p = next reply := by
  cases event with
  | start request' =>
      rw [step, List.getElem?_append] at h
      split at h
      next => exact .inl h
      next hi =>
          obtain ⟨hindex, hnew⟩ := List.getElem?_eq_some_iff.mp h
          obtain rfl : i = x.threads.length := by
            rw [List.length_singleton] at hindex
            omega
          simp only [Nat.sub_self, List.getElem_cons_zero, Prod.mk.injEq] at hnew
          obtain ⟨rfl, rfl⟩ := hnew
          exact .inr (.inl ⟨rfl, rfl, rfl⟩)
  | step thread input =>
      rw [step] at h
      split at h
      next hthread =>
          rcases getElem?_set_cases hthread h with ⟨rfl, ⟨⟩⟩ | hold
          · exact .inr (.inr (.inl ⟨input, _, _, rfl, hthread, rfl⟩))
          · exact .inl hold
      next => exact .inl h
  | answer thread reply =>
      rw [step] at h
      split at h
      next hthread =>
          rcases getElem?_set_cases hthread h with ⟨rfl, ⟨⟩⟩ | hold
          · exact .inr (.inr (.inr ⟨reply, _, _, rfl, hthread, rfl⟩))
          · exact .inl hold
      next => exact .inl h

/-- Programs that have been started stay. -/
theorem length_threads_step (x : Pool σ κ ε A V Q R α) (event : Event κ ι R) :
    x.threads.length ≤ (x.step exec program event).threads.length := by
  cases event with
  | start request => simp [step]
  | step thread input =>
      rw [step]
      split <;> simp
  | answer thread reply =>
      rw [step]
      split <;> simp

/-- A program that has finished stays as it is. -/
theorem finished_step {x : Pool σ κ ε A V Q R α} {i : Nat} {request : κ} {result : Except ε α}
    (h : x.threads[i]? = some (request, .done result)) (event : Event κ ι R) :
    (x.step exec program event).threads[i]? = some (request, .done result) := by
  have hlt : i < (x.step exec program event).threads.length :=
    Nat.lt_of_lt_of_le (List.getElem?_eq_some_iff.mp h).1 (length_threads_step exec program x event)
  obtain ⟨⟨request', p⟩, hthread⟩ : ∃ thread, (x.step exec program event).threads[i]? = some thread :=
    ⟨_, List.getElem?_eq_getElem hlt⟩
  rcases thread_step exec program hthread with hold | ⟨rfl, -, -⟩ | ⟨_, _, _, -, hold, -⟩ |
    ⟨_, _, _, -, hold, -⟩
  · rw [hthread, ← hold, h]
  · exact absurd (List.getElem?_eq_some_iff.mp h).1 (Nat.lt_irrefl _)
  · cases h.symm.trans hold
  · cases h.symm.trans hold

theorem performed_step {x : Pool σ κ ε A V Q R α} {i : Nat} {input : ι} {request : κ} {action : A}
    (h : x.performed (.step i input : Event κ ι R) = some (request, action)) :
    ∃ next, x.threads[i]? = some (request, .act action next) := by
  rw [performed] at h
  split at h
  next hthread =>
      obtain ⟨rfl, rfl⟩ := Prod.mk.inj (Option.some.inj h)
      exact ⟨_, hthread⟩
  next => cases h

variable {exec program} {admissible : κ → Prop} {rely : Q → R → Prop} {x : Pool σ κ ε A V Q R α}
  {event : Event κ ι R}

/-- Programs stay at points they can get to. -/
theorem Reachable.step (h : Reachable program admissible rely x)
    (hadmits : Admits admissible rely x event) :
    Reachable program admissible rely (x.step exec program event) := by
  rintro ⟨request, p⟩ hmem
  obtain ⟨i, hthread⟩ := List.getElem?_of_mem hmem
  rcases thread_step exec program hthread with hold | ⟨-, rfl, rfl⟩ |
    ⟨input, action, next, rfl, hold, rfl⟩ | ⟨reply, query, next, rfl, hold, rfl⟩
  · exact h _ (List.mem_of_getElem? hold)
  · exact ⟨hadmits, .refl⟩
  · obtain ⟨hadmissible, hreaches⟩ := h _ (List.mem_of_getElem? hold)
    exact ⟨hadmissible, hreaches.act _⟩
  · obtain ⟨hadmissible, hreaches⟩ := h _ (List.mem_of_getElem? hold)
    exact ⟨hadmissible, hreaches.call (hadmits _ _ _ hold)⟩

theorem Reachable.performed (h : Reachable program admissible rely x) {request : κ} {action : A}
    (hperformed : x.performed event = some (request, action)) :
    admissible request ∧ ∃ next, (program request).Reaches rely (.act action next) := by
  cases event with
  | step i input =>
      obtain ⟨next, hthread⟩ := performed_step hperformed
      obtain ⟨hadmissible, hreaches⟩ := h _ (List.mem_of_getElem? hthread)
      exact ⟨hadmissible, next, hreaches⟩
  | start request' => cases hperformed
  | answer i reply => cases hperformed

end Pool

end Concurrent
