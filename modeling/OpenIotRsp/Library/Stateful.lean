import OpenIotRsp.Library.Outcome

/-!
# Failing computations over a state

A computation returns a value or an error, and the state it has reached in
either case: what was written before a failure stays written.  The rules say
which observations of the state a computation keeps.
-/

def Stateful (σ ε α : Type) : Type := σ → Except ε α × σ

namespace Stateful

variable {σ ε α β γ : Type} {m : Stateful σ ε α} {k : α → Stateful σ ε β} {f : σ → γ} {s s' : σ}

instance : Monad (Stateful σ ε) where
  pure a := fun s => (.ok a, s)
  bind m k := fun s =>
    match m s with
    | (.ok a, s') => k a s'
    | (.error e, s') => (.error e, s')

/-- A result without an effect. -/
def ofExcept (r : Except ε α) : Stateful σ ε α := fun s => (r, s)

def fail (e : ε) : Stateful σ ε α := ofExcept (.error e)

/-- Run to a result that is returned as a value, error or not. -/
def attempt (m : Stateful σ ε α) : Stateful σ ε (Except ε α) := fun s => (.ok (m s).1, (m s).2)

def get (f : σ → α) : Stateful σ ε α := fun s => (.ok (f s), s)

def modify (f : σ → σ) : Stateful σ ε Unit := fun s => (.ok (), f s)

@[simp]
theorem pure_apply (a : α) (s : σ) : (pure a : Stateful σ ε α) s = (.ok a, s) := rfl

@[simp]
theorem ofExcept_apply (r : Except ε α) (s : σ) : (ofExcept r : Stateful σ ε α) s = (r, s) := rfl

@[simp]
theorem fail_apply (e : ε) (s : σ) : (fail e : Stateful σ ε α) s = (.error e, s) := rfl

@[simp]
theorem attempt_apply (m : Stateful σ ε α) (s : σ) : attempt m s = (.ok (m s).1, (m s).2) := rfl

@[simp]
theorem get_apply (f : σ → α) (s : σ) : (get f : Stateful σ ε α) s = (.ok (f s), s) := rfl

@[simp]
theorem modify_apply (f : σ → σ) (s : σ) : (modify f : Stateful σ ε Unit) s = (.ok (), f s) := rfl

theorem bind_of_ok {a : α} (hm : m s = (.ok a, s')) : (m >>= k) s = k a s' := by
  change (match m s with
    | (.ok a, s') => k a s'
    | (.error e, s') => (.error e, s')) = _
  rw [hm]

theorem bind_of_error {e : ε} (hm : m s = (.error e, s')) : (m >>= k) s = (.error e, s') := by
  change (match m s with
    | (.ok a, s') => k a s'
    | (.error e, s') => (.error e, s')) = _
  rw [hm]

instance : LawfulMonad (Stateful σ ε) :=
  LawfulMonad.mk' (Stateful σ ε)
    (fun m => by
      funext s
      change (m >>= fun a => pure a) s = m s
      rcases hm : m s with ⟨a | e, s'⟩
      · rw [bind_of_error hm]
      · rw [bind_of_ok hm, pure_apply])
    (fun _ _ => rfl)
    (fun m k l => by
      funext s
      rcases hm : m s with ⟨e | a, s'⟩
      · rw [bind_of_error hm, bind_of_error (bind_of_error hm)]
      · rw [bind_of_ok hm]
        rcases hk : k a s' with ⟨e | b, s''⟩
        · rw [bind_of_error hk, bind_of_error ((bind_of_ok hm).trans hk)]
        · rw [bind_of_ok hk, bind_of_ok ((bind_of_ok hm).trans hk)])

@[simp]
theorem get_bind (f : σ → α) (k : α → Stateful σ ε β) (s : σ) :
    (get f >>= k) s = k (f s) s := rfl

@[simp]
theorem modify_bind (f : σ → σ) (k : Unit → Stateful σ ε β) (s : σ) :
    (modify f >>= k) s = k () (f s) := rfl

@[simp]
theorem attempt_bind (m : Stateful σ ε α) (k : Except ε α → Stateful σ ε β) (s : σ) :
    (attempt m >>= k) s = k (m s).1 (m s).2 := rfl

@[simp]
theorem fail_bind (e : ε) (k : α → Stateful σ ε β) (s : σ) :
    (fail e >>= k) s = (.error e, s) := rfl

/-- A sequence succeeds when both parts do. -/
theorem bind_eq_ok {s s'' : σ} {b : β} (h : (m >>= k) s = (.ok b, s'')) :
    ∃ a s', m s = (.ok a, s') ∧ k a s' = (.ok b, s'') := by
  rcases hm : m s with ⟨r, s'⟩
  cases r with
  | ok a => exact ⟨a, s', rfl, (bind_of_ok hm).symm.trans h⟩
  | error e =>
      rw [bind_of_error hm] at h
      cases h

/-- A sequence fails when one of its parts does. -/
theorem bind_eq_error {s s'' : σ} {e : ε} (h : (m >>= k) s = (.error e, s'')) :
    m s = (.error e, s'') ∨ ∃ a s', m s = (.ok a, s') ∧ k a s' = (.error e, s'') := by
  rcases hm : m s with ⟨r, s'⟩
  cases r with
  | ok a => exact .inr ⟨a, s', rfl, (bind_of_ok hm).symm.trans h⟩
  | error e' =>
      rw [bind_of_error hm] at h
      cases h
      exact .inl rfl

theorem map_eq_error_iff {g : α → β} {e : ε} :
    (do return g (← m) : Stateful σ ε β) s = (.error e, s') ↔ m s = (.error e, s') := by
  rcases hm : m s with ⟨r, t⟩
  cases r with
  | ok a => rw [bind_of_ok hm, pure_apply, Prod.mk.injEq, Prod.mk.injEq]; simp
  | error e' => rw [bind_of_error hm, Prod.mk.injEq, Prod.mk.injEq]; simp

theorem listForM_cons (x : α) (xs : List α) (body : α → Stateful σ ε Unit) :
    (x :: xs).forM body = (do body x; xs.forM body) := rfl

theorem listForM_map (g : β → α) (xs : List β) (body : α → Stateful σ ε Unit) :
    (xs.map g).forM body = xs.forM fun x => body (g x) := by
  induction xs with
  | nil => rfl
  | cons x xs ih => rw [List.map_cons, listForM_cons, listForM_cons, ih]

/-- A loop that passes over some elements is the loop over the others. -/
theorem listForM_ite_pure {p : α → Prop} [DecidablePred p] (xs : List α) (body : α → Stateful σ ε Unit) :
    (xs.forM fun x => if p x then pure () else body x) =
      (xs.filter fun x => ¬ p x).forM body := by
  induction xs with
  | nil => rfl
  | cons x xs ih =>
      rw [listForM_cons, ih]
      by_cases hx : p x
      · rw [if_pos hx, pure_bind, List.filter_cons_of_neg (by simpa using hx)]
      · rw [if_neg hx, List.filter_cons_of_pos (by simpa using hx), listForM_cons]

theorem ofExcept_bind_of_ok {r : Except ε α} {a : α} (k : α → Stateful σ ε β) (s : σ)
    (hr : r = .ok a) : ((ofExcept r : Stateful σ ε α) >>= k) s = k a s :=
  bind_of_ok (by rw [ofExcept_apply, hr])

theorem ofExcept_bind_of_error {r : Except ε α} {e : ε} (k : α → Stateful σ ε β) (s : σ)
    (hr : r = .error e) : ((ofExcept r : Stateful σ ε α) >>= k) s = (.error e, s) :=
  bind_of_error (by rw [ofExcept_apply, hr])

/-! ## Kept observations -/

/-- Whatever the outcome, the observation of the state is the same afterwards. -/
def Keeps (f : σ → γ) (m : Stateful σ ε α) : Prop :=
  ∀ s, f (m s).2 = f s

theorem keeps_pure (f : σ → γ) (a : α) : Keeps f (pure a : Stateful σ ε α) := fun _ => rfl

theorem keeps_ofExcept (f : σ → γ) (r : Except ε α) : Keeps f (ofExcept r : Stateful σ ε α) :=
  fun _ => rfl

theorem keeps_fail (f : σ → γ) (e : ε) : Keeps f (fail e : Stateful σ ε α) := fun _ => rfl

theorem keeps_get (f : σ → γ) (g : σ → α) : Keeps f (get g : Stateful σ ε α) := fun _ => rfl

theorem keeps_modify {g : σ → σ} (h : ∀ s, f (g s) = f s) :
    Keeps f (modify g : Stateful σ ε Unit) := h

theorem Keeps.attempt (hm : Keeps f m) : Keeps f (attempt m) := hm

/-- The second part may use that the first one returned its argument. -/
theorem Keeps.bind_of_result (hm : Keeps f m) (hk : ∀ s a, (m s).1 = .ok a → Keeps f (k a)) :
    Keeps f (m >>= k) := by
  intro s
  rcases hrun : m s with ⟨r, s'⟩
  have hkept : f s' = f s := by simpa [hrun] using hm s
  cases r with
  | ok a => rw [bind_of_ok hrun, hk s a (by rw [hrun]) s', hkept]
  | error e => rw [bind_of_error hrun, hkept]

theorem Keeps.bind (hm : Keeps f m) (hk : ∀ a, Keeps f (k a)) : Keeps f (m >>= k) :=
  hm.bind_of_result fun _ a _ => hk a

theorem Keeps.ite {p : Prop} [Decidable p] {m n : Stateful σ ε α} (hm : p → Keeps f m)
    (hn : ¬ p → Keeps f n) : Keeps f (if p then m else n) := by
  split
  next h => exact hm h
  next h => exact hn h

theorem Keeps.forM {xs : List α} {body : α → Stateful σ ε Unit} (hbody : ∀ x ∈ xs, Keeps f (body x)) :
    Keeps f (xs.forM body) := by
  induction xs with
  | nil => exact keeps_pure f ()
  | cons x xs ih =>
      exact (hbody x (by simp)).bind fun _ => ih fun y hy => hbody y (List.mem_cons_of_mem x hy)

theorem Keeps.mapM {xs : List α} {body : α → Stateful σ ε β} (hbody : ∀ x ∈ xs, Keeps f (body x)) :
    Keeps f (xs.mapM body) := by
  induction xs with
  | nil => exact keeps_pure f []
  | cons x xs ih =>
      rw [List.mapM_cons]
      exact (hbody x (by simp)).bind fun _ =>
        (ih fun y hy => hbody y (List.mem_cons_of_mem x hy)).bind fun _ => keeps_pure f _

/-- A loop keeps a property of the state that each of its steps keeps. -/
theorem mapM_invariant {P : σ → Prop} {xs : List α} {body : α → Stateful σ ε β}
    (hbody : ∀ x ∈ xs, ∀ s, P s → P (body x s).2) (s : σ) (hs : P s) : P (xs.mapM body s).2 := by
  induction xs generalizing s with
  | nil => exact hs
  | cons x xs ih =>
      have hx : P (body x s).2 := hbody x List.mem_cons_self s hs
      rw [List.mapM_cons]
      rcases hrun : body x s with ⟨r, s'⟩
      rw [hrun] at hx
      cases r with
      | error e => rwa [bind_of_error hrun]
      | ok b =>
          rw [bind_of_ok hrun]
          have hxs : P (xs.mapM body s').2 :=
            ih (fun y hy => hbody y (List.mem_cons_of_mem x hy)) s' hx
          rcases hrest : xs.mapM body s' with ⟨r, s''⟩
          rw [hrest] at hxs
          cases r with
          | error e => rwa [bind_of_error hrest]
          | ok bs => rwa [bind_of_ok hrest]

/-! ## Kept observations at one state -/

/-- The observation is kept by a run from the given state. -/
def KeepsAt (f : σ → γ) (m : Stateful σ ε α) (s : σ) : Prop :=
  f (m s).2 = f s

/-- A computation that leaves the state as it is. -/
def ReadOnly (m : Stateful σ ε α) : Prop := ∀ s, (m s).2 = s

theorem ReadOnly.keeps (hm : ReadOnly m) (f : σ → γ) : Keeps f m :=
  fun s => congrArg f (hm s)

theorem KeepsAt.bind {s : σ} (hm : KeepsAt f m s)
    (hk : ∀ a s', m s = (.ok a, s') → KeepsAt f (k a) s') : KeepsAt f (m >>= k) s := by
  rcases hrun : m s with ⟨r, s'⟩
  have hkept : f s' = f s := by simpa [KeepsAt, hrun] using hm
  rw [KeepsAt]
  cases r with
  | ok a => rw [bind_of_ok hrun, hk a s' hrun, hkept]
  | error e => rw [bind_of_error hrun, hkept]

/-- After a reading part the rest runs from the same state. -/
theorem ReadOnly.keepsAt_bind {s : σ} (hm : ReadOnly m)
    (hk : ∀ a, (m s).1 = .ok a → KeepsAt f (k a) s) : KeepsAt f (m >>= k) s := by
  refine KeepsAt.bind (congrArg f (hm s)) fun a s' hrun => ?_
  obtain rfl : s' = s := by simpa [hrun] using hm s
  exact hk a (by rw [hrun])

/-- A rest that keeps the observation leaves that of the part before it. -/
theorem keeps_rest (hk : ∀ a, Keeps f (k a)) (s : σ) : f ((m >>= k) s).2 = f (m s).2 := by
  rcases hrun : m s with ⟨r, s'⟩
  cases r with
  | ok a => rw [bind_of_ok hrun, hk a s']
  | error e => rw [bind_of_error hrun]

/-- A reading part at the end leaves the state of the part before it. -/
theorem bind_state_of_readOnly (hk : ∀ a, ReadOnly (k a)) (s : σ) : ((m >>= k) s).2 = (m s).2 :=
  keeps_rest (f := id) hk s

/-- A reading part fails, or hands its result to the rest. -/
theorem ReadOnly.bind_cases (hm : ReadOnly m) (k : α → Stateful σ ε β) (s : σ) :
    (∃ e, (m >>= k) s = (.error e, s)) ∨ ∃ a, (m s).1 = .ok a ∧ (m >>= k) s = k a s := by
  rcases hrun : m s with ⟨r, s'⟩
  obtain rfl : s' = s := by simpa [hrun] using hm s
  cases r with
  | ok a => exact .inr ⟨a, rfl, bind_of_ok hrun⟩
  | error e => exact .inl ⟨e, bind_of_error hrun⟩

theorem readOnly_ofExcept (r : Except ε α) : ReadOnly (ofExcept r : Stateful σ ε α) := fun _ => rfl

/-- A sequence that starts with a reading part succeeds when the rest does, from the same state. -/
theorem ReadOnly.bind_eq_ok {b : β} (hm : ReadOnly m) (h : (m >>= k) s = (.ok b, s')) :
    ∃ a, (m s).1 = .ok a ∧ k a s = (.ok b, s') := by
  obtain ⟨a, t, hrun, hk⟩ := Stateful.bind_eq_ok h
  obtain rfl : t = s := by simpa [hrun] using hm s
  exact ⟨a, by rw [hrun], hk⟩

theorem ReadOnly.bind_eq_error {e : ε} (hm : ReadOnly m) (h : (m >>= k) s = (.error e, s')) :
    (m s).1 = .error e ∨ ∃ a, (m s).1 = .ok a ∧ k a s = (.error e, s') := by
  rcases Stateful.bind_eq_error h with hrun | ⟨a, t, hrun, hk⟩
  · exact .inl (by rw [hrun])
  · obtain rfl : t = s := by simpa [hrun] using hm s
    exact .inr ⟨a, by rw [hrun], hk⟩

/-- Where `m` succeeds or fails with one of the errors, `m'` does the same. -/
def Follows (Q : ε → Prop) (m m' : Stateful σ ε α) (s : σ) : Prop :=
  Outcome.FailsWith Q (m s).1 → m' s = m s

variable {Q : ε → Prop}

theorem Follows.refl (m : Stateful σ ε α) (s : σ) : Follows Q m m s := fun _ => rfl

theorem Follows.congr {m m' n n' : Stateful σ ε α} {s : σ} (hm : m s = n s) (hm' : m' s = n' s)
    (h : Follows Q n n' s) : Follows Q m m' s := by
  rwa [Follows, hm, hm']

theorem follows_of_error {m m' : Stateful σ ε α} {e : ε} (hm : m s = (.error e, s')) (he : ¬ Q e) :
    Follows Q m m' s := by
  intro hfails
  exact absurd (hfails e (by rw [hm])) he

theorem Follows.bind {m m' : Stateful σ ε α} {k k' : α → Stateful σ ε β} {s : σ}
    (hm : Follows Q m m' s) (hk : ∀ a s', m s = (.ok a, s') → Follows Q (k a) (k' a) s') :
    Follows Q (m >>= k) (m' >>= k') s := by
  intro hfails
  rcases hrun : m s with ⟨r, s'⟩
  cases r with
  | error e =>
      have herror : (m >>= k) s = (.error e, s') := bind_of_error hrun
      have hrun' : m' s = (.error e, s') := by
        rw [← hrun]
        refine hm fun e' he' => hfails e' ?_
        rw [hrun] at he'
        rw [herror, Except.error.inj he']
      rw [herror, bind_of_error hrun']
  | ok a =>
      have hrun' : m' s = (.ok a, s') := by
        rw [← hrun]
        exact hm fun e' he' => nomatch hrun ▸ he'
      have hrest : (m >>= k) s = k a s' := bind_of_ok hrun
      rw [hrest] at hfails ⊢
      rw [bind_of_ok hrun', hk a s' hrun hfails]

theorem follows_ofExcept_bind {r : Except ε α} {k k' : α → Stateful σ ε β} {s : σ}
    (hk : ∀ a, r = .ok a → Follows Q (k a) (k' a) s) :
    Follows Q (ofExcept r >>= k) (ofExcept r >>= k') s := by
  refine (Follows.refl (ofExcept r) s).bind fun a s' h => ?_
  obtain ⟨hr, rfl⟩ := Prod.mk.inj h
  exact hk a hr

end Stateful
