import OpenIotRsp.Library.Run
import OpenIotRsp.Library.Stateful

/-!
# Simulation

Two systems that answer the same requests from states of their own.  If from
related states they give the same value or fail with related errors, and leave
related states, their answers agree along every run.
-/

namespace Stateful

variable {σ τ ε η α β ι : Type}

/-- The same value, or related errors. -/
inductive Agree (E : ε → η → Prop) : Except ε α → Except η α → Prop where
  | ok (a : α) : Agree E (.ok a) (.ok a)
  | error {e : ε} {e' : η} (h : E e e') : Agree E (.error e) (.error e')

/-- From the two states, the computations agree and leave related states. -/
structure Matches (R : σ → τ → Prop) (E : ε → η → Prop) (m : Stateful σ ε α)
    (m' : Stateful τ η α) (s : σ) (t : τ) : Prop where
  agree : Agree E (m s).1 (m' t).1
  related : R (m s).2 (m' t).2

variable {R : σ → τ → Prop} {E : ε → η → Prop} {m : Stateful σ ε α} {m' : Stateful τ η α}
  {s s' : σ} {t t' : τ}

theorem matches_of_ok {a : α} (hm : m s = (.ok a, s')) (hm' : m' t = (.ok a, t')) (h : R s' t') :
    Matches R E m m' s t := by
  refine ⟨?_, ?_⟩
  · rw [hm, hm']
    exact .ok a
  · rwa [hm, hm']

theorem matches_of_error {e : ε} {e' : η} (hm : m s = (.error e, s'))
    (hm' : m' t = (.error e', t')) (he : E e e') (h : R s' t') : Matches R E m m' s t := by
  refine ⟨?_, ?_⟩
  · rw [hm, hm']
    exact .error he
  · rwa [hm, hm']

theorem Matches.congr {n : Stateful σ ε α} {n' : Stateful τ η α} (h : Matches R E n n' s' t')
    (hm : m s = n s') (hm' : m' t = n' t') : Matches R E m m' s t := by
  refine ⟨?_, ?_⟩
  · rw [hm, hm']
    exact h.agree
  · rw [hm, hm']
    exact h.related

/-- Both succeed with a value and leave related states, or both fail. -/
theorem Matches.cases (h : Matches R E m m' s t) :
    (∃ a s' t', m s = (.ok a, s') ∧ m' t = (.ok a, t') ∧ R s' t') ∨
      ∃ e e' s' t', m s = (.error e, s') ∧ m' t = (.error e', t') ∧ E e e' ∧ R s' t' := by
  obtain ⟨hagree, hrelated⟩ := h
  rcases hm : m s with ⟨r, s'⟩
  rcases hm' : m' t with ⟨r', t'⟩
  rw [hm, hm'] at hagree hrelated
  cases hagree with
  | ok a => exact .inl ⟨a, s', t', rfl, rfl, hrelated⟩
  | error he => exact .inr ⟨_, _, s', t', rfl, rfl, he, hrelated⟩

theorem Matches.bind {k : α → Stateful σ ε β} {k' : α → Stateful τ η β}
    (hm : Matches R E m m' s t) (hk : ∀ a s' t', R s' t' → Matches R E (k a) (k' a) s' t') :
    Matches R E (m >>= k) (m' >>= k') s t := by
  rcases hm.cases with ⟨a, s', t', hs, ht, hrelated⟩ | ⟨e, e', s', t', hs, ht, he, hrelated⟩
  · exact (hk a s' t' hrelated).congr (bind_of_ok hs) (bind_of_ok ht)
  · exact matches_of_error (bind_of_error hs) (bind_of_error ht) he hrelated

theorem matches_pure (h : R s t) (a : α) :
    Matches R E (pure a : Stateful σ ε α) (pure a : Stateful τ η α) s t :=
  matches_of_ok rfl rfl h

/-- The same conversion of the results. -/
theorem Matches.map (hm : Matches R E m m' s t) (g : α → β) :
    Matches R E (do return g (← m)) (do return g (← m')) s t :=
  hm.bind fun _ _ _ hrelated => matches_pure hrelated _

/-! ## Runs -/

/-- The answers to requests, one after the other. -/
def answers (run : ι → Stateful σ ε α) : σ → List ι → List (Except ε α)
  | _, [] => []
  | s, request :: requests => (run request s).1 :: answers run (run request s).2 requests

/-- Systems that agree on every request that meets the condition agree on every run of such
requests. -/
theorem answers_agree {run : ι → Stateful σ ε α} {run' : ι → Stateful τ η α}
    {condition : σ → ι → Prop}
    (hstep : ∀ s t request, R s t → condition s request →
      Matches R E (run request) (run' request) s t)
    {requests : List ι}
    (hrequests : Run.Meets (fun s request => (run request s).2) condition s requests)
    (h : R s t) :
    List.Forall₂ (Agree E) (answers run s requests) (answers run' t requests) := by
  induction requests generalizing s t with
  | nil => exact .nil
  | cons request requests ih =>
      obtain ⟨hrequest, hrequests⟩ := hrequests
      have hmatch := hstep s t request h hrequest
      exact .cons hmatch.agree (ih hrequests hmatch.related)

end Stateful
