import Mathlib.Logic.Function.Basic
import OpenIotRsp.Library.Stateful

/-!
# Effects on an observation

A computation that succeeds from every state with a property, keeps the property
and changes an observation of the state by a function.  The rules compose such
effects; a loop composes those of its steps.
-/

namespace Stateful

variable {σ ε α γ : Type} {P : σ → Prop} {f : σ → γ} {m : Stateful σ ε α} {w w' : γ → γ}

/-- From a state with the property the computation succeeds, the property is kept, and the
observation is changed by the function. -/
def Changes (P : σ → Prop) (f : σ → γ) (m : Stateful σ ε Unit) (w : γ → γ) : Prop :=
  ∀ s, P s → (m s).1 = .ok () ∧ P (m s).2 ∧ f (m s).2 = w (f s)

theorem changes_pure : Changes P f (pure () : Stateful σ ε Unit) id := fun _ hs => ⟨rfl, hs, rfl⟩

theorem changes_modify {g : σ → σ} (h : ∀ s, P s → P (g s) ∧ f (g s) = w (f s)) :
    Changes P f (modify g : Stateful σ ε Unit) w :=
  fun s hs => ⟨rfl, h s hs⟩

theorem Changes.bind {m : Stateful σ ε Unit} {k : Unit → Stateful σ ε Unit} (hm : Changes P f m w)
    (hk : ∀ u, Changes P f (k u) w') : Changes P f (m >>= k) (w' ∘ w) := by
  intro s hs
  obtain ⟨hok, hkept, heffect⟩ := hm s hs
  rw [bind_of_ok (Prod.ext hok rfl)]
  obtain ⟨hok', hkept', heffect'⟩ := hk () _ hkept
  exact ⟨hok', hkept', heffect'.trans (congrArg w' heffect)⟩

/-- After a reading part, the rest may depend on what was read; so may its effect. -/
theorem changes_read {k : α → Stateful σ ε Unit}
    (h : ∀ s, P s → ∃ a w', m s = (.ok a, s) ∧ Changes P f (k a) w' ∧ w' (f s) = w (f s)) :
    Changes P f (m >>= k) w := by
  intro s hs
  obtain ⟨a, w', hrun, hk, hw⟩ := h s hs
  rw [bind_of_ok hrun, ← hw]
  exact hk s hs

theorem Changes.congr {m : Stateful σ ε Unit} (hm : Changes P f m w)
    (hw : ∀ s, P s → w (f s) = w' (f s)) : Changes P f m w' := by
  intro s hs
  rw [← hw s hs]
  exact hm s hs

theorem Changes.ite {p : Prop} [Decidable p] {m n : Stateful σ ε Unit} (hm : p → Changes P f m w)
    (hn : ¬ p → Changes P f n w') : Changes P f (if p then m else n) (if p then w else w') := by
  split
  next h => exact hm h
  next h => exact hn h

theorem Changes.forM {xs : List α} {body : α → Stateful σ ε Unit} {w : α → γ → γ}
    (hbody : ∀ x ∈ xs, Changes P f (body x) (w x)) :
    Changes P f (xs.forM body) fun c => xs.foldl (fun c x => w x c) c := by
  induction xs with
  | nil => exact changes_pure
  | cons x xs ih =>
      exact (hbody x (by simp)).bind fun _ =>
        ih fun y hy => hbody y (List.mem_cons_of_mem x hy)

/-- A loop that passes over some of its elements. -/
theorem Changes.forM_filter {xs : List α} {p : α → Prop} [DecidablePred p]
    {body : α → Stateful σ ε Unit} {w : α → γ → γ}
    (hbody : ∀ x ∈ xs, p x → Changes P f (body x) (w x)) :
    Changes P f (xs.forM fun x => if p x then body x else pure ())
      fun c => (xs.filter p).foldl (fun c x => w x c) c := by
  refine (Changes.forM (w := fun x => if p x then w x else id) fun x hx =>
    Changes.ite (hbody x hx) fun _ => changes_pure).congr fun s _ => ?_
  rw [List.foldl_filter]
  congr 1
  funext c x
  by_cases hx : p x
  · simp [hx]
  · simp [hx]

/-! ## On success

A computation that may fail is described by what it does when it succeeds. -/

section

variable {β : Type}

/-- Where the computation succeeds, the observation is changed by the function. -/
def Writes (f : σ → γ) (m : Stateful σ ε α) (w : γ → γ) : Prop :=
  ∀ s a s', m s = (.ok a, s') → f s' = w (f s)

theorem Keeps.writes (hm : Keeps f m) : Writes f m id := by
  intro s a s' hrun
  have hkept := hm s
  rwa [hrun] at hkept

theorem writes_fail (e : ε) (w : γ → γ) : Writes f (fail e : Stateful σ ε α) w := by
  intro s a s' hrun
  cases hrun

theorem Writes.bind {k : α → Stateful σ ε β} (hm : Writes f m w) (hk : ∀ a, Writes f (k a) w') :
    Writes f (m >>= k) (w' ∘ w) := by
  intro s b s'' hrun
  obtain ⟨a, s', hfirst, hrest⟩ := bind_eq_ok hrun
  exact (hk a s' b s'' hrest).trans (congrArg w' (hm s a s' hfirst))

theorem Keeps.bind_writes {k : α → Stateful σ ε β} (hm : Keeps f m) (hk : ∀ a, Writes f (k a) w) :
    Writes f (m >>= k) w :=
  hm.writes.bind hk

theorem Writes.bind_keeps {k : α → Stateful σ ε β} (hm : Writes f m w) (hk : ∀ a, Keeps f (k a)) :
    Writes f (m >>= k) w :=
  hm.bind fun a => (hk a).writes

theorem Writes.forM {xs : List α} {body : α → Stateful σ ε Unit} {w : α → γ → γ}
    (hbody : ∀ x ∈ xs, Writes f (body x) (w x)) :
    Writes f (xs.forM body) fun c => xs.foldl (fun c x => w x c) c := by
  induction xs with
  | nil => exact (keeps_pure f ()).writes
  | cons x xs ih =>
      exact (hbody x List.mem_cons_self).bind fun _ =>
        ih fun y hy => hbody y (List.mem_cons_of_mem x hy)

end

end Stateful

namespace Function

/-- Writing one entry after the other leaves the last one written under each key. -/
theorem foldl_update {κ α β : Type} [DecidableEq κ] (key : α → κ) (value : α → β) (xs : List α)
    (m : κ → β) (k : κ) :
    xs.foldl (fun m x => update m (key x) (value x)) m k =
      ((xs.reverse.find? fun x => key x = k).map value).getD (m k) := by
  induction xs generalizing m with
  | nil => rfl
  | cons x xs ih =>
      rw [List.foldl_cons, ih, List.reverse_cons, List.find?_append]
      cases xs.reverse.find? fun x => key x = k with
      | some y => rfl
      | none =>
          by_cases h : key x = k
          · simp [h]
          · simp [h, update_of_ne (Ne.symm h)]

/-- Adding one element after the other. -/
theorem foldl_or {κ α : Type} (key : α → κ) (xs : List α) (p : κ → Prop) (k : κ) :
    xs.foldl (fun p x k => p k ∨ k = key x) p k ↔ p k ∨ ∃ x ∈ xs, k = key x := by
  induction xs generalizing p with
  | nil => simp
  | cons x xs ih => simp [ih, or_assoc]

end Function
