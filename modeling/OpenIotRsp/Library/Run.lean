import Mathlib.Data.List.Basic

/-!
# Runs

A system that takes one event after the other.  A condition on events says in
which states they may happen; an invariant that every such event keeps holds
after every run of them.
-/

namespace Run

variable {σ ε : Type} (step : σ → ε → σ) {condition : σ → ε → Prop}

/-- The state after the events. -/
def after (s : σ) (events : List ε) : σ := events.foldl step s

/-- Every event of the run meets the condition in the state in which it happens. -/
def Meets (condition : σ → ε → Prop) : σ → List ε → Prop
  | _, [] => True
  | s, event :: events => condition s event ∧ Meets condition (step s event) events

def decidableMeets [∀ s event, Decidable (condition s event)] :
    ∀ (s : σ) (events : List ε), Decidable (Meets step condition s events)
  | _, [] => .isTrue trivial
  | s, event :: events => @instDecidableAnd _ _ _ (decidableMeets (step s event) events)

instance {condition : σ → ε → Prop} [∀ s event, Decidable (condition s event)] (s : σ)
    (events : List ε) : Decidable (Meets step condition s events) :=
  decidableMeets step s events

@[simp]
theorem after_nil (s : σ) : after step s [] = s := rfl

@[simp]
theorem after_cons (s : σ) (event : ε) (events : List ε) :
    after step s (event :: events) = after step (step s event) events := rfl

theorem after_append (s : σ) (events events' : List ε) :
    after step s (events ++ events') = after step (after step s events) events' :=
  List.foldl_append

variable {step}

theorem meets_append {s : σ} {events events' : List ε} :
    Meets step condition s (events ++ events') ↔
      Meets step condition s events ∧ Meets step condition (after step s events) events' := by
  induction events generalizing s with
  | nil => simp [Meets]
  | cons event events ih => simp [Meets, ih, and_assoc]

theorem Meets.and {condition condition' : σ → ε → Prop} {s : σ} {events : List ε}
    (h : Meets step condition s events) (h' : Meets step condition' s events) :
    Meets step (fun s event => condition s event ∧ condition' s event) s events := by
  induction events generalizing s with
  | nil => trivial
  | cons event events ih => exact ⟨⟨h.1, h'.1⟩, ih h.2 h'.2⟩

/-- A condition that does not depend on the state. -/
theorem meets_of_forall {condition : ε → Prop} {s : σ} {events : List ε}
    (h : ∀ event ∈ events, condition event) : Meets step (fun _ => condition) s events := by
  induction events generalizing s with
  | nil => trivial
  | cons event events ih =>
      exact ⟨h event List.mem_cons_self, ih fun e he => h e (List.mem_cons_of_mem event he)⟩

/-- An invariant holds after every run of events that keep it. -/
theorem Meets.invariant {P : σ → Prop}
    (hstep : ∀ s event, P s → condition s event → P (step s event)) {s : σ} {events : List ε}
    (h : Meets step condition s events) (hs : P s) : P (after step s events) := by
  induction events generalizing s with
  | nil => exact hs
  | cons event events ih => exact ih h.2 (hstep s event hs h.1)

/-- An invariant that every event keeps. -/
theorem invariant {P : σ → Prop} (hstep : ∀ s event, P s → P (step s event)) {s : σ} (hs : P s)
    (events : List ε) : P (after step s events) := by
  induction events generalizing s with
  | nil => exact hs
  | cons event events ih => exact ih (hstep s event hs)

end Run
