import Mathlib.Data.List.Basic

/-!
# Readers

A reader takes a value off the front of a string and returns what is left.  A
reader is local when the part it consumes decides its answer; what it consumes
is then a self-delimiting spelling of the value.
-/

namespace Reader

variable {σ α β : Type*} {p : List σ → Option (α × List σ)}

/-- `h` spells `a`: whatever follows `h`, the reader returns `a` and consumes `h`. -/
def Spells (p : List σ → Option (α × List σ)) (h : List σ) (a : α) : Prop :=
  ∀ r, p (h ++ r) = some (a, r)

/-- The answer of a reader depends on the part it consumes only. -/
def Local (p : List σ → Option (α × List σ)) : Prop :=
  ∀ s a r, p s = some (a, r) → ∃ h, s = h ++ r ∧ Spells p h a

theorem Spells.unique {h h' r r' : List σ} {a a' : α} (hs : Spells p h a) (hs' : Spells p h' a')
    (heq : h ++ r = h' ++ r') : h = h' ∧ a = a' ∧ r = r' := by
  have hread : some (a, r) = some (a', r') := by rw [← hs r, ← hs' r', heq]
  obtain ⟨rfl, rfl⟩ := Prod.mk.inj (Option.some.inj hread)
  exact ⟨List.append_cancel_right heq, rfl, rfl⟩

/-- Read with `p`, then with the reader `q` chosen by the value. -/
def andThen (p : List σ → Option (α × List σ)) (q : α → List σ → Option (β × List σ))
    (s : List σ) : Option (β × List σ) :=
  (p s).bind fun x => q x.1 x.2

theorem Spells.andThen {q : α → List σ → Option (β × List σ)} {h k : List σ} {a : α} {b : β}
    (hp : Spells p h a) (hq : Spells (q a) k b) : Spells (andThen p q) (h ++ k) b := by
  intro r
  simp only [Reader.andThen, List.append_assoc, hp (k ++ r), Option.bind_some, hq r]

theorem Local.andThen {q : α → List σ → Option (β × List σ)} (hp : Local p) (hq : ∀ a, Local (q a)) :
    Local (andThen p q) := by
  intro s b r hread
  obtain ⟨⟨a, t⟩, hps, hqs⟩ := Option.bind_eq_some_iff.mp hread
  obtain ⟨h, rfl, hspell⟩ := hp s a t hps
  obtain ⟨k, rfl, hspell'⟩ := hq a t b r hqs
  exact ⟨h ++ k, (List.append_assoc h k r).symm, hspell.andThen hspell'⟩

theorem Local.map (hp : Local p) (f : α → β) : Local fun s => (p s).map (Prod.map f id) := by
  intro s b r hread
  obtain ⟨⟨a, t⟩, hps, heq⟩ := Option.map_eq_some_iff.mp hread
  obtain ⟨rfl, rfl⟩ := Prod.mk.inj heq
  obtain ⟨h, rfl, hspell⟩ := hp s a t hps
  exact ⟨h, rfl, fun r => by simp [hspell r]⟩

end Reader
