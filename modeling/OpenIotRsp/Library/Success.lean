import OpenIotRsp.Library.Stateful

/-!
# When computations over a state succeed

Rules for the condition under which a computation succeeds, where that depends
on a property of the state which the computation keeps.
-/

namespace Stateful

variable {σ ε α β : Type} {P : σ → Prop} {m : Stateful σ ε α} {c c' : Prop} {k : α → Stateful σ ε β}

/-- From a state with the property the computation succeeds exactly if the condition holds, and the
property is kept. -/
structure SucceedsIff (P : σ → Prop) (m : Stateful σ ε α) (c : Prop) : Prop where
  isOk_iff : ∀ s, P s → ((m s).1.isOk ↔ c)
  keeps : ∀ s, P s → P (m s).2

theorem SucceedsIff.congr (h : SucceedsIff P m c) (hc : c ↔ c') : SucceedsIff P m c' :=
  ⟨fun s hs => (h.isOk_iff s hs).trans hc, h.keeps⟩

theorem succeedsIff_pure (a : α) : SucceedsIff P (pure a : Stateful σ ε α) True :=
  ⟨fun _ _ => by simp, fun _ hs => hs⟩

theorem succeedsIff_modify {f : σ → σ} (hf : ∀ s, P s → P (f s)) :
    SucceedsIff P (modify f : Stateful σ ε Unit) True :=
  ⟨fun _ _ => by simp, hf⟩

/-- The second part may use that the first one returned its argument. -/
theorem SucceedsIff.bind (hm : SucceedsIff P m c)
    (hk : ∀ s a, P s → (m s).1 = .ok a → SucceedsIff P (k a) c') :
    SucceedsIff P (m >>= k) (c ∧ c') := by
  have hstep : ∀ s, P s → (((m >>= k) s).1.isOk ↔ c ∧ c') ∧ P ((m >>= k) s).2 := by
    intro s hs
    have hok := hm.isOk_iff s hs
    have hkept := hm.keeps s hs
    rcases hrun : m s with ⟨r, s'⟩
    rw [hrun] at hok hkept
    cases r with
    | error e =>
        rw [bind_of_error hrun]
        exact ⟨iff_of_false (by simp) fun h => absurd (hok.mpr h.1) (by simp), hkept⟩
    | ok a =>
        have hrest := hk s a hs (by rw [hrun])
        rw [bind_of_ok hrun]
        exact ⟨(hrest.isOk_iff s' hkept).trans (and_iff_right (hok.mp (by simp))).symm,
          hrest.keeps s' hkept⟩
  exact ⟨fun s hs => (hstep s hs).1, fun s hs => (hstep s hs).2⟩

/-- A part that always succeeds adds no condition. -/
theorem SucceedsIff.then (hm : SucceedsIff P m True)
    (hk : ∀ s a, P s → (m s).1 = .ok a → SucceedsIff P (k a) c) : SucceedsIff P (m >>= k) c :=
  (hm.bind hk).congr (and_iff_right trivial)

theorem succeedsIff_ofExcept_bind {r : Except ε α} {d : α → Prop}
    (hk : ∀ a, r = .ok a → SucceedsIff P (k a) (d a)) :
    SucceedsIff P (ofExcept r >>= k) (∃ a, r = .ok a ∧ d a) := by
  cases r with
  | error e => exact ⟨fun s _ => by simp [ofExcept_bind_of_error k s rfl], fun _ hs => hs⟩
  | ok a => exact (hk a rfl).congr (by simp)

theorem SucceedsIff.ite {p : Prop} [Decidable p] {n : Stateful σ ε α} (hm : p → SucceedsIff P m c)
    (hn : ¬ p → SucceedsIff P n c) : SucceedsIff P (if p then m else n) c := by
  split
  next h => exact hm h
  next h => exact hn h

theorem SucceedsIff.mapM {xs : List α} {body : α → Stateful σ ε β} {d : α → Prop}
    (hbody : ∀ x ∈ xs, SucceedsIff P (body x) (d x)) :
    SucceedsIff P (xs.mapM body) (∀ x ∈ xs, d x) := by
  induction xs with
  | nil => exact (succeedsIff_pure []).congr (by simp)
  | cons x xs ih =>
      rw [List.mapM_cons]
      refine ((hbody x (by simp)).bind fun _ _ _ _ =>
        (ih fun y hy => hbody y (List.mem_cons_of_mem x hy)).bind fun _ _ _ _ =>
          succeedsIff_pure _).congr ?_
      simp

end Stateful
