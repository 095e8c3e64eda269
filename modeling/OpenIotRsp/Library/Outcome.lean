import Mathlib.Data.List.Forall2

/-!
# Successful outcomes

Inversion rules for computations in `Except`: what has to hold for a sequence,
or for a sequence behind a guard, to succeed.
-/

namespace Outcome

variable {ε α β : Type} {f : α → Except ε β} {as : List α}

theorem bind_eq_ok {x : Except ε α} {k : α → Except ε β} {b : β} :
    (x >>= k) = .ok b ↔ ∃ a, x = .ok a ∧ k a = .ok b := by
  cases x with
  | error e => simp [bind, Except.bind]
  | ok a => simp [bind, Except.bind]

theorem unit_bind_eq_ok {x : Except ε Unit} {k : Unit → Except ε β} {b : β} :
    (x >>= k) = .ok b ↔ x = .ok () ∧ k () = .ok b := by
  cases x with
  | error e => simp [bind, Except.bind]
  | ok a => simp [bind, Except.bind]

@[simp]
theorem ok_bind (a : α) (k : α → Except ε β) : (Except.ok a >>= k) = k a := rfl

@[simp]
theorem error_bind (e : ε) (k : α → Except ε β) : (Except.error e >>= k) = .error e := rfl

@[simp]
theorem throw_eq (e : ε) : (throw e : Except ε α) = .error e := rfl

@[simp]
theorem pure_eq (a : α) : (pure a : Except ε α) = .ok a := rfl

/-- A guard that throws lets through only what does not meet its condition. -/
theorem guard_eq_ok {p : Prop} [Decidable p] {e : ε} {x : Except ε α} {a : α} :
    (if p then .error e else x) = .ok a ↔ ¬p ∧ x = .ok a := by
  by_cases hp : p <;> simp [hp]

/-- A traversal succeeds when every element does. -/
theorem mapM_eq_ok {bs : List β} :
    as.mapM f = .ok bs ↔ List.Forall₂ (fun a b => f a = .ok b) as bs := by
  induction as generalizing bs with
  | nil => simp [eq_comm]
  | cons a as ih =>
      simp only [List.mapM_cons, bind_eq_ok, ih, List.forall₂_cons_left_iff, pure_eq,
        Except.ok.injEq]
      constructor
      · rintro ⟨b, hb, rest, hrest, rfl⟩
        exact ⟨b, rest, hb, hrest, rfl⟩
      · rintro ⟨b, rest, hb, hrest, rfl⟩
        exact ⟨b, hb, rest, hrest, rfl⟩

theorem exists_ok_of_mapM {bs : List β} (h : as.mapM f = .ok bs) {a : α} (ha : a ∈ as) :
    ∃ b ∈ bs, f a = .ok b := by
  induction mapM_eq_ok.mp h with
  | nil => simp at ha
  | cons hhead htail ih =>
      rcases List.mem_cons.mp ha with rfl | ha
      · exact ⟨_, by simp, hhead⟩
      · obtain ⟨b, hb, hab⟩ := ih (mapM_eq_ok.mpr htail) ha
        exact ⟨b, by simp [hb], hab⟩

theorem exists_source_of_mapM {bs : List β} (h : as.mapM f = .ok bs) {b : β} (hb : b ∈ bs) :
    ∃ a ∈ as, f a = .ok b := by
  induction mapM_eq_ok.mp h with
  | nil => simp at hb
  | cons hhead htail ih =>
      rcases List.mem_cons.mp hb with rfl | hb
      · exact ⟨_, by simp, hhead⟩
      · obtain ⟨a, ha, hab⟩ := ih (mapM_eq_ok.mpr htail) hb
        exact ⟨a, by simp [ha], hab⟩

/-- What one round of a loop carries on from the elements done so far holds after the loop. -/
theorem foldlM_invariant {P : List α → β → Prop} {f : β → α → Except ε β} {b c : β}
    (hstart : P [] b) (hstep : ∀ done a b c, P done b → f b a = .ok c → P (done ++ [a]) c)
    (h : as.foldlM f b = .ok c) : P as c := by
  suffices hall : ∀ done b, P done b → as.foldlM f b = .ok c → P (done ++ as) c from
    hall [] b hstart h
  clear hstart h b
  induction as with
  | nil =>
      intro done b hb h
      obtain rfl := Except.ok.inj h
      rwa [List.append_nil]
  | cons a as ih =>
      intro done b hb h
      rw [List.foldlM_cons] at h
      obtain ⟨b', hround, hrest⟩ := bind_eq_ok.mp h
      have hall := ih (done ++ [a]) b' (hstep done a b b' hb hround) hrest
      rwa [List.append_assoc] at hall

theorem forM_eq_ok {f : α → Except ε Unit} : as.forM f = .ok () ↔ ∀ a ∈ as, f a = .ok () := by
  induction as with
  | nil => exact iff_of_true rfl nofun
  | cons a as ih =>
      change (f a >>= fun _ => as.forM f) = .ok () ↔ _
      rw [unit_bind_eq_ok, ih, List.forall_mem_cons]

/-! ## Errors -/

/-- Every error of the computation satisfies the predicate. -/
def FailsWith (P : ε → Prop) (x : Except ε α) : Prop := ∀ e, x = .error e → P e

variable {P : ε → Prop}

theorem failsWith_ok (a : α) : FailsWith P (.ok a) := fun _ h => nomatch h

theorem failsWith_error {e : ε} (he : P e) : FailsWith P (.error e : Except ε α) := by
  intro e' h
  exact Except.error.inj h ▸ he

theorem FailsWith.bind {x : Except ε α} {k : α → Except ε β} (hx : FailsWith P x)
    (hk : ∀ a, FailsWith P (k a)) : FailsWith P (x >>= k) := by
  cases x with
  | error e => exact failsWith_error (hx e rfl)
  | ok a => exact hk a

theorem FailsWith.ite {p : Prop} [Decidable p] {x y : Except ε α} (hx : FailsWith P x)
    (hy : FailsWith P y) : FailsWith P (if p then x else y) := by
  split
  next => exact hx
  next => exact hy

theorem FailsWith.map (f : α → β) {r : Except ε α} (hr : FailsWith P r) : FailsWith P (r.map f) := by
  cases r with
  | ok a => exact failsWith_ok _
  | error e => exact failsWith_error (hr e rfl)

theorem FailsWith.mapM (hf : ∀ a, FailsWith P (f a)) (as : List α) : FailsWith P (as.mapM f) := by
  induction as with
  | nil => exact failsWith_ok _
  | cons a as ih =>
      rw [List.mapM_cons]
      exact (hf a).bind fun _ => ih.bind fun _ => failsWith_ok _

@[simp]
theorem isOk_iff {r : Except ε α} : r.isOk ↔ ∃ a, r = .ok a := by
  cases r with
  | ok a => simp [Except.isOk, Except.toBool]
  | error e => simp [Except.isOk, Except.toBool]

@[simp]
theorem map_eq_ok {f : α → β} {r : Except ε α} {b : β} :
    r.map f = .ok b ↔ ∃ a, r = .ok a ∧ f a = b := by
  cases r <;> simp [Except.map]

theorem toOption_eq_some {r : Except ε α} {a : α} : r.toOption = some a ↔ r = .ok a := by
  cases r with
  | ok b => simp [Except.toOption]
  | error e => simp [Except.toOption]

end Outcome
