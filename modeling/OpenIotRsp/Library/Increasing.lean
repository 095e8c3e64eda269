import Mathlib.Data.List.Sort
import Mathlib.Order.Defs.LinearOrder

/-!
# Lists in the order of a key

A list whose keys increase is determined by its elements, so that a listing in
the order of a unique key does not depend on the order the elements came in.
-/

variable {α β : Type}

/-- The keys increase along the list. -/
def Increasing [LT β] (key : α → β) (xs : List α) : Prop :=
  xs.Pairwise fun a b => key a < key b

namespace Increasing

variable {key : α → β} {xs ys : List α}

theorem ext [Preorder β] (hxs : Increasing key xs) (hys : Increasing key ys)
    (h : ∀ a, a ∈ xs ↔ a ∈ ys) : xs = ys := by
  have hirrefl : Std.Irrefl fun a b => key a < key b := ⟨fun a => lt_irrefl (key a)⟩
  have hantisymm : Std.Antisymm fun a b => key a < key b :=
    ⟨fun a b hab hba => absurd (hab.trans hba) (lt_irrefl (key a))⟩
  exact List.Pairwise.eq_of_mem_iff hxs hys h

theorem sublist [LT β] (h : Increasing key xs) (hsub : ys.Sublist xs) : Increasing key ys :=
  List.Pairwise.sublist hsub h

theorem eq_of_key [Preorder β] (h : Increasing key xs) {a b : α} (ha : a ∈ xs) (hb : b ∈ xs)
    (hkey : key a = key b) : a = b := by
  have hnodup : (xs.map key).Nodup := List.pairwise_map.mpr (h.imp fun hlt => ne_of_lt hlt)
  exact List.inj_on_of_nodup_map hnodup ha hb hkey

/-- An element is among the first if not too many keys are smaller than its own. -/
theorem mem_take_iff [LinearOrder β] (h : Increasing key xs) {a : α} (ha : a ∈ xs) (n : Nat) :
    a ∈ xs.take n ↔ (xs.filter fun b => key b < key a).length < n := by
  induction xs generalizing n with
  | nil => cases ha
  | cons x xs ih =>
      obtain ⟨hx, hxs⟩ := List.pairwise_cons.mp h
      cases n with
      | zero => simp
      | succ n =>
          rcases List.mem_cons.mp ha with rfl | ha
          · have hnone : xs.filter (fun b => key b < key a) = [] :=
              List.filter_eq_nil_iff.mpr fun b hb => by simpa using (hx b hb).le
            simp [hnone]
          · have hne : a ≠ x := fun heq => lt_irrefl _ (heq ▸ hx a ha)
            simp [hne, hx a ha, ih hxs ha]

/-- The element with the smallest key is found first. -/
theorem find?_take [LinearOrder β] (h : Increasing key xs) {p : α → Bool} {a : α} {n : Nat}
    (ha : a ∈ xs.take n) (hp : p a) (hfirst : ∀ b ∈ xs, p b → key a ≤ key b) :
    (xs.take n).find? p = some a := by
  induction xs generalizing n with
  | nil => simp at ha
  | cons x xs ih =>
      obtain ⟨hx, hxs⟩ := List.pairwise_cons.mp h
      cases n with
      | zero => simp at ha
      | succ n =>
          rw [List.take_succ_cons] at ha ⊢
          rcases List.mem_cons.mp ha with rfl | ha
          · exact List.find?_cons_of_pos hp
          · have hlt := hx a (List.mem_of_mem_take ha)
            have hnot : ¬ p x := fun hpx => absurd (hfirst x List.mem_cons_self hpx) hlt.not_ge
            rw [List.find?_cons_of_neg hnot]
            exact ih hxs ha fun b hb => hfirst b (List.mem_cons_of_mem x hb)

/-- Sorting elements with different keys. -/
theorem insertionSort [LinearOrder β] (h : xs.Pairwise fun a b => key a ≠ key b) :
    Increasing key (xs.insertionSort fun a b => key a ≤ key b) := by
  have htrans : IsTrans α fun a b => key a ≤ key b := ⟨fun _ _ _ => le_trans⟩
  have htotal : Std.Total fun a b => key a ≤ key b := ⟨fun a b => le_total (key a) (key b)⟩
  have hsorted := List.pairwise_insertionSort (fun a b => key a ≤ key b) xs
  have hdistinct := ((List.perm_insertionSort (fun a b => key a ≤ key b) xs).pairwise_iff
    (fun h => h.symm)).mpr h
  exact (hsorted.and hdistinct).imp fun h => lt_of_le_of_ne h.1 h.2

end Increasing
