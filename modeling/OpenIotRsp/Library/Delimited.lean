import OpenIotRsp.Library.Octets

/-!
# Encodings that end themselves

Values written one after the other can be read back when it is clear where each
of them ends.  The rules say so for fields of a fixed width, for fields with a
mark behind them, and for optional fields.
-/

namespace Delimited

open Octets

variable {α : Type}

/-- What is written for related values tells them apart, whatever follows. -/
def Delimits (R : α → α → Prop) (write : α → Bytes) : Prop :=
  ∀ ⦃a b⦄, R a b → ∀ ⦃s t⦄, write a ++ s = write b ++ t → a = b ∧ s = t

theorem delimits_of_length {R : α → α → Prop} {write : α → Bytes}
    (hlength : ∀ a b, R a b → (write a).length = (write b).length)
    (hinj : ∀ a b, R a b → write a = write b → a = b) : Delimits R write := by
  intro a b hR s t h
  obtain ⟨hwrite, hrest⟩ := List.append_inj h (hlength a b hR)
  exact ⟨hinj a b hR hwrite, hrest⟩

theorem delimits_bigEndian (k : Nat) :
    Delimits (fun m n => m < 256 ^ k ∧ n < 256 ^ k) (bigEndian k) := by
  apply delimits_of_length
  · intro m n _
    simp
  · intro m n hlt h
    exact bigEndian_injOn hlt.1 hlt.2 h

/-- An octet string behind a field of fixed width for its length: two of them are told apart when
that field says whether their lengths are the same. -/
theorem delimits_lengthPrefixed {w : Nat → Bytes} {k : Nat} (hwidth : ∀ n, (w n).length = k) :
    Delimits (fun a b : Bytes => w a.length = w b.length → a.length = b.length)
      fun a => w a.length ++ a := by
  intro a b hR s t h
  rw [List.append_assoc, List.append_assoc] at h
  obtain ⟨hlength, h⟩ := List.append_inj h (by rw [hwidth, hwidth])
  exact List.append_inj h (hR hlength)

/-- An optional field behind a mark that says whether it is there. -/
def writeOption (write : α → Bytes) : Option α → Bytes
  | none => [0]
  | some a => 1 :: write a

theorem delimits_writeOption {R : α → α → Prop} {write : α → Bytes} (h : Delimits R write) :
    Delimits (fun a b => ∀ x ∈ a, ∀ y ∈ b, R x y) (writeOption write) := by
  intro a b hR s t heq
  cases a with
  | none =>
      cases b with
      | none => exact ⟨rfl, List.append_cancel_left heq⟩
      | some y => simp [writeOption] at heq
  | some x =>
      cases b with
      | none => simp [writeOption] at heq
      | some y =>
          obtain ⟨rfl, hrest⟩ := h (hR x rfl y rfl) (List.cons.inj heq).2
          exact ⟨rfl, hrest⟩

/-- Two strings up to a mark that is in neither of them. -/
theorem append_mark_inj {mark : UInt8} {a b s t : Bytes} (ha : mark ∉ a) (hb : mark ∉ b)
    (h : a ++ mark :: s = b ++ mark :: t) : a = b ∧ s = t := by
  induction a generalizing b with
  | nil =>
      cases b with
      | nil => exact ⟨rfl, (List.cons.inj h).2⟩
      | cons y b =>
          obtain ⟨rfl, -⟩ := List.cons.inj h
          simp at hb
  | cons x a ih =>
      cases b with
      | nil =>
          obtain ⟨rfl, -⟩ := List.cons.inj h
          simp at ha
      | cons y b =>
          obtain ⟨rfl, hrest⟩ := List.cons.inj h
          obtain ⟨rfl, hst⟩ := ih (fun hmem => ha (List.mem_cons_of_mem x hmem))
            (fun hmem => hb (List.mem_cons_of_mem x hmem)) hrest
          exact ⟨rfl, hst⟩

end Delimited
