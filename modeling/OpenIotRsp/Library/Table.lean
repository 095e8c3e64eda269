import Mathlib.Data.List.AList
import Mathlib.Data.List.Sort

/-!
# Tables

A table is a list of rows with a key.  An insertion whose key is taken changes
the row that has it.  A table with unique keys holds a finite map if its rows,
read as entries, are the entries of the map.
-/

namespace Table

variable {κ ρ : Type} {p : ρ → Bool} {rows : List ρ}

/-- Change the rows that satisfy a condition. -/
def update (p : ρ → Bool) (f : ρ → ρ) (rows : List ρ) : List ρ :=
  rows.map fun row => if p row then f row else row

/-- Insert a row; a row of the same key is changed instead. -/
def upsert [DecidableEq κ] (key : ρ → κ) (set : ρ → ρ → ρ) (row : ρ) (rows : List ρ) : List ρ :=
  if rows.any fun old => key old = key row then
    update (fun old => key old = key row) (fun old => set old row) rows
  else rows ++ [row]

/-! ## Keys -/

section

variable {α : Type} {f : ρ → ρ} {p : ρ → Bool} {rows : List ρ}

theorem map_update (key : ρ → α) (hf : ∀ row ∈ rows, p row → key (f row) = key row) :
    (update p f rows).map key = rows.map key := by
  rw [update, List.map_map]
  refine List.map_congr_left fun row hrow => ?_
  by_cases hp : p row
  · simp [hp, hf row hrow hp]
  · simp [hp]

theorem update_of_none (hp : ∀ row ∈ rows, p row = false) : update p f rows = rows := by
  rw [update, List.map_congr_left fun row hrow => by rw [hp row hrow]]
  exact List.map_id' rows

theorem forall_mem_update {P : ρ → Prop} (hrows : ∀ row ∈ rows, P row)
    (hf : ∀ row ∈ rows, P row → P (f row)) : ∀ row ∈ update p f rows, P row := by
  intro row hrow
  obtain ⟨old, hold, rfl⟩ := List.mem_map.mp hrow
  split
  next => exact hf old hold (hrows old hold)
  next => exact hrows old hold

theorem mem_update {row : ρ} :
    row ∈ update p f rows ↔ (row ∈ rows ∧ p row = false) ∨ ∃ old ∈ rows, p old ∧ f old = row := by
  simp only [update, List.mem_map]
  constructor
  · rintro ⟨old, hold, rfl⟩
    by_cases hp : p old
    · exact .inr ⟨old, hold, hp, by simp [hp]⟩
    · exact .inl (by simp [hp, hold])
  · rintro (⟨hrow, hp⟩ | ⟨old, hold, hp, rfl⟩)
    · exact ⟨row, hrow, by simp [hp]⟩
    · exact ⟨old, hold, by simp [hp]⟩

variable [DecidableEq κ] {key : ρ → κ} {set : ρ → ρ → ρ} {new : ρ}

theorem mem_upsert {row : ρ} :
    row ∈ upsert key set new rows ↔ (row ∈ rows ∧ key row ≠ key new) ∨
      (∃ old ∈ rows, key old = key new ∧ set old new = row) ∨
        (∀ old ∈ rows, key old ≠ key new) ∧ row = new := by
  rw [upsert]
  split
  next htaken =>
      obtain ⟨old, hold, hkey⟩ : ∃ old ∈ rows, key old = key new := by simpa using htaken
      have hnone : ¬ ∀ old ∈ rows, key old ≠ key new := fun h => h old hold hkey
      simp [mem_update, hnone]
  next hfree =>
      have hfree : ∀ old ∈ rows, key old ≠ key new := by simpa using hfree
      have hnone : ¬ ∃ old ∈ rows, key old = key new ∧ set old new = row :=
        fun ⟨old, hold, hkey, _⟩ => hfree old hold hkey
      simp only [List.mem_append, List.mem_singleton, hnone, false_or]
      constructor
      · rintro (hrow | rfl)
        · exact .inl ⟨hrow, hfree row hrow⟩
        · exact .inr ⟨hfree, rfl⟩
      · rintro (⟨hrow, -⟩ | ⟨-, rfl⟩)
        · exact .inl hrow
        · exact .inr rfl

theorem forall_mem_upsert {P : ρ → Prop} (hold : ∀ row ∈ rows, P row)
    (hset : ∀ old ∈ rows, key old = key new → P (set old new)) (hnew : P new) :
    ∀ row ∈ upsert key set new rows, P row := by
  intro row hrow
  rcases mem_upsert.mp hrow with ⟨hmem, -⟩ | ⟨old, hmem, hkey, rfl⟩ | ⟨-, rfl⟩
  · exact hold row hmem
  · exact hset old hmem hkey
  · exact hnew

/-- What the rows have and the new row, if its key is free, is what the rows have afterwards. -/
theorem nodup_map_upsert {α : Type} {column : ρ → α} (h : (rows.map column).Nodup)
    (hset : ∀ old ∈ rows, key old = key new → column (set old new) = column old)
    (hnew : (∀ old ∈ rows, key old ≠ key new) → column new ∉ rows.map column) :
    ((upsert key set new rows).map column).Nodup := by
  rw [upsert]
  split
  next =>
      rw [map_update column fun old hold hp => hset old hold (by simpa using hp)]
      exact h
  next hfree =>
      have hfree : ∀ old ∈ rows, key old ≠ key new := by simpa using hfree
      rw [List.map_append, List.map_singleton, ← List.concat_eq_append]
      exact h.concat (hnew hfree)

theorem nodup_upsert (h : (rows.map key).Nodup)
    (hset : ∀ old, key old = key new → key (set old new) = key new) :
    ((upsert key set new rows).map key).Nodup := by
  refine nodup_map_upsert h (fun old _ hkey => (hset old hkey).trans hkey.symm) fun hfree => ?_
  simpa using hfree

/-- The keys after an insertion. -/
theorem mem_map_upsert (hset : ∀ old, key old = key new → key (set old new) = key new) {k : κ} :
    k ∈ (upsert key set new rows).map key ↔ k ∈ rows.map key ∨ k = key new := by
  simp only [List.mem_map]
  constructor
  · rintro ⟨row, hrow, rfl⟩
    rcases mem_upsert.mp hrow with ⟨hold, -⟩ | ⟨old, -, hkey, rfl⟩ | ⟨-, rfl⟩
    · exact .inl ⟨row, hold, rfl⟩
    · exact .inr (hset old hkey)
    · exact .inr rfl
  · intro hk
    by_cases hnew : k = key new
    · by_cases htaken : ∃ old ∈ rows, key old = key new
      · obtain ⟨old, hold, hkey⟩ := htaken
        exact ⟨_, mem_upsert.mpr (.inr (.inl ⟨old, hold, hkey, rfl⟩)), (hset old hkey).trans hnew.symm⟩
      · refine ⟨new, mem_upsert.mpr (.inr (.inr ⟨fun old hold hkey => ?_, rfl⟩)), hnew.symm⟩
        exact htaken ⟨old, hold, hkey⟩
    · rcases hk with ⟨row, hrow, rfl⟩ | rfl
      · exact ⟨row, mem_upsert.mpr (.inl ⟨hrow, hnew⟩), rfl⟩
      · exact absurd rfl hnew

/-- A row that is inserted only if its key is free. -/
theorem upsert_keep (htaken : ∃ old ∈ rows, key old = key new) :
    upsert key (fun old _ => old) new rows = rows := by
  have hany : rows.any fun old => key old = key new := by simpa using htaken
  simp [upsert, update, hany]

theorem find?_update {k : κ} (hp : ∀ row ∈ rows, p row → key row = k)
    (hf : ∀ row, key row = k → key (f row) = k) (k' : κ) :
    ((update p f rows).find? fun row => key row = k') =
      (rows.find? fun row => key row = k').map fun row => if p row then f row else row := by
  induction rows with
  | nil => rfl
  | cons row rows ih =>
      have ih := ih fun row hrow => hp row (List.mem_cons_of_mem _ hrow)
      have hkey : key (if p row then f row else row) = key row := by
        by_cases hrow : p row
        · have hk := hp row List.mem_cons_self hrow
          simp [hrow, hf row hk, hk]
        · simp [hrow]
      rw [update, List.map_cons, List.find?_cons, List.find?_cons, hkey]
      by_cases hfound : key row = k'
      · simp [hfound]
      · simpa [hfound, update] using ih

/-- What is found under a key after an insertion. -/
theorem find?_upsert (hset : ∀ old, key old = key new → key (set old new) = key new) (k : κ) :
    ((upsert key set new rows).find? fun row => key row = k) =
      if k = key new then
        some (((rows.find? fun row => key row = k).map fun old => set old new).getD new)
      else rows.find? fun row => key row = k := by
  rw [upsert]
  split
  next htaken =>
      rw [find?_update (fun row _ hrow => of_decide_eq_true hrow) hset]
      cases hfind : rows.find? fun row => key row = k with
      | none =>
          have hk : k ≠ key new := by
            rintro rfl
            rw [List.find?_eq_none] at hfind
            obtain ⟨old, hold, hkey⟩ := List.any_eq_true.mp htaken
            exact hfind old hold hkey
          simp [hk]
      | some old =>
          have hfound := List.find?_some hfind
          have hold : key old = k := of_decide_eq_true hfound
          by_cases hk : k = key new
          · simp [hold, hk]
          · simp [hold, hk]
  next hfree =>
      have hfree : ∀ old ∈ rows, key old ≠ key new := by simpa using hfree
      rw [List.find?_append]
      by_cases hk : k = key new
      · subst hk
        have hnone : (rows.find? fun row => key row = key new) = none :=
          List.find?_eq_none.mpr fun old hold h => hfree old hold (of_decide_eq_true h)
        simp [hnone]
      · have hnew : key new ≠ k := fun h => hk h.symm
        simp [hk, hnew]

theorem eq_of_key {α : Type} {column : ρ → α} (h : (rows.map column).Nodup) {a b : ρ}
    (ha : a ∈ rows) (hb : b ∈ rows) (hkey : column a = column b) : a = b :=
  List.inj_on_of_nodup_map h ha hb hkey

end

/-! ## Maps -/

/-! ## Order of the rows -/

/-- A row that is the only one of its kind is found in any order. -/
theorem find?_eq_of_perm {rows rows' : List ρ} (h : rows.Perm rows')
    (hunique : ∀ a ∈ rows, ∀ b ∈ rows, p a → p b → a = b) : rows.find? p = rows'.find? p := by
  cases hfind : rows.find? p with
  | none =>
      refine (List.find?_eq_none.mpr fun row hrow => ?_).symm
      exact List.find?_eq_none.mp hfind row (h.mem_iff.mpr hrow)
  | some row =>
      have hrow := List.mem_of_find?_eq_some hfind
      have hp := List.find?_some hfind
      cases hfind' : rows'.find? p with
      | none => exact absurd hp (List.find?_eq_none.mp hfind' row (h.mem_iff.mp hrow))
      | some row' =>
          have hrow' := h.mem_iff.mpr (List.mem_of_find?_eq_some hfind')
          rw [hunique row hrow row' hrow' hp (List.find?_some hfind')]

/-- A selection with at most one row. -/
theorem filter_eq_find? (hnodup : rows.Nodup) (hunique : ∀ a ∈ rows, ∀ b ∈ rows, p a → p b → a = b) :
    rows.filter p = (rows.find? p).toList := by
  induction rows with
  | nil => rfl
  | cons row rows ih =>
      obtain ⟨hrow, hnodup⟩ := List.nodup_cons.mp hnodup
      by_cases hp : p row
      · have hnone : rows.filter p = [] := by
          refine List.filter_eq_nil_iff.mpr fun other hother hp' => hrow ?_
          rwa [hunique row List.mem_cons_self other (List.mem_cons_of_mem _ hother) hp hp']
        simp [hp, hnone]
      · have ih := ih hnodup fun a ha b hb =>
          hunique a (List.mem_cons_of_mem _ ha) b (List.mem_cons_of_mem _ hb)
        simp [hp, ih]

theorem nodup_select {α : Type} {column : ρ → α} {key : ρ → κ} (h : (rows.map key).Nodup)
    (hcolumn : ∀ a ∈ rows, ∀ b ∈ rows, p a → p b → column a = column b → key a = key b) :
    ((rows.filter p).map column).Nodup := by
  refine (h.of_map.filter p).map_on fun a ha b hb hab => ?_
  obtain ⟨ha, hpa⟩ := List.mem_filter.mp ha
  obtain ⟨hb, hpb⟩ := List.mem_filter.mp hb
  exact eq_of_key h ha hb (hcolumn a ha b hb hpa hpb hab)

theorem insertionSort_congr {r r' : ρ → ρ → Prop} [DecidableRel r] [DecidableRel r']
    (h : ∀ a ∈ rows, ∀ b ∈ rows, (r a b ↔ r' a b)) :
    rows.insertionSort r = rows.insertionSort r' := by
  simpa using List.map_insertionSort r r' id rows h

/-- Rows with different values in a column are sorted by it in one way. -/
theorem insertionSort_eq_of_perm {α : Type} [LE α] [DecidableLE α] [Std.IsLinearOrder α]
    {column : ρ → α} {rows rows' : List ρ} (h : rows.Perm rows') (hunique : (rows.map column).Nodup) :
    rows.insertionSort (fun a b => column a ≤ column b) =
      rows'.insertionSort fun a b => column a ≤ column b := by
  let r := fun a b : ρ => column a ≤ column b
  have htotal : Std.Total r := ⟨fun _ _ => Std.le_total⟩
  have htrans : IsTrans ρ r := ⟨fun _ _ _ => Std.le_trans⟩
  have hperm : (rows.insertionSort r).Perm (rows'.insertionSort r) :=
    ((List.perm_insertionSort r rows).trans h).trans (List.perm_insertionSort r rows').symm
  refine hperm.eq_of_pairwise (fun a b ha hb hab hba => ?_) (List.pairwise_insertionSort r rows)
    (List.pairwise_insertionSort r rows')
  refine eq_of_key hunique ?_ ?_ (Std.le_antisymm hab hba)
  · exact (List.mem_insertionSort r).mp ha
  · exact h.mem_iff.mpr ((List.mem_insertionSort r).mp hb)

variable {β : κ → Type}

/-- The rows, read as entries, are the entries of the map. -/
def Holds (entry : ρ → Sigma β) (rows : List ρ) (m : AList β) : Prop :=
  ∀ e, e ∈ rows.map entry ↔ e ∈ m.entries

theorem Holds.nil {entry : ρ → Sigma β} : Holds entry [] (∅ : AList β) :=
  fun e => by simp [AList.empty_entries]

/-- With unique keys, the rows and the entries of the map agree up to their order. -/
theorem Holds.perm {entry : ρ → Sigma β} {m : AList β} (h : Holds entry rows m)
    (hunique : (rows.map fun row => (entry row).1).Nodup) : (rows.map entry).Perm m.entries := by
  refine (List.perm_ext_iff_of_nodup ?_ m.nodupKeys.nodup).mpr h
  exact List.Nodup.of_map Sigma.fst (by simpa [List.map_map, Function.comp_def] using hunique)

/-- What is selected from the rows and from the entries agrees up to its order. -/
theorem Holds.perm_select {entry : ρ → Sigma β} {m : AList β} (h : Holds entry rows m)
    (hunique : (rows.map fun row => (entry row).1).Nodup) {α : Type} (p : Sigma β → Bool)
    (g : Sigma β → α) :
    ((rows.filter fun row => p (entry row)).map fun row => g (entry row)).Perm
      ((m.entries.filter p).map g) := by
  have hperm := ((h.perm hunique).filter p).map g
  rwa [List.filter_map, List.map_map] at hperm

variable [DecidableEq κ]

theorem mem_entries_insert {m : AList β} {k : κ} {b : β k} {e : Sigma β} :
    e ∈ (m.insert k b).entries ↔ e = ⟨k, b⟩ ∨ e ∈ m.entries ∧ e.1 ≠ k := by
  obtain ⟨k', b'⟩ := e
  rw [← AList.mem_lookup_iff, ← AList.mem_lookup_iff]
  by_cases hk : k' = k
  · subst hk
    simp [eq_comm]
  · simp [AList.lookup_insert_ne hk, hk]

theorem mem_entries_erase {m : AList β} {k : κ} {e : Sigma β} :
    e ∈ (m.erase k).entries ↔ e ∈ m.entries ∧ e.1 ≠ k := by
  obtain ⟨k', b'⟩ := e
  rw [← AList.mem_lookup_iff, ← AList.mem_lookup_iff]
  by_cases hk : k' = k
  · subst hk
    simp
  · simp [AList.lookup_erase_ne hk, hk]

namespace Holds

variable {entry : ρ → Sigma β} {rows : List ρ} {m : AList β} {new : ρ} {k : κ} {b : β k}

theorem lookup_eq_some (h : Holds entry rows m) :
    m.lookup k = some b ↔ ∃ row ∈ rows, entry row = ⟨k, b⟩ := by
  rw [← List.mem_map, h]
  exact AList.mem_lookup_iff

theorem lookup_eq_none (h : Holds entry rows m) :
    m.lookup k = none ↔ ∀ row ∈ rows, (entry row).1 ≠ k := by
  constructor
  · intro hnone row hrow hk
    subst hk
    have hsome : m.lookup (entry row).1 = some (entry row).2 :=
      h.lookup_eq_some.mpr ⟨row, hrow, rfl⟩
    rw [hsome] at hnone
    cases hnone
  · intro hall
    cases hlookup : m.lookup k with
    | none => rfl
    | some b =>
        obtain ⟨row, hrow, hentry⟩ := h.lookup_eq_some.mp hlookup
        exact absurd (congrArg Sigma.fst hentry) (hall row hrow)

/-- What is found in the rows is what the map has under the key. -/
theorem find?_cases (h : Holds entry rows m) (k : κ) :
    ((rows.find? fun row => (entry row).1 = k) = none ∧ m.lookup k = none) ∨
      ∃ row b, (rows.find? fun row => (entry row).1 = k) = some row ∧ m.lookup k = some b ∧
        entry row = ⟨k, b⟩ := by
  cases hfind : rows.find? fun row => (entry row).1 = k with
  | none =>
      refine .inl ⟨rfl, h.lookup_eq_none.mpr fun row hrow hk => ?_⟩
      exact List.find?_eq_none.mp hfind row hrow (decide_eq_true hk)
  | some row =>
      have hfound := List.find?_some hfind
      obtain rfl : (entry row).1 = k := of_decide_eq_true hfound
      refine .inr ⟨row, (entry row).2, rfl, ?_, rfl⟩
      exact h.lookup_eq_some.mpr ⟨row, List.mem_of_find?_eq_some hfind, rfl⟩

theorem upsert {set : ρ → ρ → ρ} (h : Holds entry rows m) (hnew : entry new = ⟨k, b⟩)
    (hset : ∀ old ∈ rows, (entry old).1 = k → entry (set old new) = ⟨k, b⟩) :
    Holds entry (Table.upsert (fun row => (entry row).1) set new rows) (m.insert k b) := by
  intro e
  have hkey : (entry new).1 = k := congrArg Sigma.fst hnew
  rw [mem_entries_insert, ← h, List.mem_map]
  constructor
  · rintro ⟨row, hrow, rfl⟩
    rcases mem_upsert.mp hrow with ⟨hold, hne⟩ | ⟨old, hold, hold', rfl⟩ | ⟨-, rfl⟩
    · exact .inr ⟨List.mem_map_of_mem hold, by rwa [hkey] at hne⟩
    · exact .inl (hset old hold (hold'.trans hkey))
    · exact .inl hnew
  · rintro (rfl | ⟨he, hne⟩)
    · by_cases htaken : ∃ old ∈ rows, (entry old).1 = k
      · obtain ⟨old, hold, hold'⟩ := htaken
        exact ⟨_, mem_upsert.mpr (.inr (.inl ⟨old, hold, hold'.trans hkey.symm, rfl⟩)),
          hset old hold hold'⟩
      · refine ⟨new, mem_upsert.mpr (.inr (.inr ⟨fun old hold hold' => ?_, rfl⟩)), hnew⟩
        exact htaken ⟨old, hold, hold'.trans hkey⟩
    · obtain ⟨row, hrow, rfl⟩ := List.mem_map.mp he
      exact ⟨row, mem_upsert.mpr (.inl ⟨hrow, by rwa [hkey]⟩), rfl⟩

theorem append (h : Holds entry rows m) (hnew : entry new = ⟨k, b⟩)
    (hfree : ∀ row ∈ rows, (entry row).1 ≠ k) : Holds entry (rows ++ [new]) (m.insert k b) := by
  have hnone : ¬ rows.any fun row => (entry row).1 = (entry new).1 := by
    simpa [congrArg Sigma.fst hnew] using hfree
  have hupsert : Holds entry (Table.upsert (fun row => (entry row).1) (fun old _ => old) new rows)
      (m.insert k b) :=
    h.upsert hnew fun row hrow hk => absurd hk (hfree row hrow)
  rwa [Table.upsert, if_neg hnone] at hupsert

/-- Changing the rows of one key, of which there is one. -/
theorem update {f : ρ → ρ} (h : Holds entry rows m) (hp : ∀ row ∈ rows, (p row ↔ (entry row).1 = k))
    (hrow : ∃ row ∈ rows, (entry row).1 = k)
    (hf : ∀ row ∈ rows, (entry row).1 = k → entry (f row) = ⟨k, b⟩) :
    Holds entry (Table.update p f rows) (m.insert k b) := by
  intro e
  rw [mem_entries_insert, ← h, List.mem_map]
  constructor
  · rintro ⟨row, hrow, rfl⟩
    rcases mem_update.mp hrow with ⟨hold, hne⟩ | ⟨old, hold, hkey, rfl⟩
    · refine .inr ⟨List.mem_map_of_mem hold, fun hk => ?_⟩
      rw [(hp row hold).mpr hk] at hne
      cases hne
    · exact .inl (hf old hold ((hp old hold).mp hkey))
  · rintro (rfl | ⟨he, hne⟩)
    · obtain ⟨row, hrow, hk⟩ := hrow
      exact ⟨f row, mem_update.mpr (.inr ⟨row, hrow, (hp row hrow).mpr hk, rfl⟩), hf row hrow hk⟩
    · obtain ⟨row, hrow, rfl⟩ := List.mem_map.mp he
      refine ⟨row, mem_update.mpr (.inl ⟨hrow, ?_⟩), rfl⟩
      exact Bool.eq_false_iff.mpr fun hk => hne ((hp row hrow).mp hk)

theorem delete (h : Holds entry rows m) (hp : ∀ row ∈ rows, (p row ↔ (entry row).1 ≠ k)) :
    Holds entry (rows.filter p) (m.erase k) := by
  intro e
  rw [mem_entries_erase, ← h, List.mem_map, List.mem_map]
  constructor
  · rintro ⟨row, hrow, rfl⟩
    obtain ⟨hrow, hkeep⟩ := List.mem_filter.mp hrow
    exact ⟨⟨row, hrow, rfl⟩, (hp row hrow).mp hkeep⟩
  · rintro ⟨⟨row, hrow, rfl⟩, hne⟩
    exact ⟨row, List.mem_filter.mpr ⟨hrow, (hp row hrow).mpr hne⟩, rfl⟩

end Holds

/-! ## Restrictions -/

/-- The entries of a map that satisfy a condition. -/
def restrict (p : Sigma β → Bool) (m : AList β) : List (Sigma β) := m.entries.filter p

section

variable {p : Sigma β → Bool} {m m' : AList β} {k : κ} {b : β k}

end

end Table
