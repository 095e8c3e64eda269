import OpenIotRsp.Library.Effect
import OpenIotRsp.Model.Storage.Import

/-!
# The frame of the Postgres methods

What a method of the Postgres store leaves alone, as rules for its statements.
A failed transaction leaves the tables as they were.
-/

namespace OpenIotRsp.Storage.Postgres

open Octets Stateful Dataact

variable {α γ : Type} {f : Tables → γ} {d d' : Database} {g : Tables → Tables} {m : PgM α}

/-- The method leaves what is observed of the tables as it is. -/
abbrev KeepsTables (f : Tables → γ) (m : PgM α) : Prop := Keeps (fun d : Database => f d.tables) m

/-- On success, the method changes what is observed of the tables by the function. -/
abbrev WritesTables (f : Tables → γ) (m : PgM α) (w : γ → γ) : Prop :=
  Writes (fun d : Database => f d.tables) m w

/-! ## Statements -/

theorem statement_cases (g : Tables → Tables) (d : Database) :
    (∃ e, (g d.tables).violation = some e ∧ statement g d = (.error (.sql e), d)) ∨
      ∃ hvalid : (g d.tables).Valid,
        statement g d = (.ok (), { d with tables := g d.tables, valid := hvalid }) := by
  unfold statement
  split
  next h => exact .inr ⟨Tables.violation_eq_none.mp h, rfl⟩
  next e h => exact .inl ⟨e, h, rfl⟩

theorem tables_of_statement {u : Unit} (h : statement g d = (.ok u, d')) :
    d'.tables = g d.tables := by
  rcases statement_cases g d with ⟨e, -, hrun⟩ | ⟨hvalid, hrun⟩
  · rw [hrun] at h
    cases h
  · rw [hrun] at h
    obtain ⟨-, rfl⟩ := Prod.mk.inj h
    rfl

theorem keeps_statement (hg : ∀ t, f (g t) = f t) : KeepsTables f (statement g) := by
  intro d
  rcases statement_cases g d with ⟨e, -, hrun⟩ | ⟨hvalid, hrun⟩
  · rw [hrun]
  · rw [hrun]
    exact hg d.tables

theorem writes_statement {w : γ → γ} (hg : ∀ t, f (g t) = w (f t)) :
    WritesTables f (statement g) w := by
  intro d a d' hrun
  exact (congrArg f (tables_of_statement hrun)).trans (hg d.tables)

/-- A unique key is only reported when it is broken. -/
theorem not_unique_of_statement {c : UniqueConstraint}
    (h : statement g d = (.error (.sql (.uniqueViolation c)), d')) : ¬ (g d.tables).Unique c := by
  rcases statement_cases g d with ⟨e, hviolation, hrun⟩ | ⟨hvalid, hrun⟩
  · rw [hrun] at h
    obtain ⟨he, -⟩ := Prod.mk.inj h
    cases he
    rw [Tables.violation] at hviolation
    cases hfind : UniqueConstraint.all.find? fun c => ¬ (g d.tables).Unique c with
    | some c' =>
        rw [hfind] at hviolation
        cases hviolation
        have hbroken := List.find?_some hfind
        exact of_decide_eq_true hbroken
    | none =>
        rw [hfind] at hviolation
        obtain ⟨_, -, hforeign⟩ := Option.map_eq_some_iff.mp hviolation
        cases hforeign
  · rw [hrun] at h
    cases h

theorem transaction_of_ok {a : α} (h : m d = (.ok a, d')) : transaction m d = (.ok a, d') := by
  rw [transaction, h]

theorem transaction_of_error {e : Failure} (h : m d = (.error e, d')) :
    transaction m d = (.error e, { d' with tables := d.tables, valid := d.valid }) := by
  rw [transaction, h]

theorem transaction_eq_ok {a : α} (h : transaction m d = (.ok a, d')) : m d = (.ok a, d') := by
  rcases hrun : m d with ⟨r, d''⟩
  cases r with
  | ok b => exact (transaction_of_ok hrun).symm.trans h
  | error e =>
      rw [transaction_of_error hrun] at h
      cases h

theorem transaction_eq_error {e : Failure} (h : transaction m d = (.error e, d')) :
    (∃ d'', m d = (.error e, d'')) ∧ d'.tables = d.tables := by
  rcases hrun : m d with ⟨r, d''⟩
  cases r with
  | ok b =>
      rw [transaction_of_ok hrun] at h
      cases h
  | error e' =>
      rw [transaction_of_error hrun] at h
      cases h
      exact ⟨⟨d'', rfl⟩, rfl⟩

theorem keeps_transaction (hm : KeepsTables f m) : KeepsTables f (transaction m) := by
  intro d
  rcases hrun : m d with ⟨r, d'⟩
  have hkept := hm d
  rw [hrun] at hkept
  cases r with
  | ok a => rw [transaction_of_ok hrun, hkept]
  | error e => rw [transaction_of_error hrun]

theorem writes_transaction {w : γ → γ} (hm : WritesTables f m w) :
    WritesTables f (transaction m) w := by
  intro d a d' hrun
  exact hm d a d' (transaction_eq_ok hrun)

/-! ## Parameters, queries and serial columns -/

theorem keeps_parameters (f : Tables → γ) (texts : List Bytes) : KeepsTables f (parameters texts) :=
  Keeps.ite (fun _ => keeps_pure _ ()) fun _ => keeps_fail _ _

theorem keeps_jsonParameter (f : Tables → γ) (strings : List Bytes) :
    KeepsTables f (jsonParameter strings) :=
  Keeps.ite (fun _ => keeps_pure _ _) fun _ => keeps_fail _ _

theorem keeps_notNull (f : Tables → γ) (value : Option α) : KeepsTables f (notNull value) := by
  cases value with
  | none => exact keeps_fail _ _
  | some value => exact keeps_pure _ value

theorem keeps_queryRow (f : Tables → γ) (query : Tables → Option α) :
    KeepsTables f (queryRow query) := by
  refine (keeps_get _ _).bind fun row => ?_
  cases row with
  | none => exact keeps_fail _ _
  | some row => exact keeps_pure _ row

theorem keeps_referenced (hm : KeepsTables f m) : KeepsTables f (referenced m) := by
  refine hm.attempt.bind fun r => ?_
  cases r with
  | ok a => exact keeps_pure _ a
  | error e => exact Keeps.ite (fun _ => keeps_fail _ _) fun _ => keeps_fail _ _

theorem keeps_nextOperationResultsID (f : Tables → γ) : KeepsTables f nextOperationResultsID :=
  fun _ => rfl

theorem keeps_nextNotificationsID (f : Tables → γ) : KeepsTables f nextNotificationsID :=
  fun _ => rfl

theorem keeps_listOf (f : Tables → γ) (key : DeviceKey) (rows : Tables → List α) :
    KeepsTables f (listOf key rows) :=
  (keeps_get _ _).bind fun _ =>
    Keeps.ite (fun _ => (keeps_queryRow f _).bind fun _ => keeps_pure _ _) fun _ => keeps_pure _ _

end OpenIotRsp.Storage.Postgres
