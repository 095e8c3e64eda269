import OpenIotRsp.Verification.Storage.DatabaseFrame

/-!
# Statements and constraints

A statement writes to one table.  It succeeds if the keys of that table are
unique afterwards and its rows refer to rows that are there; a row without its
device is the one thing that a method reports as not found.
-/

namespace OpenIotRsp.Storage.Postgres

open Octets Stateful

variable {α : Type} {t : Tables} {d d' : Database} {g : Tables → Tables}

/-! ## Outcome of statements -/

theorem statement_of_valid (hvalid : (g d.tables).Valid) :
    statement g d = (.ok (), { d with tables := g d.tables, valid := hvalid }) := by
  rcases statement_cases g d with ⟨e, hviolation, -⟩ | ⟨_, hrun⟩
  · rw [Tables.violation_eq_none.mpr hvalid] at hviolation
    cases hviolation
  · exact hrun

/-- With unique keys, only a reference can be missing. -/
theorem statement_of_missing {f : ForeignKey} (hunique : ∀ c, (g d.tables).Unique c)
    (hmissing : ¬ (g d.tables).References f) :
    ∃ f', statement g d = (.error (.sql (.foreignKeyViolation f')), d) := by
  rcases statement_cases g d with ⟨e, hviolation, hrun⟩ | ⟨hvalid, -⟩
  · have hnone : (UniqueConstraint.all.find? fun c => ¬ (g d.tables).Unique c) = none :=
      List.find?_eq_none.mpr fun c _ hbroken => of_decide_eq_true hbroken (hunique c)
    rw [Tables.violation, hnone, Option.map_none, Option.none_or] at hviolation
    obtain ⟨f', -, rfl⟩ := Option.map_eq_some_iff.mp hviolation
    exact ⟨f', hrun⟩
  · exact absurd (hvalid.references f) hmissing

/-- Only the run of the statement matters. -/
theorem referenced_congr {m m' : PgM α} (h : m d = m' d') : referenced m d = referenced m' d' := by
  rw [referenced, referenced, attempt_bind, attempt_bind, h]

theorem referenced_of_ok {m : PgM α} {a : α} (h : m d = (.ok a, d')) :
    referenced m d = (.ok a, d') := by
  rw [referenced, attempt_bind, h]
  rfl

theorem referenced_of_missing {m : PgM α} {f : ForeignKey}
    (h : m d = (.error (.sql (.foreignKeyViolation f)), d')) :
    referenced m d = (.error (.store .notFound), d') := by
  rw [referenced, attempt_bind, h]
  rfl

theorem referenced_eq_error {m : PgM α} {e : Failure} (h : referenced m d = (.error e, d')) :
    ∃ e', m d = (.error e', d') := by
  rcases hrun : m d with ⟨r, d''⟩
  cases r with
  | ok a =>
      rw [referenced_of_ok hrun] at h
      cases h
  | error e' =>
      rw [referenced, attempt_bind, hrun] at h
      obtain rfl : d'' = d' := by
        dsimp only at h
        split at h
        next => exact (Prod.mk.inj h).2
        next => exact (Prod.mk.inj h).2
      exact ⟨e', rfl⟩

/-- A statement that fails leaves the database as it is. -/
theorem statement_error {e : Failure} (h : statement g d = (.error e, d')) : d' = d := by
  rcases statement_cases g d with ⟨_, -, hrun⟩ | ⟨hvalid, hrun⟩
  · exact ((Prod.mk.inj (hrun.symm.trans h)).2).symm
  · cases hrun.symm.trans h

/-- A transaction that has written nothing. -/
theorem restore_eq (h : d'.tables = d.tables) :
    { d' with tables := d.tables, valid := d.valid } = d' := by
  obtain ⟨tables, valid, operationsID, operationResultsID, notificationsID⟩ := d'
  subst h
  rfl

theorem parameters_of_text {texts : List Bytes} (h : texts.all isText) :
    parameters texts = pure () := if_pos h

/-! ## Tables that refer to devices -/

section

variable (h : t.Valid)
include h

theorem unique_profileState {rows : List ProfileStateRow}
    (hrows : (rows.map ProfileStateRow.key).Nodup) (c : UniqueConstraint) :
    ({ t with profileState := rows } : Tables).Unique c := by
  have hold := h.unique c
  cases c with
  | profileState => exact hrows
  | _ => exact hold

theorem references_profileState {rows : List ProfileStateRow}
    (hrows : ∀ row ∈ rows, row.device ∈ t.devices.map DeviceRow.key) (f : ForeignKey) :
    ({ t with profileState := rows } : Tables).References f := by
  have hold := h.references f
  cases f with
  | profileState => exact hrows
  | _ => exact hold

theorem unique_euiccState {rows : List EUICCStateRow}
    (hrows : (rows.map EUICCStateRow.key).Nodup) (c : UniqueConstraint) :
    ({ t with euiccState := rows } : Tables).Unique c := by
  have hold := h.unique c
  cases c with
  | euiccState => exact hrows
  | _ => exact hold

theorem references_euiccState {rows : List EUICCStateRow}
    (hrows : ∀ row ∈ rows, row.key ∈ t.devices.map DeviceRow.key) (f : ForeignKey) :
    ({ t with euiccState := rows } : Tables).References f := by
  have hold := h.references f
  cases f with
  | euiccState => exact hrows
  | _ => exact hold

theorem unique_associatedEIM {rows : List AssociatedEIMRow}
    (hrows : (rows.map AssociatedEIMRow.key).Nodup) (c : UniqueConstraint) :
    ({ t with associatedEIM := rows } : Tables).Unique c := by
  have hold := h.unique c
  cases c with
  | associatedEIM => exact hrows
  | _ => exact hold

theorem references_associatedEIM {rows : List AssociatedEIMRow}
    (hrows : ∀ row ∈ rows, row.device ∈ t.devices.map DeviceRow.key) (f : ForeignKey) :
    ({ t with associatedEIM := rows } : Tables).References f := by
  have hold := h.references f
  cases f with
  | associatedEIM => exact hrows
  | _ => exact hold

theorem unique_notifications {rows : List NotificationRow}
    (hids : (rows.map NotificationRow.id).Nodup) (hrows : (rows.map NotificationRow.key).Nodup)
    (c : UniqueConstraint) : ({ t with notifications := rows } : Tables).Unique c := by
  have hold := h.unique c
  cases c with
  | notificationsID => exact hids
  | notificationsSequence => exact hrows
  | _ => exact hold

theorem references_notifications {rows : List NotificationRow}
    (hrows : ∀ row ∈ rows, row.device ∈ t.devices.map DeviceRow.key) (f : ForeignKey) :
    ({ t with notifications := rows } : Tables).References f := by
  have hold := h.references f
  cases f with
  | notifications => exact hrows
  | _ => exact hold

theorem unique_operationResults {rows : List OperationResultRow}
    (hids : (rows.map OperationResultRow.id).Nodup)
    (hrows : (rows.map OperationResultRow.key).Nodup) (c : UniqueConstraint) :
    ({ t with operationResults := rows } : Tables).Unique c := by
  have hold := h.unique c
  cases c with
  | operationResultsID => exact hids
  | operationResultsSequence => exact hrows
  | _ => exact hold

theorem references_operationResults {rows : List OperationResultRow}
    (hrows : ∀ row ∈ rows, row.device ∈ t.devices.map DeviceRow.key)
    (hoperations : ∀ row ∈ rows, ∀ id ∈ row.operationID, id ∈ t.operations.map OperationRow.id)
    (f : ForeignKey) : ({ t with operationResults := rows } : Tables).References f := by
  have hold := h.references f
  cases f with
  | operationResults => exact hrows
  | operationResultsOperation => exact hoperations
  | _ => exact hold

/-! ## Tables that others refer to -/

theorem valid_eimConfig {rows : List EIMConfigRow} (hrows : (rows.map EIMConfigRow.key).Nodup) :
    ({ t with eimConfig := rows } : Tables).Valid := by
  refine ⟨fun c => ?_, fun f => ?_⟩
  · have hold := h.unique c
    cases c with
    | eimConfig => exact hrows
    | _ => exact hold
  · have hold := h.references f
    cases f <;> exact hold

/-- Rows of devices may be added and changed. -/
theorem valid_devices {rows : List DeviceRow} (hrows : (rows.map DeviceRow.key).Nodup)
    (hkept : ∀ key ∈ t.devices.map DeviceRow.key, key ∈ rows.map DeviceRow.key) :
    ({ t with devices := rows } : Tables).Valid := by
  refine ⟨fun c => ?_, fun f => ?_⟩
  · have hold := h.unique c
    cases c with
    | devices => exact hrows
    | _ => exact hold
  · have hold := h.references f
    cases f with
    | operationResultsOperation => exact hold
    | _ => exact fun row hrow => hkept _ (hold row hrow)

theorem valid_operations {rows : List OperationRow} (hids : (rows.map OperationRow.id).Nodup)
    (hrows : (rows.map OperationRow.key).Nodup)
    (hdevices : ∀ row ∈ rows, row.device ∈ t.devices.map DeviceRow.key)
    (hkept : ∀ id ∈ t.operations.map OperationRow.id, id ∈ rows.map OperationRow.id) :
    ({ t with operations := rows } : Tables).Valid := by
  refine ⟨fun c => ?_, fun f => ?_⟩
  · have hold := h.unique c
    cases c with
    | operationsID => exact hids
    | operationsSequence => exact hrows
    | _ => exact hold
  · have hold := h.references f
    cases f with
    | operations => exact hdevices
    | operationResultsOperation => exact fun row hrow id hid => hkept id (hold row hrow id hid)
    | _ => exact hold

/-- A new operation with an identifier and a sequence number that are free. -/
theorem valid_operations_append {new : OperationRow} (hid : new.id ∉ t.operations.map OperationRow.id)
    (hkey : new.key ∉ t.operations.map OperationRow.key)
    (hdevice : new.device ∈ t.devices.map DeviceRow.key) :
    ({ t with operations := t.operations ++ [new] } : Tables).Valid := by
  refine valid_operations h ?_ ?_ ?_ ?_
  · rw [List.map_append, List.map_singleton, ← List.concat_eq_append]
    exact (h.unique .operationsID).concat hid
  · rw [List.map_append, List.map_singleton, ← List.concat_eq_append]
    exact (h.unique .operationsSequence).concat hkey
  · intro row hrow
    rcases List.mem_append.mp hrow with hrow | hrow
    · exact h.references .operations row hrow
    · rwa [List.mem_singleton.mp hrow]
  · intro id hmem
    rw [List.map_append]
    exact List.mem_append_left _ hmem

end

end OpenIotRsp.Storage.Postgres
