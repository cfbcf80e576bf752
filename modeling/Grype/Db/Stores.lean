import Grype.Db.Differ

/-!
# Diffing, deleting and presenting the two databases

`DiffDatabases`, `DeleteDatabases` and `Present` of `grype/db/v5/differ/differ.go`.
`DiffDatabases` opens the base store and then the target store, defers closing each one as soon as
it is open, and diffs them. `diffDatabases_closes` replays what it does on each of its three paths
against the stack of open stores: every store it opens is closed once, the last opened first, and
the diff runs while both are open. `DeleteDatabases` deletes the target only after the base, and
`Present` hands the table one row per diff, in order.

The store, deletion and rendering calls are a `StoreEnv`. `CloseAndLogError` logs a failed close
and returns nothing, and the locations it logs are left out.
-/

namespace Grype.Db

/-- `v5.Diff`: a vulnerability that differs between the two databases. -/
structure Diff where
  reason : String
  id : String
  «namespace» : String
  packages : List String
  deriving DecidableEq, Repr

/-- What `DiffDatabases`, `DeleteDatabases` and `Present` call outside `differ.go`. -/
structure StoreEnv where
  /-- The error of `Curator.GetStore`, if any. -/
  getStoreError : Curator → Option GoError
  /-- `DiffStore` of the base store against the target store. -/
  diffStore : Curator → Curator → Except GoError (List Diff)
  /-- The error of `Curator.Delete`, if any. -/
  deleteError : Curator → Option GoError
  /-- The error of the table's `Bulk` for some rows, if any. -/
  bulk : List (List String) → Option GoError
  /-- The error of the table's `Render` after those rows, if any. -/
  render : List (List String) → Option GoError
  /-- The error of encoding the diffs as JSON, if any. -/
  encode : List Diff → Option GoError

/-- What the differ does to its stores and curators, in order. -/
inductive StoreAction where
  /-- `GetStore` opened the store of a curator. -/
  | opened (slot : Slot)
  /-- `DiffStore` ran. -/
  | diffed
  /-- A deferred `CloseAndLogError` closed a store. -/
  | closed (slot : Slot)
  /-- `Delete` was called on a curator. -/
  | deleted (slot : Slot)
  deriving DecidableEq, Repr

variable (senv : StoreEnv)

/-- `defer log.CloseAndLogError(store, ...)` over the rest of the function: the rest runs, then the
store is closed. -/
def deferClose {α : Type} (slot : Slot) (rest : List StoreAction × α) : List StoreAction × α :=
  (.opened slot :: rest.1 ++ [.closed slot], rest.2)

/-- `DiffDatabases`: what it does to the stores, and the diffs or the error. -/
def diffDatabases (d : Differ) : List StoreAction × Except GoError (List Diff) :=
  match senv.getStoreError d.baseCurator with
  | some err => ([], .error err)
  | none => deferClose .base <|
    match senv.getStoreError d.targetCurator with
    | some err => ([], .error err)
    | none => deferClose .target ([.diffed], senv.diffStore d.baseCurator d.targetCurator)

/-- Replays actions against the stack of open stores, the last opened first: a store is pushed when
opened and may be closed only from the top, and the diff needs the target over the base. `none` for
any other order. -/
def replay : List Slot → List StoreAction → Option (List Slot)
  | stack, [] => some stack
  | stack, .opened slot :: as => replay (slot :: stack) as
  | top :: stack, .closed slot :: as => if slot = top then replay stack as else none
  | [], .closed _ :: _ => none
  | stack, .diffed :: as => if stack = [.target, .base] then replay stack as else none
  | stack, .deleted _ :: as => replay stack as

/-- On every path of `DiffDatabases`, every store it opens is closed exactly once, the last opened
first, and the diff runs while both stores are open. -/
theorem diffDatabases_closes (d : Differ) : replay [] (diffDatabases senv d).1 = some [] := by
  unfold diffDatabases
  split
  · rfl
  · split <;> rfl

/-- `DeleteDatabases`: the curators it deletes, in order, and its error. -/
def deleteDatabases (d : Differ) : List StoreAction × Option GoError :=
  match senv.deleteError d.baseCurator with
  | some err =>
    ([.deleted .base], some (.errorfV "unable to delete vulnerability database: %+v" err))
  | none =>
    match senv.deleteError d.targetCurator with
    | some err => ([.deleted .base, .deleted .target],
        some (.errorfV "unable to delete vulnerability database: %+v" err))
    | none => ([.deleted .base, .deleted .target], none)

/-- `DeleteDatabases` deletes the target only once the base is deleted, and succeeds exactly when
both deletions do. -/
theorem deleteDatabases_order (d : Differ) :
    (deleteDatabases senv d).1 =
        .deleted .base ::
          (if senv.deleteError d.baseCurator = none then [.deleted .target] else []) ∧
      ((deleteDatabases senv d).2 = none ↔
        senv.deleteError d.baseCurator = none ∧ senv.deleteError d.targetCurator = none) := by
  unfold deleteDatabases
  split
  · simp_all
  · split <;> simp_all

/-- What `Present` writes: a table with its header and rows, or the diffs as JSON. -/
inductive Presented where
  | table (header : List String) (rows : GoSlice (List String))
  | json (diffs : List Diff)
  deriving DecidableEq, Repr

/-- The row of the table for one diff. -/
def diffRow (d : Diff) : List String := [d.id, d.«namespace», d.reason]

/-- `Present`: what it writes for the diffs that `diff` points to, and its error. -/
def present (outputFormat : String) (diff : Option (List Diff)) : List Presented × Option GoError :=
  match diff with
  | none => ([], none)
  | some diffs =>
    if outputFormat = "table" then
      let rows := GoSlice.appendAll diffRow GoSlice.make diffs
      match senv.bulk rows.toList with
      | some err => ([], some (.errorfV "failed to add table rows: %+v" err))
      | none => ([.table ["ID", "Namespace", "Reason"] rows], senv.render rows.toList)
    else if outputFormat = "json" then
      match senv.encode diffs with
      | some err => ([], some (.errorfV "failed to encode diff information: %+v" err))
      | none => ([.json diffs], none)
    else ([], some (.errorf "unsupported output format: %s" [outputFormat]))

/-- The table `Present` builds has one row per diff, its ID, namespace and reason, in the diffs'
order, as a slice value even for no diffs, under the header ID, Namespace, Reason; a `Bulk` error
is reported and nothing is written. -/
theorem present_table (diffs : List Diff) :
    present senv "table" (some diffs) =
      match senv.bulk (diffs.map fun d => [d.id, d.«namespace», d.reason]) with
      | some err => ([], some (.errorfV "failed to add table rows: %+v" err))
      | none =>
        ([.table ["ID", "Namespace", "Reason"]
            (.mk (diffs.map fun d => [d.id, d.«namespace», d.reason]))],
          senv.render (diffs.map fun d => [d.id, d.«namespace», d.reason])) := by
  simp [present, GoSlice.make, GoSlice.appendAll_mk]
  rfl

end Grype.Db
