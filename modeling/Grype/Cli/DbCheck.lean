import Grype.Cli.Setup

/-!
# `grype db check` and the exit codes

`runDBCheck` and `presentNewDBCheck` of `cmd/grype/cli/commands/db_check.go`, and the exit-code
mapping that `SetupConfig` installs (`cmd/grype/cli/cli.go`). The command asks the distribution
client whether an archive newer than the installed database is on offer, reports the answer as text
or JSON, and returns `grypeerr.ErrDBUpgradeAvailable` when there is one, which the mapping turns
into exit code 100. A database whose description cannot be read counts as none installed.

The client, the database file and the JSON encoder are an `Env`. `presentNewDBCheck` dereferences
the candidate archive when told that an update is available; the model returns `none` where that
dereference would panic. `exitCode_runDBCheck` shows that `runDBCheck` never gets there, and gives
the command's exit code in every case, through the mapping of `Cli/Setup.lean`.
-/

namespace Grype.Cli

/-- `db.Description`: a database's schema version and build time, by their `String()` texts. -/
structure Description where
  schemaVersion : String
  built : String
  deriving DecidableEq, Repr

/-- `distribution.Archive`: an archive on offer, with the description it embeds. -/
structure Archive where
  description : Description
  path : String
  checksum : String
  deriving DecidableEq, Repr

/-- `dbCheckJSON`. -/
structure DbCheckJSON where
  currentDB : Option Description
  candidateDB : Option Archive
  updateAvailable : Bool
  deriving DecidableEq, Repr

/-- What the command writes to standard output: a line of text, or an encoded JSON document. -/
inductive Written where
  | line (text : String)
  | json (doc : DbCheckJSON)
  deriving DecidableEq, Repr

/-- What `runDBCheck` calls outside `db_check.go`. -/
structure Env where
  /-- The error of `distribution.NewClient` for the command's configuration, if any. -/
  newClientError : Option GoError
  /-- `db.ReadDescription` of the installed database file. -/
  readDescription : Except GoError Description
  /-- The client's `IsUpdateAvailable`: the archive to update to, if any. -/
  isUpdateAvailable : Option Description → Except GoError (Option Archive)
  /-- The error of encoding a document to standard output, if any. -/
  encode : DbCheckJSON → Option GoError

/-- `textOutputFormat`, as the `--output` flag's help text lists it. -/
def textOutputFormat : String := "text"

/-- `jsonOutputFormat`, as the `--output` flag's help text lists it. -/
def jsonOutputFormat : String := "json"

variable (env : Env)

/-- `presentNewDBCheck`: what it writes and the error it returns; `none` where it dereferences a
nil candidate. -/
def presentNewDBCheck (format : String) (updateAvailable : Bool) (current : Option Description)
    (candidate : Option Archive) : Option (List Written × Option GoError) :=
  if format = textOutputFormat then
    let installed := match current with
      | some c => Written.line ("Installed DB version " ++ c.schemaVersion ++ " was built on " ++
          c.built)
      | none => .line "No installed DB version found"
    if !updateAvailable then some ([installed, .line "No update available"], none)
    else candidate.map fun c =>
      ([installed,
        .line ("Updated DB version " ++ c.description.schemaVersion ++ " was built on " ++
          c.description.built),
        .line "You can run 'grype db update' to update to the latest db"], none)
  else if format = jsonOutputFormat then
    let data : DbCheckJSON := ⟨current, candidate, updateAvailable⟩
    match env.encode data with
    | some err => some ([], some (.errorfV "failed to db listing information: %+v" err))
    | none => some ([.json data], none)
  else some ([], some (.errorf "unsupported output format: %s" [format]))

/-- `runDBCheck` with `--output` set to `output`: what it writes and the error it returns. -/
def runDBCheck (output : String) : Option (List Written × Option GoError) :=
  match env.newClientError with
  | some err => some ([], some (.wrapf "unable to create distribution client: %w" [] err))
  | none =>
    let current := env.readDescription.toOption
    match env.isUpdateAvailable current with
    | .error err =>
      some ([], some (.wrapf "unable to check for vulnerability database update: %w" [] err))
    | .ok archive =>
      let updateAvailable := archive.isSome
      (presentNewDBCheck env output updateAvailable current archive).map fun (written, err) =>
        match err with
        | some err => (written, some err)
        | none => (written, if updateAvailable then some errDBUpgradeAvailable else none)

/-- The exit code of `db check` once the client has answered `archive` for the installed
description `current`: 100 when there is an update, 0 when there is none, and 1 when the output
cannot be written. -/
def checkedExitCode (output : String) (current : Option Description) (archive : Option Archive) :
    Nat :=
  if output = textOutputFormat ∨
      output = jsonOutputFormat ∧ env.encode ⟨current, archive, archive.isSome⟩ = none
  then if archive.isSome then 100 else 0
  else 1

/-- `db check` always returns, and exits with: the code of the client's error if the client cannot
be made or cannot check, wrapping being transparent to `errors.Is`; otherwise 100 when an update is
available, 0 when none is, and 1 when the output format is not text or JSON or the JSON cannot be
written. -/
theorem exitCode_runDBCheck (output : String) :
    (runDBCheck env output).map (fun r => exitCode r.2) = some
      (match env.newClientError with
        | some err => mapExitCode err
        | none =>
          match env.isUpdateAvailable env.readDescription.toOption with
          | .error err => mapExitCode err
          | .ok archive => checkedExitCode env output env.readDescription.toOption archive) := by
  unfold runDBCheck
  cases env.newClientError with
  | some err => simp
  | none =>
    dsimp only
    cases env.isUpdateAvailable env.readDescription.toOption with
    | error err => simp
    | ok archive =>
      simp only [presentNewDBCheck, checkedExitCode]
      by_cases ht : output = textOutputFormat
      · cases archive <;> simp [ht]
      · by_cases hj : output = jsonOutputFormat
        · cases he : env.encode ⟨env.readDescription.toOption, archive, archive.isSome⟩ <;>
            simp [ht, hj, he, textOutputFormat, jsonOutputFormat]
        · simp [ht, hj]

/-- Once the client has answered `archive`, what `db check` reports agrees with how it exits: in
text, the last line is "No update available" exactly when it exits with 0, and the hint to run
`grype db update` exactly when it exits with 100; in JSON that the encoder writes, the document's
`updateAvailable` is the archive's presence and the error is `ErrDBUpgradeAvailable` exactly
then. -/
theorem runDBCheck_report (archive : Option Archive) (hc : env.newClientError = none)
    (ha : env.isUpdateAvailable env.readDescription.toOption = .ok archive) :
    (∃ written err, runDBCheck env textOutputFormat = some (written, err) ∧
      (written.getLast? = some (.line "No update available") ↔ exitCode err = 0) ∧
      (written.getLast? = some (.line "You can run 'grype db update' to update to the latest db") ↔
        exitCode err = 100)) ∧
    (env.encode ⟨env.readDescription.toOption, archive, archive.isSome⟩ = none →
      runDBCheck env jsonOutputFormat =
        some ([.json ⟨env.readDescription.toOption, archive, archive.isSome⟩],
          if archive.isSome then some errDBUpgradeAvailable else none)) := by
  constructor
  · cases archive <;> simp [runDBCheck, presentNewDBCheck, hc, ha, and_assoc]
  · intro he
    simp [runDBCheck, presentNewDBCheck, hc, ha, he, textOutputFormat, jsonOutputFormat]

end Grype.Cli
