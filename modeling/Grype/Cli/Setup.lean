import Grype.Go

/-!
# The application's setup

`cmd/grype/cli/cli.go`: the exit-code mapping and the UI constructor that `SetupConfig` installs,
the two extra lines of the version command (`syftVersion`, `dbVersion`), and `environWithoutCI`,
the environment through which the terminal renderer decides whether to style its output, with `CI`
taken out. A command that returns no error exits with 0; one that returns an error exits with the
mapping's code, which looks through `%w` wrapping to the grype sentinels.

`environWithoutCI` answers two questions about the environment, `Environ` with the list of entries
and `Getenv` with the value of one variable. `Environ` drops the entries that start with `CI=`, and
`Getenv` answers empty for `CI`; `environ_getenv` shows that the two agree, as views of the process
environment with `CI` unset, when the process's own `os.Getenv` reads its `os.Environ` as Go does
on Unix (`envValue`).
-/

namespace Grype.Cli

/-- `grypeerr.ErrDBUpgradeAvailable`. -/
def errDBUpgradeAvailable : GoError := .sentinel "ErrDBUpgradeAvailable"

/-- `grypeerr.ErrAboveSeverityThreshold`. -/
def errAboveSeverityThreshold : GoError := .sentinel "ErrAboveSeverityThreshold"

/-- The mapping of `WithMapExitCode`: 2 for an error that is or wraps
`ErrAboveSeverityThreshold`, 100 for one that is or wraps `ErrDBUpgradeAvailable`, and 1 for any
other. -/
def mapExitCode (err : GoError) : Nat :=
  if err.is "ErrAboveSeverityThreshold" then 2
  else if err.is "ErrDBUpgradeAvailable" then 100
  else 1

/-- Modelled from the spec: a command's exit code, 0 when it returns no error and the mapping's
code for the error it returns. -/
def exitCode : Option GoError → Nat
  | none => 0
  | some err => mapExitCode err

@[simp] theorem exitCode_none : exitCode none = 0 := rfl

@[simp] theorem exitCode_some (err : GoError) : exitCode (some err) = mapExitCode err := rfl

/-- Wrapping with `%w` keeps an error's exit code. -/
@[simp] theorem mapExitCode_wrapf (format : String) (args : List String) (err : GoError) :
    mapExitCode (.wrapf format args err) = mapExitCode err := by
  simp [mapExitCode, GoError.is]

/-- An error that `fmt.Errorf` builds without `%w` exits with 1. -/
@[simp] theorem mapExitCode_errorf (format : String) (args : List String) :
    mapExitCode (.errorf format args) = 1 := rfl

/-- An error that `fmt.Errorf` prints with `%+v` exits with 1, whatever it prints. -/
@[simp] theorem mapExitCode_errorfV (format : String) (err : GoError) :
    mapExitCode (.errorfV format err) = 1 := rfl

@[simp] theorem mapExitCode_errDBUpgradeAvailable : mapExitCode errDBUpgradeAvailable = 100 := rfl

/-- `ErrDBUpgradeAvailable`, when returned, exits with 100. -/
@[simp] theorem exitCode_upgrade (b : Bool) :
    exitCode (if b then some errDBUpgradeAvailable else none) = if b then 100 else 0 := by
  cases b <;> rfl


/-! ### The UI constructor -/

/-- A UI that `SetupConfig`'s constructor builds: `ui.None`, or `ui.New` with the grype and syft
event handlers; each is told whether logging is quiet. -/
inductive UI where
  | none (quiet : Bool)
  | full (quiet : Bool)
  deriving DecidableEq, Repr

/-- The UI constructor of `SetupConfig`, given `cfg.Log.AllowUI(os.Stdin)` and `cfg.Log.Quiet`:
the UIs it hands to `clio.NewUICollection`, in order. -/
def uiCollection (allowUI quiet : Bool) : List UI :=
  if !allowUI || quiet then [.none quiet] else [.full quiet, .none quiet]


/-! ### The version command's extra lines -/

/-- `debug.Module`, by the two fields `syftVersion` reads. -/
structure Module where
  path : String
  version : String
  deriving DecidableEq, Repr

/-- The loop of `syftVersion` over the binary's dependencies: the version of the first one whose
path is `github.com/anchore/syft`. -/
def findSyftVersion : List Module → Option String
  | [] => none
  | d :: deps =>
    if d.path = "github.com/anchore/syft" then some d.version else findSyftVersion deps

/-- `syftVersion`, given the dependencies that `debug.ReadBuildInfo` lists, or `none` when the
binary has no build information. -/
def syftVersion (buildInfo : Option (List Module)) : String × String :=
  match buildInfo with
  | none => ("", "")
  | some deps =>
    match findSyftVersion deps with
    | some v => ("Syft Version", v)
    | none => ("", "")

/-- `dbVersion`, for the schema version `v6.ModelVersion`. -/
def dbVersion (modelVersion : String) : String × String := ("Supported DB Schema", modelVersion)

/-- The loop returns at the first dependency on syft. -/
theorem findSyftVersion_eq (deps : List Module) :
    findSyftVersion deps =
      (deps.find? fun d => d.path == "github.com/anchore/syft").map Module.version := by
  induction deps with
  | nil => rfl
  | cons d deps ih =>
    by_cases h : d.path = "github.com/anchore/syft" <;> simp [findSyftVersion, h, ih]

/-- The version command prints a Syft version exactly when the binary lists syft among its
dependencies, and then the version of the first listing. -/
theorem syftVersion_eq (buildInfo : Option (List Module)) :
    syftVersion buildInfo =
      match buildInfo.bind fun deps => deps.find? fun d => d.path == "github.com/anchore/syft" with
      | some d => ("Syft Version", d.version)
      | none => ("", "") := by
  rcases buildInfo with _ | deps
  · rfl
  · rw [syftVersion, findSyftVersion_eq, Option.some_bind]
    cases deps.find? fun d => d.path == "github.com/anchore/syft" <;> rfl


/-! ### The environment without `CI` -/

/-- `strings.HasPrefix`. -/
def hasPrefix (s pre : String) : Bool := pre.toList.isPrefixOf s.toList

/-- `environWithoutCI.Environ`: the entries of the process environment `osEnviron` that do not
start with `CI=`, in order. -/
def environ (osEnviron : List String) : GoSlice String :=
  osEnviron.foldl (fun out s => if hasPrefix s "CI=" then out else out.append s) .nil

/-- `environWithoutCI.Getenv`. -/
def getenv (osGetenv : String → String) (s : String) : String :=
  if s = "CI" then "" else osGetenv s

/-- The value of `key` in a list of environment entries as Go's `os.Getenv` reads it on Unix: what
follows `key=` in the first entry that starts with it, or empty. An empty key, or one with `=`,
names no entry. -/
def envValue (entries : List String) (key : String) : String :=
  if key = "" ∨ '=' ∈ key.toList then ""
  else match entries.find? (hasPrefix · (key ++ "=")) with
    | some e => ⟨e.toList.drop (key.length + 1)⟩
    | none => ""

/-- The loop of `Environ` from any slice: the entries that do not start with `CI=` are appended in
order. -/
theorem toList_foldl_environ (acc : GoSlice String) (entries : List String) :
    (entries.foldl (fun out s => if hasPrefix s "CI=" then out else out.append s) acc).toList =
      acc.toList ++ entries.filter (fun s => !hasPrefix s "CI=") := by
  induction entries generalizing acc with
  | nil => simp
  | cons e es ih =>
    cases h : hasPrefix e "CI=" <;> simp [h, ih, List.filter_cons]

/-- A key that is not `CI` and has no `=` names no entry that starts with `CI=`. -/
theorem not_hasPrefix_CI {key e : String} (hk : '=' ∉ key.toList) (hci : key ≠ "CI")
    (he : hasPrefix e (key ++ "=") = true) : hasPrefix e "CI=" = false := by
  have hci' : key.toList ≠ ['C', 'I'] := fun h => hci (by cases key; cases h; rfl)
  rw [Bool.eq_false_iff]
  intro h1
  simp only [hasPrefix, String.toList, String.data_append, List.isPrefixOf_iff_prefix] at h1 he
  rcases List.prefix_or_prefix_of_prefix h1 he with ⟨t, ht⟩ | ⟨t, ht⟩ <;>
    match hkl : key.toList with
    | [] => simp_all
    | [a] => simp_all
    | [a, b] => simp_all <;> (obtain ⟨rfl, rfl, -⟩ := ht; exact hci' rfl rfl)
    | a :: b :: c :: r => simp_all

/-- `Environ` is the process environment with `CI` unset: every key other than `CI` has the value
it has in the process, and `CI` has none. -/
theorem envValue_environ (osEnviron : List String) (key : String) :
    envValue (environ osEnviron).toList key =
      if key = "CI" then "" else envValue osEnviron key := by
  rw [environ, toList_foldl_environ, GoSlice.toList_nil, List.nil_append]
  by_cases hci : key = "CI"
  · -- No entry left starts with `CI=`.
    subst hci
    have hn : (osEnviron.filter fun s => !hasPrefix s "CI=").find? (hasPrefix · ("CI" ++ "=")) =
        none :=
      List.find?_eq_none.mpr fun e he => by
        simpa [show ("CI" ++ "=" : String) = "CI=" from rfl] using (List.mem_filter.mp he).2
    rw [envValue, if_neg (by decide), hn, if_pos rfl]
  · rw [if_neg hci]
    unfold envValue
    split_ifs with h
    · rfl
    · simp only [not_or] at h
      rw [List.find?_filter]
      congr 2
      funext e
      cases he : hasPrefix e (key ++ "=")
      · simp
      · simp [not_hasPrefix_CI h.2 hci he]

/-- `environWithoutCI`'s `Getenv` and `Environ` agree: when the process's `os.Getenv` reads its
`os.Environ` as Go does, `Getenv` gives every key the value it has in the entries `Environ` lists,
and both are the process environment with `CI` unset. -/
theorem environ_getenv (osEnviron : List String) (osGetenv : String → String)
    (hos : ∀ key, osGetenv key = envValue osEnviron key) (key : String) :
    getenv osGetenv key = envValue (environ osEnviron).toList key ∧
      getenv osGetenv key = if key = "CI" then "" else envValue osEnviron key := by
  rw [envValue_environ, getenv, hos]
  exact ⟨rfl, rfl⟩

/-- In an environment that sets `CI` and `TERM`, `TERM` reads the same through both methods. -/
theorem environ_getenv_TERM :
    getenv (envValue ["CI=true", "TERM=xterm"]) "TERM" =
        envValue (environ ["CI=true", "TERM=xterm"]).toList "TERM" ∧
      getenv (envValue ["CI=true", "TERM=xterm"]) "TERM" =
        if "TERM" = "CI" then "" else envValue ["CI=true", "TERM=xterm"] "TERM" :=
  environ_getenv ["CI=true", "TERM=xterm"] _ (fun _ => rfl) "TERM"

end Grype.Cli
