import Grype.Go

/-!
# The database differ

`Differ`, `NewDiffer`, `SetBaseDB`, `SetTargetDB`, `setOrDownload` and `download` of
`grype/db/v5/differ/differ.go`. A differ holds two curators, one for the base database and one for
the target. `NewDiffer` builds both from one distribution configuration, each under its own
directory and with the configuration's listing URL and CA certificate. Each setter takes a local
path or a URL: a path replaces the setter's curator by one built from a configuration that holds
only the path; a URL is looked up in the listing that the *base* curator fetches, and the entry
found is downloaded into the setter's curator.

What the differ calls outside this file is an `Env`: `url.ParseRequestURI`, `path.Join`,
`v5.SchemaVersion`, when `NewCurator` fails, and the curator's `ListingFromURL` and `UpdateTo`. A
curator is represented by the configuration it was built from, which is all that `NewCurator` reads.
`download` also publishes a progress event for the UI, which the model leaves out.

A sequence of setter calls is `Differ.run`. `run_get` follows each curator through any run: it is
`NewDiffer`'s until its setter is given a path, and after that the curator built for the last such
path, whatever the other setter was given and whichever calls failed.
-/

namespace Grype.Db

/-- `legacyDistribution.Config`: the fields that `NewDiffer` and `setOrDownload` set. The other
fields stay zero in every configuration built here. -/
structure Config where
  dbRootDir : String
  listingURL : String
  caCert : String
  validateByHashOnGet : Bool
  deriving DecidableEq, Repr

/-- A `legacyDistribution.Curator` value: the curator that `NewCurator` builds from a configuration,
or the zero `Curator{}` that it returns with an error. -/
inductive Curator where
  | zero
  | ofConfig (config : Config)
  deriving DecidableEq, Repr

/-- A curator's `listingURL` field: empty in the zero curator. -/
def Curator.listingURL : Curator → String
  | .zero => ""
  | .ofConfig cfg => cfg.listingURL

/-- A `url.URL` as `ParseRequestURI` returns it. `User` is a `*Userinfo` pointer, kept as the
identity of the `Userinfo` it points to (`none` for nil): `*d.URL == *u` compares the other fields
by value and this one as a pointer, so two URLs with userinfo are equal only if one parse allocated
both. -/
structure URL where
  scheme : String
  opaqueData : String
  user : Option Nat
  host : String
  path : String
  rawPath : String
  omitHost : Bool
  forceQuery : Bool
  rawQuery : String
  fragment : String
  rawFragment : String
  deriving DecidableEq, Repr

/-- `legacyDistribution.ListingEntry`: one database archive that the listing offers. -/
structure ListingEntry where
  built : String
  version : Nat
  url : URL
  checksum : String
  deriving DecidableEq, Repr

/-- `legacyDistribution.Listing`: the archives on offer for each schema version. -/
structure Listing where
  available : Nat → List ListingEntry

/-- What the differ calls outside `differ.go`. -/
structure Env where
  /-- `url.ParseRequestURI`. -/
  parseRequestURI : String → Except GoError URL
  /-- `path.Join`. -/
  pathJoin : List String → String
  /-- `v5.SchemaVersion`. -/
  schemaVersion : Nat
  /-- The error `legacyDistribution.NewCurator` returns for a configuration, if any. -/
  newCuratorError : Config → Option GoError
  /-- `Curator.ListingFromURL`. -/
  listingFromURL : Curator → Except GoError Listing
  /-- The error of `Curator.UpdateTo` for an entry, if any. -/
  updateTo : Curator → ListingEntry → Option GoError

variable (env : Env)

/-- `legacyDistribution.NewCurator`: the curator built from `cfg`, or the zero curator and the
error. -/
def newCurator (cfg : Config) : Curator × Option GoError :=
  match env.newCuratorError cfg with
  | some err => (.zero, some err)
  | none => (.ofConfig cfg, none)

/-- `NewCurator` without an error returns the curator built from the configuration. -/
theorem newCurator_eq_none {cfg : Config} {c : Curator} (h : newCurator env cfg = (c, none)) :
    c = .ofConfig cfg := by
  unfold newCurator at h
  split at h <;> simp_all

/-- The two curators of `db diff`. -/
structure Differ where
  baseCurator : Curator
  targetCurator : Curator
  deriving DecidableEq, Repr

/-- The configuration `NewDiffer` builds for the curator under `diff/<name>`. -/
def diffConfig (config : Config) (name : String) : Config where
  dbRootDir := env.pathJoin [config.dbRootDir, "diff", name]
  listingURL := config.listingURL
  caCert := config.caCert
  validateByHashOnGet := config.validateByHashOnGet

/-- `NewDiffer`. -/
def newDiffer (config : Config) : Except GoError Differ :=
  match newCurator env (diffConfig env config "base") with
  | (_, some err) => .error err
  | (baseCurator, none) =>
    match newCurator env (diffConfig env config "target") with
    | (_, some err) => .error err
    | (targetCurator, none) => .ok { baseCurator, targetCurator }

/-- The curator field that a setter passes to `setOrDownload`. -/
inductive Slot where
  | base
  | target
  deriving DecidableEq, Repr

/-- `*curator` for the field `slot`. -/
def Differ.get (d : Differ) : Slot → Curator
  | .base => d.baseCurator
  | .target => d.targetCurator

/-- `*curator = c` for the field `slot`. -/
def Differ.set (d : Differ) : Slot → Curator → Differ
  | .base, c => { d with baseCurator := c }
  | .target, c => { d with targetCurator := c }

/-- The URL that `filenameOrURL` names, when `ParseRequestURI` accepts it with a scheme; otherwise
`setOrDownload` takes it for a path. -/
def requestURL (filenameOrURL : String) : Option URL :=
  match env.parseRequestURI filenameOrURL with
  | .ok u => if u.scheme = "" then none else some u
  | .error _ => none

/-- `legacyDistribution.Config{DBRootDir: filenameOrURL}`. -/
def pathConfig (filenameOrURL : String) : Config where
  dbRootDir := filenameOrURL
  listingURL := ""
  caCert := ""
  validateByHashOnGet := false

/-- The loop over the listing's entries: the last one whose URL is `u`. -/
def findListing (dbs : List ListingEntry) (u : URL) : Option ListingEntry :=
  dbs.foldl (fun listing d => if d.url = u then some d else listing) none

/-- The loop from any starting value: the last entry whose URL is `u`, or the starting value when
there is none. -/
theorem foldl_findListing (dbs : List ListingEntry) (u : URL) (acc : Option ListingEntry) :
    dbs.foldl (fun listing d => if d.url = u then some d else listing) acc =
      (dbs.filter fun d => d.url = u).getLast?.or acc := by
  induction dbs generalizing acc with
  | nil => rfl
  | cons d ds ih =>
    by_cases h : d.url = u
    · simp only [List.foldl_cons, h, if_true, ih, List.filter_cons, decide_True, List.getLast?_cons]
      cases (ds.filter fun d => d.url = u).getLast? <;> rfl
    · simp [ih, h]

/-- `setOrDownload` downloads the last entry of the listing whose URL is the argument's. -/
theorem findListing_eq_last_match (dbs : List ListingEntry) (u : URL) :
    findListing dbs u = (dbs.filter fun d => d.url = u).getLast? := by
  rw [findListing, foldl_findListing]
  cases (dbs.filter fun d => d.url = u).getLast? <;> rfl

/-- An argument with userinfo is found in no listing whose entries hold other `*Userinfo` pointers,
whatever its other fields: the loop compares `User` as a pointer, and `ParseRequestURI` allocates a
fresh one. -/
theorem findListing_eq_none_of_user (dbs : List ListingEntry) (u : URL) (ptr : Nat)
    (hu : u.user = some ptr) (hfresh : ∀ e ∈ dbs, e.url.user ≠ some ptr) :
    findListing dbs u = none := by
  rw [findListing, foldl_findListing, List.filter_eq_nil_iff.mpr]
  · rfl
  · intro e he heq
    exact hfresh e he (by rw [of_decide_eq_true heq, hu])

/-- `download`: the error of `curator.UpdateTo(listing, ...)`, if any. -/
def download (curator : Curator) (listing : ListingEntry) : Option GoError :=
  env.updateTo curator listing

/-- The URL branch of `setOrDownload`: the error of finding `u` in the listing that
`listingCurator` fetches and downloading it into `curator`, if any. -/
def downloadURL (listingCurator curator : Curator) (filenameOrURL : String) (u : URL) :
    Option GoError :=
  match env.listingFromURL listingCurator with
  | .error err => some err
  | .ok listings =>
    match findListing (listings.available env.schemaVersion) u with
    | none => some (.errorf "unable to find listing for url: %s" [filenameOrURL])
    | some listing =>
      (download env curator listing).map (.errorfV "unable to download vulnerability database: %+v")

/-- `setOrDownload(&d.<slot>, filenameOrURL)`: the differ after the call, and its error. The URL
branch fetches the listing through `d.baseCurator`, whichever slot it sets. -/
def setOrDownload (d : Differ) (slot : Slot) (filenameOrURL : String) : Differ × Option GoError :=
  match requestURL env filenameOrURL with
  | none =>
    let (curator, err) := newCurator env (pathConfig filenameOrURL)
    (d.set slot curator, err)
  | some u => (d, downloadURL env d.baseCurator (d.get slot) filenameOrURL u)

/-- A call on a differ. -/
inductive Call where
  | setBaseDB (base : String)
  | setTargetDB (target : String)
  deriving DecidableEq, Repr

/-- `SetBaseDB` and `SetTargetDB`. -/
def Differ.call (d : Differ) : Call → Differ × Option GoError
  | .setBaseDB base => setOrDownload env d .base base
  | .setTargetDB target => setOrDownload env d .target target

/-- A sequence of calls on one differ, each made whether the ones before it failed or not: the
differ at the end and the error of each call. -/
def Differ.run : Differ → List Call → Differ × List (Option GoError)
  | d, [] => (d, [])
  | d, c :: cs =>
    let (d', err) := d.call env c
    let (d'', errs) := d'.run cs
    (d'', err :: errs)

/-- Reading a field after setting one: the new curator if it is the same field. -/
@[simp] theorem Differ.get_set (d : Differ) (slot slot' : Slot) (c : Curator) :
    (d.set slot c).get slot' = if slot = slot' then c else d.get slot' := by
  cases slot <;> cases slot' <;> rfl

/-- A run is its first call, then the rest from the differ that call leaves. -/
theorem Differ.run_cons (d : Differ) (c : Call) (cs : List Call) :
    d.run env (c :: cs) =
      (((d.call env c).1.run env cs).1, (d.call env c).2 :: ((d.call env c).1.run env cs).2) := rfl

/-! ### The curators over a run -/

/-- The field that a call sets. -/
def Call.slot : Call → Slot
  | .setBaseDB _ => .base
  | .setTargetDB _ => .target

/-- The string that a call is given. -/
def Call.arg : Call → String
  | .setBaseDB s => s
  | .setTargetDB s => s

/-- A call is `setOrDownload` of the field it sets. -/
theorem Differ.call_eq (d : Differ) (c : Call) :
    d.call env c = setOrDownload env d c.slot c.arg := by
  cases c <;> rfl

/-- The path that a call gives to the setter of `slot`, if it gives one. -/
def slotPath (slot : Slot) (c : Call) : Option String :=
  if c.slot = slot ∧ requestURL env c.arg = none then some c.arg else none

/-- The last path that a sequence of calls gives to the setter of `slot`, if any. -/
def lastPath (slot : Slot) : List Call → Option String
  | [] => none
  | c :: cs => (lastPath slot cs).or (slotPath env slot c)

/-- The curator that a setter leaves after it is given the path `p`: `NewCurator`'s for
`Config{DBRootDir: p}`, or the zero curator if that failed. Either has no listing URL. -/
def pathCurator (p : String) : Curator := (newCurator env (pathConfig p)).1

/-- One call changes a field only when it gives that field's setter a path. -/
theorem call_get (d : Differ) (c : Call) (slot : Slot) :
    (d.call env c).1.get slot =
      ((slotPath env slot c).map (pathCurator env)).getD (d.get slot) := by
  rw [Differ.call_eq]
  unfold setOrDownload slotPath
  split <;> rename_i h <;> by_cases hs : c.slot = slot <;> simp [h, hs, pathCurator]

/-- Over any run, a field holds the curator it started with until its setter is given a path, and
the curator built for the last such path after that; the other setter, URLs and failures do not
change it. -/
theorem run_get (d : Differ) (slot : Slot) (calls : List Call) :
    (d.run env calls).1.get slot =
      ((lastPath env slot calls).map (pathCurator env)).getD (d.get slot) := by
  induction calls generalizing d with
  | nil => rfl
  | cons c cs ih =>
    rw [Differ.run_cons, ih, call_get, lastPath]
    cases lastPath env slot cs <;> rfl

/-- `SetBaseDB(b)` and `SetTargetDB(t)` end in the same differ and give each call the same error in
either order, unless `b` is a path and `t` a URL. -/
theorem run_setBaseDB_setTargetDB_comm (d : Differ) (b t : String)
    (h : (requestURL env b).isSome ∨ requestURL env t = none) :
    d.run env [.setBaseDB b, .setTargetDB t] =
      ((d.run env [.setTargetDB t, .setBaseDB b]).1,
        (d.run env [.setTargetDB t, .setBaseDB b]).2.reverse) := by
  simp only [Differ.run_cons, Differ.run, Differ.call, setOrDownload]
  cases hb : requestURL env b <;> cases ht : requestURL env t <;> simp_all [Differ.set, Differ.get]

/-! ### Runs from `NewDiffer` -/

/-- `NewDiffer` succeeds only with the two curators built from the configuration. -/
theorem newDiffer_eq_ok (c : Config) (d : Differ) (hd : newDiffer env c = .ok d) :
    d = ⟨.ofConfig (diffConfig env c "base"), .ofConfig (diffConfig env c "target")⟩ := by
  unfold newDiffer at hd
  split at hd
  next => cases hd
  next _ base hb =>
    split at hd
    next => cases hd
    next _ target ht =>
      cases hd
      rw [newCurator_eq_none env hb, newCurator_eq_none env ht]

/-! ### An example environment -/

/-- The URL of the archive that the example listing offers, as `ParseRequestURI` reads it. -/
def exampleDbURL : URL where
  scheme := "https"
  opaqueData := ""
  user := none
  host := "example.com"
  path := "/vulnerability-db_v5.tar.gz"
  rawPath := ""
  omitHost := false
  forceQuery := false
  rawQuery := ""
  fragment := ""
  rawFragment := ""

/-- A listing that offers one schema-5 archive. -/
def exampleListing : Listing where
  available v := if v = 5 then [⟨"2024-01-01T00:00:00Z", 5, exampleDbURL, "sha256:00"⟩] else []

/-- An environment in which `ParseRequestURI` reads `/tmp/base` as a path and the archive's URL as
a URL, no curator fails to build or update, and a curator without a listing URL cannot download a
listing. It agrees with Go only on the inputs the theorems below give it: its `ParseRequestURI`
takes every other string for a path, some of which Go reads as URLs or rejects differently, and its
`pathJoin` joins with `/` without cleaning the result as `path.Join` does. -/
def exampleEnv : Env where
  parseRequestURI s := .ok <|
    if s = "https://example.com/vulnerability-db_v5.tar.gz" then exampleDbURL
    else { exampleDbURL with scheme := "", host := "", path := s }
  pathJoin := "/".intercalate
  schemaVersion := 5
  newCuratorError _ := none
  listingFromURL c :=
    if c.listingURL = "" then .error (.text "unable to download listing") else .ok exampleListing
  updateTo _ _ := none

/-- A distribution configuration with a listing URL. -/
def exampleConfig : Config where
  dbRootDir := "/var/cache/grype"
  listingURL := "https://example.com/listing.json"
  caCert := ""
  validateByHashOnGet := false

/-- The differ that `NewDiffer` builds for the example configuration. -/
def exampleDiffer : Differ :=
  ⟨.ofConfig (diffConfig exampleEnv exampleConfig "base"),
    .ofConfig (diffConfig exampleEnv exampleConfig "target")⟩

/-- A curator built from a configuration with `config`'s listing URL and CA certificate. -/
def BuiltWithListing (config : Config) (curator : Curator) : Prop :=
  ∃ cfg, curator = .ofConfig cfg ∧ cfg.listingURL = config.listingURL ∧ cfg.caCert = config.caCert

/-- With a listing URL in the configuration, `SetBaseDB("/tmp/base")` leaves a base curator built
from `Config{DBRootDir: "/tmp/base"}` alone, and the `SetTargetDB` of the listing's own archive that
follows fails to download the listing through it, while the same two calls in the other order both
succeed. -/
theorem setBaseDB_path_then_setTargetDB_url :
    newDiffer exampleEnv exampleConfig = .ok exampleDiffer ∧
      (exampleDiffer.run exampleEnv [.setBaseDB "/tmp/base"]).1.baseCurator =
        .ofConfig ⟨"/tmp/base", "", "", false⟩ ∧
      ¬ BuiltWithListing exampleConfig
        (exampleDiffer.run exampleEnv [.setBaseDB "/tmp/base"]).1.baseCurator ∧
      (exampleDiffer.run exampleEnv [.setBaseDB "/tmp/base",
          .setTargetDB "https://example.com/vulnerability-db_v5.tar.gz"]).2 =
        [none, some (.text "unable to download listing")] ∧
      (exampleDiffer.run exampleEnv [.setTargetDB "https://example.com/vulnerability-db_v5.tar.gz",
          .setBaseDB "/tmp/base"]).2 = [none, none] := by
  refine ⟨rfl, rfl, ?_, rfl, rfl⟩
  rintro ⟨cfg, hcfg, hl, -⟩
  cases hcfg
  exact absurd hl (by decide)

/-- The target curator of a differ that `NewDiffer(c)` built, over any run of setter calls: the
curator built from `diffConfig c "target"` until `SetTargetDB` is given a path, and the curator
built for the last such path after that; `SetBaseDB` never changes it. -/
theorem newDiffer_run_targetCurator (c : Config) (d : Differ) (hd : newDiffer env c = .ok d)
    (calls : List Call) :
    (d.run env calls).1.targetCurator =
      ((lastPath env .target calls).map (pathCurator env)).getD
        (.ofConfig (diffConfig env c "target")) := by
  rw [← Differ.get, run_get, newDiffer_eq_ok env c d hd]
  rfl

/-- A target path and a listed base archive leave the example differ's target curator the one built
from `Config{DBRootDir: "/tmp/target"}`. -/
theorem newDiffer_run_targetCurator_url :
    newDiffer exampleEnv exampleConfig = .ok exampleDiffer ∧
      (exampleDiffer.run exampleEnv [.setTargetDB "/tmp/target",
          .setBaseDB "https://example.com/vulnerability-db_v5.tar.gz"]).1.targetCurator =
        .ofConfig ⟨"/tmp/target", "", "", false⟩ :=
  ⟨rfl, (newDiffer_run_targetCurator exampleEnv exampleConfig exampleDiffer rfl _).trans rfl⟩

end Grype.Db
