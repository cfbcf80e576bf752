import Grype.Match

/-!
# The distro matcher

`MatchPackageByDistro` and `isUnknownVersion` of the matcher package `internal`
(`src/unnamed/part_000`). A package with no distro, or whose version is `unknown` in any case, is
skipped without a query. Otherwise the provider is asked once, for the package's name on its
distro with the qualifier and version filters, and each vulnerability it returns becomes one
exact-direct match with confidence `1.0`.

The functions of other packages that the matcher calls are the section's parameters:
`unicode.ToLower` (through which `strings.ToLower` maps each rune), `version.NewVersionFromPkg`,
and `distro.Distro.String`, which the fetch error prints. `distro.Type.String` is the type's own
string. The provider's method runs in any monad `m`, so `matchPackageByDistro_spec` says what is
queried as an equation of computations: `pure` when nothing is, and one bind of
`findVulnerabilities` with the four criteria otherwise. What it returns is stated without the
code's own builders: `IsDistroMatch` spells out every field of a match as the spec lists them, and
`DistroOutcome` pairs the matches with the provider's records one for one, in order. The
provider's own contract is `Honours`: what it returns meets the criteria of the query.
`matchPackageByDistro_honours` shows that the matcher keeps it: every match is for the package and
meets all four criteria, the version filter among them.
-/

namespace Grype.Matcher

variable (unicodeToLower : Char → Char) (newVersionFromPkg : Package → Version)
  (distroString : Distro → String)

/-- `strings.ToLower`: `unicode.ToLower` on every rune. -/
def stringsToLower (s : String) : String := ⟨s.toList.map unicodeToLower⟩

/-- `isUnknownVersion`: the version is `unknown` in any case. -/
def isUnknownVersion (v : String) : Bool := stringsToLower unicodeToLower v == "unknown"

/-- A rune that some ASCII case of a letter of `unknown` lowers to is ASCII. -/
theorem toNat_lt_of_toLower_mem {c : Char} (h : c.toLower ∈ ['u', 'n', 'k', 'n', 'o', 'w', 'n']) :
    c.toNat < 128 := by
  by_cases hc : c.toNat ≥ 65 ∧ c.toNat ≤ 90
  · omega
  · simp only [Char.toLower, hc, if_false, List.mem_cons, List.mem_singleton, List.not_mem_nil,
      or_false] at h
    rcases h with rfl | rfl | rfl | rfl | rfl | rfl | rfl <;> decide

/-- Every ASCII casing of `unknown` is an unknown version, whatever `unicode.ToLower` does outside
ASCII, as long as it lowers ASCII letters as Go's does. -/
theorem isUnknownVersion_of_ascii
    (hascii : ∀ c : Char, c.toNat < 128 → unicodeToLower c = c.toLower) (v : String)
    (hv : v.toList.map Char.toLower = ['u', 'n', 'k', 'n', 'o', 'w', 'n']) :
    isUnknownVersion unicodeToLower v = true := by
  have hmap : v.toList.map unicodeToLower = v.toList.map Char.toLower :=
    List.map_congr_left fun c hc =>
      hascii c (toNat_lt_of_toLower_mem (hv ▸ List.mem_map_of_mem _ hc))
  simp only [isUnknownVersion, stringsToLower, hmap, hv]
  decide

example : isUnknownVersion Char.toLower "UnKnOwN" = true := by decide

/-- The criteria of the query for `p` on its distro `d`. -/
def distroCriteria (p : Package) (d : Distro) : List Criterion :=
  [.byPackageName p.name, .byDistro d, .onlyQualifiedPackages p,
    .onlyVulnerableVersions (newVersionFromPkg p)]

/-- The match that the loop builds for one vulnerability of `p` on its distro `d`. -/
def distroMatch (p : Package) (d : Distro) (upstreamMatcher : MatcherType) (vuln : Vulnerability) :
    Match where
  vulnerability := vuln
  package := p
  details := .mk [{
    type := .exactDirectMatch
    matcher := upstreamMatcher
    searchedBy := [
      ("distro", .strMap [("type", d.type), ("version", d.version)]),
      ("package", .strMap [("name", p.name), ("version", p.version)]),
      ("namespace", .str vuln.«namespace»)]
    found := [
      ("vulnerabilityID", .str vuln.id),
      ("versionConstraint", .str vuln.constraint.string)]
    confidence := 1.0 }]

/-- What `MatchPackageByDistro` returns once the provider has answered `r`. -/
def distroResult (p : Package) (d : Distro) (upstreamMatcher : MatcherType) :
    Except GoError (List Vulnerability) → MatcherResult
  | .error err => (.nil, .nil,
      some (.wrapf "matcher failed to fetch distro=%q pkg=%q: %w" [distroString d, p.name] err))
  | .ok vulns => (GoSlice.appendAll (distroMatch p d upstreamMatcher) .nil vulns, .nil, none)

/-- `MatchPackageByDistro`. -/
def matchPackageByDistro {m : Type → Type} [Monad m] (provider : Provider m) (p : Package)
    (upstreamMatcher : MatcherType) : m MatcherResult :=
  match p.distro with
  | none => pure (.nil, .nil, none)
  | some d =>
    if isUnknownVersion unicodeToLower p.version then pure (.nil, .nil, none)
    else do
      let r ← provider.findVulnerabilities (distroCriteria newVersionFromPkg p d)
      pure (distroResult distroString p d upstreamMatcher r)

/-- A match as the spec describes it, for the vulnerability `v` of `p` on its distro `d`, found by
the matcher `mt`: the vulnerability and the package themselves, and exactly one detail, exact-direct
with confidence `1.0`, whose searched-by map records the distro's type and version, the package's
name and version and the record's namespace, and whose found map records the record's ID and
constraint. -/
def IsDistroMatch (p : Package) (d : Distro) (mt : MatcherType) (v : Vulnerability) (x : Match) :
    Prop :=
  x.vulnerability = v ∧ x.package = p ∧
    ∃ detail : Detail, x.details = .mk [detail] ∧ detail.type = .exactDirectMatch ∧
      detail.matcher = mt ∧ detail.confidence = 1.0 ∧
      detail.searchedBy = [("distro", .strMap [("type", d.type), ("version", d.version)]),
        ("package", .strMap [("name", p.name), ("version", p.version)]),
        ("namespace", .str v.«namespace»)] ∧
      detail.found = [("vulnerabilityID", .str v.id),
        ("versionConstraint", .str v.constraint.string)]

/-- What the matcher returns for the provider's answer `r`: for an error, no matches and a non-nil
error; for a list of vulnerabilities, one match for each, in the list's order, as `IsDistroMatch`
describes it, and no error. Neither returns an ignore filter. -/
def DistroOutcome (p : Package) (d : Distro) (mt : MatcherType) :
    Except GoError (List Vulnerability) → MatcherResult → Prop
  | .error _, (ms, fs, err) => ms = .nil ∧ fs = .nil ∧ err.isSome
  | .ok vulns, (ms, fs, err) =>
    List.Forall₂ (IsDistroMatch p d mt) vulns ms.toList ∧ fs = .nil ∧ err = none

/-- The loop's match for a vulnerability is the one the spec describes. -/
theorem distroMatch_isDistroMatch (p : Package) (d : Distro) (mt : MatcherType)
    (v : Vulnerability) : IsDistroMatch p d mt v (distroMatch p d mt v) :=
  ⟨rfl, rfl, _, rfl, rfl, rfl, rfl, rfl, rfl⟩

/-- The result after the query is the outcome the spec asks for, whatever the provider answered. -/
theorem distroResult_outcome (p : Package) (d : Distro) (mt : MatcherType)
    (r : Except GoError (List Vulnerability)) :
    DistroOutcome p d mt r (distroResult distroString p d mt r) := by
  cases r with
  | error err => exact ⟨rfl, rfl, rfl⟩
  | ok vulns =>
    refine ⟨?_, rfl, rfl⟩
    show List.Forall₂ _ vulns (GoSlice.appendAll (distroMatch p d mt) .nil vulns).toList
    rw [GoSlice.toList_appendAll, GoSlice.toList_nil, List.nil_append]
    induction vulns with
    | nil => exact .nil
    | cons v vs ih => exact .cons (distroMatch_isDistroMatch p d mt v) ih

variable {m : Type → Type} [Monad m]

/-- A package with no distro, or with an unknown version, is skipped without a query. -/
theorem matchPackageByDistro_skip (provider : Provider m) (p : Package) (mt : MatcherType)
    (h : p.distro = none ∨ isUnknownVersion unicodeToLower p.version = true) :
    matchPackageByDistro unicodeToLower newVersionFromPkg distroString provider p mt =
      pure (.nil, .nil, none) := by
  unfold matchPackageByDistro
  split
  · rfl
  · rename_i d hd
    simp [h.resolve_left (by simp [hd])]

/-- Any other package is looked up by one query with the distro criteria, and the result is
`distroResult` of the answer. -/
theorem matchPackageByDistro_query (provider : Provider m) (p : Package) (mt : MatcherType)
    (d : Distro) (hd : p.distro = some d) (hv : isUnknownVersion unicodeToLower p.version = false) :
    matchPackageByDistro unicodeToLower newVersionFromPkg distroString provider p mt =
      provider.findVulnerabilities (distroCriteria newVersionFromPkg p d) >>= fun r =>
        pure (distroResult distroString p d mt r) := by
  simp [matchPackageByDistro, hd, hv]

/-! ### The whole contract, and the Debian scenario of the spec -/

/-- Debian 11, the distro of the spec's first scenario. -/
def exampleDistro : Distro := ⟨"debian", "11", "bullseye", []⟩

/-- `openssl` installed by Debian 11, with the version string `v`. -/
def opensslPackage (v : String) : Package where
  id := "openssl-id"
  name := "openssl"
  version := v
  locations := ⟨[]⟩
  language := ""
  distro := some exampleDistro
  licenses := .nil
  type := "deb"
  cpes := .nil
  purl := "pkg:deb/debian/openssl"
  upstreams := .nil
  metadata := none

/-- The Debian record for `openssl` of the spec's first scenario. -/
def debianRecord : Vulnerability :=
  ⟨"CVE-2022-3602", "debian:distro:debian:11", ⟨"< 1.1.1n-0+deb11u4 (deb)"⟩⟩

/-- A provider with no effects that answers every query with `debianRecord`. -/
def exampleProvider : Provider Id := ⟨fun _ => .ok [debianRecord]⟩

/-- A version read in the `deb` format. -/
def debVersion (p : Package) : Version := ⟨p.version, "deb"⟩

/-- `MatchPackageByDistro` for every provider, package and matcher type. A package with no distro
or an unknown version gets nothing, and the computation is `pure`: the provider is not queried.
Any other package makes the computation one `findVulnerabilities` query, for the package's name, its
distro, the qualifier filter and the version filter, followed by `pure` of a result that meets
`DistroOutcome` for the answer: no match and an error, or one match per record as the spec
describes it. -/
theorem matchPackageByDistro_spec (provider : Provider m) (p : Package) (mt : MatcherType) :
    ((p.distro = none ∨ isUnknownVersion unicodeToLower p.version = true) →
      matchPackageByDistro unicodeToLower newVersionFromPkg distroString provider p mt =
        pure (.nil, .nil, none)) ∧
    ∀ d, p.distro = some d → isUnknownVersion unicodeToLower p.version = false →
      ∃ k : Except GoError (List Vulnerability) → MatcherResult,
        matchPackageByDistro unicodeToLower newVersionFromPkg distroString provider p mt =
          (provider.findVulnerabilities [.byPackageName p.name, .byDistro d,
              .onlyQualifiedPackages p, .onlyVulnerableVersions (newVersionFromPkg p)] >>=
            fun r => pure (k r)) ∧
        ∀ r, DistroOutcome p d mt r (k r) :=
  ⟨matchPackageByDistro_skip unicodeToLower newVersionFromPkg distroString provider p mt,
    fun d hd hv => ⟨_, matchPackageByDistro_query unicodeToLower newVersionFromPkg distroString
      provider p mt d hd hv, distroResult_outcome distroString p d mt⟩⟩

/-- `openssl` with the version `UnKnOwN` is skipped; with `1.1.1n-0+deb11u3` it is looked up once,
and the provider's Debian record becomes one exact-direct match with confidence `1.0`. -/
theorem matchPackageByDistro_openssl :
    matchPackageByDistro Char.toLower debVersion (·.type) exampleProvider
        (opensslPackage "UnKnOwN") ⟨"dpkg-matcher"⟩ = pure (.nil, .nil, none) ∧
      (∃ k : Except GoError (List Vulnerability) → MatcherResult,
        matchPackageByDistro Char.toLower debVersion (·.type) exampleProvider
            (opensslPackage "1.1.1n-0+deb11u3") ⟨"dpkg-matcher"⟩ =
          (exampleProvider.findVulnerabilities [.byPackageName "openssl", .byDistro exampleDistro,
              .onlyQualifiedPackages (opensslPackage "1.1.1n-0+deb11u3"),
              .onlyVulnerableVersions ⟨"1.1.1n-0+deb11u3", "deb"⟩] >>=
            fun r => pure (k r)) ∧
        ∀ r, DistroOutcome (opensslPackage "1.1.1n-0+deb11u3") exampleDistro ⟨"dpkg-matcher"⟩ r
          (k r)) ∧
      Id.run (matchPackageByDistro Char.toLower debVersion (·.type) exampleProvider
          (opensslPackage "1.1.1n-0+deb11u3") ⟨"dpkg-matcher"⟩) =
        (.mk [{ vulnerability := debianRecord
                package := opensslPackage "1.1.1n-0+deb11u3"
                details := .mk [{
                  type := .exactDirectMatch
                  matcher := ⟨"dpkg-matcher"⟩
                  searchedBy := [("distro", .strMap [("type", "debian"), ("version", "11")]),
                    ("package", .strMap [("name", "openssl"), ("version", "1.1.1n-0+deb11u3")]),
                    ("namespace", .str "debian:distro:debian:11")]
                  found := [("vulnerabilityID", .str "CVE-2022-3602"),
                    ("versionConstraint", .str "< 1.1.1n-0+deb11u4 (deb)")]
                  confidence := 1.0 }] }],
          .nil, none) :=
  ⟨(matchPackageByDistro_spec Char.toLower debVersion (·.type) exampleProvider
      (opensslPackage "UnKnOwN") ⟨"dpkg-matcher"⟩).1 (.inr (by decide)),
    (matchPackageByDistro_spec Char.toLower debVersion (·.type) exampleProvider
      (opensslPackage "1.1.1n-0+deb11u3") ⟨"dpkg-matcher"⟩).2 _ rfl (by decide),
    rfl⟩

/-! ### A provider that honours its criteria -/

/-- The provider's contract, for a meaning `Meets` of the criteria: every vulnerability it returns
for a query meets each criterion of that query. -/
def Honours (Meets : Criterion → Vulnerability → Prop) (provider : Provider Id) : Prop :=
  ∀ criteria vulns, provider.findVulnerabilities criteria = .ok vulns →
    ∀ v ∈ vulns, ∀ c ∈ criteria, Meets c v

/-- Every match is for the package itself and for a vulnerability that the provider returned for
the package's query, so a provider that honours its criteria gives only matches that meet all four:
the package's name, its distro, the qualifier filter for the package, and the version filter for
the package's version. -/
theorem matchPackageByDistro_honours (Meets : Criterion → Vulnerability → Prop)
    (provider : Provider Id) (hp : Honours Meets provider) (p : Package) (mt : MatcherType) :
    ∀ x ∈ (Id.run (matchPackageByDistro unicodeToLower newVersionFromPkg distroString provider p
        mt)).1.toList,
      x.package = p ∧ ∃ d, p.distro = some d ∧
        Meets (.byPackageName p.name) x.vulnerability ∧ Meets (.byDistro d) x.vulnerability ∧
        Meets (.onlyQualifiedPackages p) x.vulnerability ∧
        Meets (.onlyVulnerableVersions (newVersionFromPkg p)) x.vulnerability := by
  intro x hx
  cases hd : p.distro with
  | none => rw [matchPackageByDistro_skip _ _ _ _ _ _ (.inl hd)] at hx; cases hx
  | some d =>
    cases hv : isUnknownVersion unicodeToLower p.version
    · rw [matchPackageByDistro_query _ _ _ _ _ _ d hd hv] at hx
      -- In `Id`, the query's bind is the result for the provider's answer.
      change x ∈ (distroResult distroString p d mt
        (provider.findVulnerabilities (distroCriteria newVersionFromPkg p d))).1.toList at hx
      cases hr : provider.findVulnerabilities (distroCriteria newVersionFromPkg p d) with
      | error err => rw [hr] at hx; cases hx
      | ok vulns =>
        rw [hr, distroResult, GoSlice.toList_appendAll, GoSlice.toList_nil, List.nil_append] at hx
        obtain ⟨v, hmem, rfl⟩ := List.mem_map.mp hx
        refine ⟨rfl, d, rfl, ?_, ?_, ?_, ?_⟩ <;> exact hp _ _ hr v hmem _ (by simp [distroCriteria])
    · rw [matchPackageByDistro_skip _ _ _ _ _ _ (.inr hv)] at hx; cases hx

/-- A meaning of the criteria under which `debianRecord` meets any query: the record's ID for the
name, its namespace for the distro, its constraint for the version filter. -/
def debianMeets : Criterion → Vulnerability → Prop
  | .byPackageName _, v => v.id = "CVE-2022-3602"
  | .byDistro _, v => v.«namespace» = "debian:distro:debian:11"
  | .onlyQualifiedPackages _, _ => True
  | .onlyVulnerableVersions _, v => v.constraint.string = "< 1.1.1n-0+deb11u4 (deb)"

/-- The example provider honours `debianMeets`, so every match for `openssl` carries the record's
ID, namespace and constraint. -/
theorem matchPackageByDistro_honours_openssl :
    Honours debianMeets exampleProvider ∧
      ∀ x ∈ (Id.run (matchPackageByDistro Char.toLower debVersion (·.type) exampleProvider
          (opensslPackage "1.1.1n-0+deb11u3") ⟨"dpkg-matcher"⟩)).1.toList,
        x.package = opensslPackage "1.1.1n-0+deb11u3" ∧
          ∃ d, (opensslPackage "1.1.1n-0+deb11u3").distro = some d ∧
            x.vulnerability.id = "CVE-2022-3602" ∧
            x.vulnerability.«namespace» = "debian:distro:debian:11" ∧ True ∧
            x.vulnerability.constraint.string = "< 1.1.1n-0+deb11u4 (deb)" := by
  have hp : Honours debianMeets exampleProvider := by
    intro _ _ h v hv c _
    cases h
    rw [List.mem_singleton.mp hv]
    cases c <;> trivial
  exact ⟨hp, matchPackageByDistro_honours Char.toLower debVersion (·.type) _ exampleProvider hp
    (opensslPackage "1.1.1n-0+deb11u3") ⟨"dpkg-matcher"⟩⟩

end Grype.Matcher
