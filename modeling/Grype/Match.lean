import Grype.Pkg
import Mathlib.Data.Rat.Defs

/-!
# Vulnerabilities, search criteria and matches

The values that pass between a matcher and the vulnerability provider: the criteria of a query
(`search.ByPackageName`, `search.ByDistro` and the matcher package's own qualifier and version
filters), the vulnerabilities a query returns, and the `match.Match` records built from them.

Interfaces are structures of the methods that the model calls. The provider's one method runs in a
monad `m`, so that a statement about a matcher holds whatever effects a provider has, and "the
provider is queried once" is an equation in every lawful monad.
-/

namespace Grype

/-- `version.Constraint`, an interface, by the result of its `String` method, the one method that
the model calls. -/
structure Constraint where
  string : String
  deriving DecidableEq, Repr

/-- `vulnerability.Vulnerability`: the fields that a match records. -/
structure Vulnerability where
  id : String
  «namespace» : String
  constraint : Constraint
  deriving DecidableEq, Repr

/-- A criterion of a provider query, with the value it was built from. -/
inductive Criterion where
  /-- `search.ByPackageName(name)`. -/
  | byPackageName (name : String)
  /-- `search.ByDistro(d)`. -/
  | byDistro (d : Distro)
  /-- `onlyQualifiedPackages(p)`: the record's qualifiers hold of `p`. -/
  | onlyQualifiedPackages (p : Package)
  /-- `onlyVulnerableVersions(v)`: the record's constraint holds of `v`. -/
  | onlyVulnerableVersions (v : Version)
  deriving DecidableEq, Repr

/-- `vulnerability.Provider`, an interface, by its `FindVulnerabilities` method: the vulnerabilities
that meet every criterion, or an error, with the effects of `m`. -/
structure Provider (m : Type → Type) where
  findVulnerabilities : List Criterion → m (Except GoError (List Vulnerability))

/-- `match.Type`: how a match was found. -/
inductive MatchType where
  | exactDirectMatch
  | exactIndirectMatch
  | cpeMatch
  deriving DecidableEq, Repr

/-- `match.MatcherType`: the name of the matcher that found a match. -/
structure MatcherType where
  name : String
  deriving DecidableEq, Repr

/-- A value of the `map[string]interface{}` records of a detail: a string, or a
`map[string]string`. -/
inductive Value where
  | str (s : String)
  | strMap (entries : List (String × String))
  deriving DecidableEq, Repr

/-- `match.Detail`: how one matcher found a match. The two maps are kept as their entries in the
order of the code's literals. -/
structure Detail where
  type : MatchType
  matcher : MatcherType
  searchedBy : List (String × Value)
  found : List (String × Value)
  confidence : ℚ
  deriving DecidableEq

/-- `match.Match`: a vulnerability found for a package, with how it was found. -/
structure Match where
  vulnerability : Vulnerability
  package : Package
  details : GoSlice Detail
  deriving DecidableEq

/-- `match.IgnoreFilter`, an interface, by its `IgnoreMatch` method: whether it ignores a match. -/
structure IgnoreFilter where
  ignoreMatch : Match → Bool

/-- What a matcher returns: `([]match.Match, []match.IgnoreFilter, error)`. -/
abbrev MatcherResult := GoSlice Match × GoSlice IgnoreFilter × Option GoError

end Grype
