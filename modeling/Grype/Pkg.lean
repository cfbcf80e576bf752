import Grype.Go

/-!
# Packages

`pkg.Package` and the values it holds, with the fields that the distro matcher and the JSON
presenter read. The types whose methods belong to other packages (`file.LocationSet.ToSlice`,
`cpe.Attributes.String`, `packagemetadata.JSONName`) keep their data here; the methods are
parameters of the modules that call them.
-/

namespace Grype

/-- `distro.Distro`: the operating system a package was installed by. -/
structure Distro where
  type : String
  version : String
  codename : String
  idLike : List String
  deriving DecidableEq, Repr

/-- `cpe.Attributes`: the eleven fields of a CPE 2.3 name. -/
structure Attributes where
  part : String
  vendor : String
  product : String
  version : String
  update : String
  edition : String
  swEdition : String
  targetSW : String
  targetHW : String
  other : String
  language : String
  deriving DecidableEq, Repr

/-- `cpe.CPE`: a CPE name by its attributes. -/
structure CPE where
  attributes : Attributes
  deriving DecidableEq, Repr

/-- `pkg.UpstreamPackage`: a source package that the package was built from. -/
structure UpstreamPackage where
  name : String
  version : String
  deriving DecidableEq, Repr

/-- `file.Location`: where a package was found. -/
structure Location where
  realPath : String
  accessPath : String
  deriving DecidableEq, Repr

/-- `file.LocationSet`: the set of a package's locations, kept as the list of its members. -/
structure LocationSet where
  set : List Location
  deriving DecidableEq, Repr

/-- Ecosystem-specific metadata, an `interface{}`: the Go type that holds it and its fields. -/
structure Metadata where
  goType : String
  fields : List (String × String)
  deriving DecidableEq, Repr

/-- `version.Version`: a version string and the format it is read in. -/
structure Version where
  raw : String
  format : String
  deriving DecidableEq, Repr

/-- `pkg.Package`. `distro` and `metadata` are pointer and interface fields, `none` when nil; the
slices keep the difference between `nil` and empty. -/
structure Package where
  id : String
  name : String
  version : String
  locations : LocationSet
  language : String
  distro : Option Distro
  licenses : GoSlice String
  type : String
  cpes : GoSlice CPE
  purl : String
  upstreams : GoSlice UpstreamPackage
  metadata : Option Metadata
  deriving DecidableEq, Repr

end Grype
