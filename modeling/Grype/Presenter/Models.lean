import Grype.Pkg

/-!
# The JSON presenter's package

`models.Package`, `models.UpstreamPackage` and `newPackage` (`src/unnamed/part_001`), and what
`encoding/json` writes for a `models.Package` under its field tags. `newPackage` copies the
package's scalar fields, turns its CPEs into their `String()` texts and its upstreams into name and
version, and makes each of the three list fields a slice value even when the package's own slice is
`nil`; `newPackage_spec` shows that the JSON document then holds an array, never `null`, under each
of `"cpes"`, `"licenses"` and `"upstreams"`.

The methods of other packages that `newPackage` calls are parameters: `file.LocationSet.ToSlice`,
`cpe.Attributes.String` and `packagemetadata.JSONName`; so are the JSON encodings of a location and
of metadata, which belong to those types.
-/

namespace Grype

/-- A JSON value as `encoding/json` writes it; a number is kept as its literal. -/
inductive Json where
  | null
  | bool (b : Bool)
  | number (literal : String)
  | str (s : String)
  | arr (elems : List Json)
  | obj (fields : List (String × Json))

/-- The value under `key` of a JSON object, if it has one. -/
def Json.get? (key : String) : Json → Option Json
  | .obj fields => fields.lookup key
  | _ => none

/-- What `encoding/json` writes for a slice: `null` for `nil`, and an array otherwise. -/
def GoSlice.toJson {α : Type} (f : α → Json) : GoSlice α → Json
  | .nil => .null
  | .mk xs => .arr (xs.map f)

/-- A slice value is written as an array of its elements. -/
@[simp] theorem GoSlice.toJson_mk {α : Type} (f : α → Json) (xs : List α) :
    (GoSlice.mk xs).toJson f = .arr (xs.map f) := rfl

namespace Models

/-- `models.UpstreamPackage`. -/
structure UpstreamPackage where
  name : String
  version : String
  deriving DecidableEq, Repr

/-- `models.Package`: the fields of a package that the JSON presenter writes. -/
structure Package where
  id : String
  name : String
  version : String
  type : String
  locations : GoSlice Location
  language : String
  licenses : GoSlice String
  cpes : GoSlice String
  purl : String
  upstreams : GoSlice UpstreamPackage
  metadataType : String
  metadata : Option Metadata
  deriving DecidableEq, Repr

variable (toSlice : LocationSet → GoSlice Location) (attributesString : Attributes → String)
  (jsonName : Option Metadata → String)

/-- `newPackage`. -/
def newPackage (p : Grype.Package) : Package :=
  let cpes := GoSlice.appendAll (fun c => attributesString c.attributes) GoSlice.make p.cpes.toList
  let licenses := if p.licenses = .nil then GoSlice.make else p.licenses
  let upstreams := GoSlice.appendAll (fun u => ⟨u.name, u.version⟩) GoSlice.make p.upstreams.toList
  { id := p.id
    name := p.name
    version := p.version
    locations := toSlice p.locations
    licenses := licenses
    language := p.language
    type := p.type
    cpes := cpes
    purl := p.purl
    upstreams := upstreams
    metadataType := jsonName p.metadata
    metadata := p.metadata }

variable (locationJson : Location → Json) (metadataJson : Metadata → Json)

/-- What `encoding/json` writes for a `models.UpstreamPackage`: `version` is `omitempty`. -/
def UpstreamPackage.toJson (u : UpstreamPackage) : Json :=
  .obj ([("name", .str u.name)] ++ if u.version = "" then [] else [("version", .str u.version)])

/-- What `encoding/json` writes for a `models.Package`, field by field in the struct's order under
its tags; `metadataType` and `metadata` are `omitempty`. -/
def Package.toJson (q : Package) : Json :=
  .obj ([("id", .str q.id), ("name", .str q.name), ("version", .str q.version),
      ("type", .str q.type), ("locations", q.locations.toJson locationJson),
      ("language", .str q.language), ("licenses", q.licenses.toJson .str),
      ("cpes", q.cpes.toJson .str), ("purl", .str q.purl),
      ("upstreams", q.upstreams.toJson UpstreamPackage.toJson)] ++
    (if q.metadataType = "" then [] else [("metadataType", .str q.metadataType)]) ++
    (match q.metadata with
      | none => []
      | some md => [("metadata", metadataJson md)]))

/-- The three list fields of `newPackage` are slice values, whatever the package's own slices are:
the CPEs' texts and the upstreams' names and versions in the package's order, and the package's
licenses when it has a slice of them. -/
theorem newPackage_lists (p : Grype.Package) :
    (newPackage toSlice attributesString jsonName p).cpes =
        .mk (p.cpes.toList.map fun c => attributesString c.attributes) ∧
      (newPackage toSlice attributesString jsonName p).upstreams =
        .mk (p.upstreams.toList.map fun u => ⟨u.name, u.version⟩) ∧
      (newPackage toSlice attributesString jsonName p).licenses =
        .mk (p.licenses.toList) := by
  refine ⟨GoSlice.appendAll_mk _ _ _, GoSlice.appendAll_mk _ _ _, ?_⟩
  cases h : p.licenses <;> simp [newPackage, h, GoSlice.make]

/-- `newPackage` for every package: it copies the ID, name, version, type, language, PURL and
metadata; its CPEs and upstreams are the package's, mapped one for one in order; its licenses are
the package's unless those are `nil`; and none of the three list fields is `nil`, so that the
JSON document holds an array under each of `"cpes"`, `"licenses"` and `"upstreams"`. -/
theorem newPackage_spec (p : Grype.Package) :
    let q := newPackage toSlice attributesString jsonName p
    q.id = p.id ∧ q.name = p.name ∧ q.version = p.version ∧ q.type = p.type ∧
      q.language = p.language ∧ q.purl = p.purl ∧ q.metadata = p.metadata ∧
      q.cpes = .mk (p.cpes.toList.map fun c => attributesString c.attributes) ∧
      q.upstreams = .mk (p.upstreams.toList.map fun u => ⟨u.name, u.version⟩) ∧
      (q.licenses = p.licenses ∨ p.licenses = .nil) ∧
      q.cpes ≠ .nil ∧ q.licenses ≠ .nil ∧ q.upstreams ≠ .nil ∧
      (q.toJson locationJson metadataJson).get? "cpes" =
        some (.arr (p.cpes.toList.map fun c => .str (attributesString c.attributes))) ∧
      (q.toJson locationJson metadataJson).get? "licenses" =
        some (.arr (p.licenses.toList.map .str)) ∧
      (q.toJson locationJson metadataJson).get? "upstreams" =
        some (.arr (p.upstreams.toList.map fun u => UpstreamPackage.toJson ⟨u.name, u.version⟩)) := by
  obtain ⟨hc, hu, hl⟩ := newPackage_lists toSlice attributesString jsonName p
  intro q
  refine ⟨rfl, rfl, rfl, rfl, rfl, rfl, rfl, hc, hu, ?_, ?_, ?_, ?_, ?_, ?_, ?_⟩
  · cases hp : p.licenses <;> simp [q, hl, hp]
  all_goals simp [q, hc, hu, hl, Package.toJson, Json.get?, List.lookup_cons]

end Models

end Grype
