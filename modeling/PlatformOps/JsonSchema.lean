/-
**JSON schemas.**

A schema is itself a JSON value.  This module says which values conform to one, for the keywords
`type`, `enum`, `required`, `properties` and `additionalProperties`: a keyword that a schema does
not have asks for nothing, and the last three ask for nothing of a value that is no object.

Main definitions:

* `Json.typeName`, `Json.property` — the name of the type of a value, and the schema of a field;
* `Json.Conforms` — the value conforms to the schema.

Main results:

* `Json.conforms_str_iff`, `Json.conforms_obj_iff` — which texts, and which objects with distinct
  keys, conform to a schema.
-/

import PlatformOps.Json

set_option relaxedAutoImplicit false
set_option autoImplicit false

namespace PlatformOps

namespace Json

/-- The name of the type of a value. -/
def typeName : Json → String
  | .null => "null"
  | .bool _ => "boolean"
  | .number _ => "number"
  | .str _ => "string"
  | .arr _ => "array"
  | .obj _ => "object"

/-- The schema of a field. -/
def property (schema : Json) (key : String) : Option Json :=
  (schema.field "properties").bind (·.field key)

/-- The value conforms to the schema. -/
inductive Conforms : Json → Json → Prop
  | intro {schema value : Json}
      (type : ∀ name, schema.field "type" = some (.str name) → value.typeName = name)
      (enum : ∀ options, schema.field "enum" = some (.arr options) → value ∈ options)
      (required : ∀ names, schema.field "required" = some (.arr names) →
        value.typeName = "object" → ∀ name, .str name ∈ names → value.field name ≠ none)
      (properties : ∀ key sub v, schema.property key = some sub → value.field key = some v →
        Conforms sub v)
      (additional : schema.field "additionalProperties" = some (.bool false) →
        ∀ key, value.field key ≠ none → schema.property key ≠ none) :
      Conforms schema value

theorem conforms_iff {schema value : Json} :
    Conforms schema value ↔
      (∀ name, schema.field "type" = some (.str name) → value.typeName = name) ∧
      (∀ options, schema.field "enum" = some (.arr options) → value ∈ options) ∧
      (∀ names, schema.field "required" = some (.arr names) → value.typeName = "object" →
        ∀ name, .str name ∈ names → value.field name ≠ none) ∧
      (∀ key sub v, schema.property key = some sub → value.field key = some v →
        Conforms sub v) ∧
      (schema.field "additionalProperties" = some (.bool false) →
        ∀ key, value.field key ≠ none → schema.property key ≠ none) := by
  constructor
  · rintro ⟨htype, henum, hrequired, hproperties, hadditional⟩
    exact ⟨htype, henum, hrequired, hproperties, hadditional⟩
  · rintro ⟨htype, henum, hrequired, hproperties, hadditional⟩
    exact ⟨htype, henum, hrequired, hproperties, hadditional⟩

@[simp] theorem field_obj (fields : List (String × Json)) (key : String) :
    (obj fields).field key = (Dict.ofPairs fields).get? key := rfl

/-- With distinct keys, the fields of an object are the pairs it is written with. -/
theorem field_obj_eq_some_iff {fields : List (String × Json)} (h : (fields.map Prod.fst).Nodup)
    {key : String} {v : Json} : (obj fields).field key = some v ↔ (key, v) ∈ fields := by
  rw [field_obj, ← Dict.mem_entries_iff, Dict.entries_ofPairs h]

/-- A text conforms to a schema of texts if it is one of those that are listed. -/
theorem conforms_str_iff {schema : Json} {text : String} :
    Conforms schema (.str text) ↔
      (∀ name, schema.field "type" = some (.str name) → name = "string") ∧
      (∀ options, schema.field "enum" = some (.arr options) → .str text ∈ options) := by
  rw [conforms_iff]
  constructor
  · rintro ⟨htype, henum, -⟩
    exact ⟨fun name hname => (htype name hname).symm, henum⟩
  · rintro ⟨htype, henum⟩
    refine ⟨fun name hname => (htype name hname).symm, henum, ?_, ?_, ?_⟩
    · intro _ _ hobject
      exact absurd hobject (by simp [typeName])
    · intro key sub v _ hfield
      cases hfield
    · intro _ key hfield
      exact absurd rfl hfield

/-- **An object with distinct keys conforms to a schema without `enum`** exactly if the schema is of
objects, the required fields are there, and each field conforms to its schema, or may be added. -/
theorem conforms_obj_iff {schema : Json} {fields : List (String × Json)}
    (h : (fields.map Prod.fst).Nodup) (henum : schema.field "enum" = none) :
    Conforms schema (.obj fields) ↔
      (∀ name, schema.field "type" = some (.str name) → name = "object") ∧
      (∀ names, schema.field "required" = some (.arr names) →
        ∀ name, .str name ∈ names → name ∈ fields.map Prod.fst) ∧
      (∀ p ∈ fields, ∀ sub, schema.property p.1 = some sub → Conforms sub p.2) ∧
      (schema.field "additionalProperties" = some (.bool false) →
        ∀ p ∈ fields, schema.property p.1 ≠ none) := by
  have hmem : ∀ key, (obj fields).field key ≠ none ↔ key ∈ fields.map Prod.fst := by
    intro key
    rw [Option.ne_none_iff_exists', List.mem_map]
    constructor
    · rintro ⟨v, hv⟩
      exact ⟨(key, v), (field_obj_eq_some_iff h).1 hv, rfl⟩
    · rintro ⟨⟨_, v⟩, hp, rfl⟩
      exact ⟨v, (field_obj_eq_some_iff h).2 hp⟩
  rw [conforms_iff]
  constructor
  · rintro ⟨htype, -, hrequired, hproperties, hadditional⟩
    refine ⟨fun name hname => (htype name hname).symm, ?_, ?_, ?_⟩
    · intro names hnames name hname
      exact (hmem name).1 (hrequired names hnames rfl name hname)
    · intro p hp sub hsub
      exact hproperties p.1 sub p.2 hsub ((field_obj_eq_some_iff h).2 hp)
    · intro hclosed p hp
      exact hadditional hclosed p.1 ((hmem p.1).2 (List.mem_map_of_mem hp))
  · rintro ⟨htype, hrequired, hproperties, hadditional⟩
    refine ⟨fun name hname => (htype name hname).symm, ?_, ?_, ?_, ?_⟩
    · intro options hoptions
      rw [henum] at hoptions
      cases hoptions
    · intro names hnames _ name hname
      exact (hmem name).2 (hrequired names hnames name hname)
    · intro key sub v hsub hv
      exact hproperties (key, v) ((field_obj_eq_some_iff h).1 hv) sub hsub
    · intro hclosed key hkey
      obtain ⟨p, hp, rfl⟩ := List.mem_map.1 ((hmem key).1 hkey)
      exact hadditional hclosed p hp

end Json

end PlatformOps
