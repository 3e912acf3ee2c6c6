import OpenApi.Schema.Entry
/-! Entries as JSON values. Members that are absent or empty are left out. -/
namespace OpenApi

def Json.member (key : String) (value : Option Json) : Fields Json :=
  value.elim [] fun v => [(key, v)]

namespace Schema

def Kind.word : Kind → String
  | .object => "object"
  | .array => "array"
  | .union => "union"
  | .primitive => "primitive"

def Composition.Kind.word : Composition.Kind → String
  | .allOf => "allOf"
  | .oneOf => "oneOf"
  | .anyOf => "anyOf"

def Slot.word : Slot → String
  | .string => "string"
  | .integer => "integer"
  | .number => "number"
  | .boolean => "boolean"
  | .object => "object"
  | .any => "any"
  | .array _ => "array"
  | .map _ => "map"
  | .schema _ => "schema"

def Slot.fields : Slot → Fields Json
  | .array items => [("type", .string "array"), ("items", .object items.fields)]
  | .map values => [("type", .string "map"), ("values", .object values.fields)]
  | .schema name => [("type", .string "schema"), ("name", .string name)]
  | slot => [("type", .string slot.word)]

def Slot.toJson (slot : Slot) : Json := .object slot.fields

def Composition.toJson (c : Composition) : Json :=
  .object [("kind", .string c.kind.word), ("memberNames", .array (c.memberNames.map .string))]

open Json (member)

def Constraints.toJson (c : Constraints) : Json :=
  .object (member "minLength" (c.minLength.map fun n => .number (.int n)) ++
    member "maxLength" (c.maxLength.map fun n => .number (.int n)) ++
    member "pattern" (c.pattern.map .string) ++ member "minimum" (c.minimum.map .number) ++
    member "maximum" (c.maximum.map .number))

def Property.toJson (p : Property) : Json :=
  .object (p.slot.fields ++ member "format" (p.format.map .string) ++
    member "enum" (p.values.map .array) ++ member "default" p.fallback ++
    [("required", .bool p.required)] ++ member "nullable" (p.nullable.map .bool) ++
    member "readOnly" (p.readOnly.map .bool) ++ member "writeOnly" (p.writeOnly.map .bool) ++
    member "deprecated" (p.deprecated.map .bool) ++
    member "constraints" (p.constraints.map Constraints.toJson) ++
    member "description" (p.description.map .string))

def Entry.toJson (e : Entry) : Json :=
  let properties := e.properties.map fun p => (p.1, p.2.toJson)
  .object ([("name", .string e.name), ("kind", .string e.kind.word)] ++
    member "dataType" (e.dataType.map Slot.toJson) ++ member "format" (e.format.map .string) ++
    member "enum" (e.values.map .array) ++ member "default" e.fallback ++
    member "nullable" (e.nullable.map .bool) ++
    (if properties.isEmpty then [] else [("properties", .object properties)]) ++
    (if e.required.isEmpty then [] else [("required", .array (e.required.map .string))]) ++
    member "items" (e.items.map Slot.toJson) ++
    member "composition" (e.composition.map Composition.toJson) ++
    member "constraints" (e.constraints.map Constraints.toJson) ++
    member "description" (e.description.map .string) ++ member "example" e.sample)

end Schema
end OpenApi
