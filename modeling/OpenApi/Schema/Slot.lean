import OpenApi.Fields
/-! Types of slots: what a property, an item or a map value holds. A structure is never embedded in a
slot; it is named. -/
namespace OpenApi.Schema

inductive Slot where
  | string
  | integer
  | number
  | boolean
  | object
  | any
  | array (items : Slot)
  | map (values : Slot)
  | schema (name : String)
  deriving DecidableEq, Repr, Inhabited

namespace Slot

def ofKeyword (keyword : String) : Slot :=
  match keyword with
  | "string" => .string
  | "integer" => .integer
  | "number" => .number
  | "boolean" => .boolean
  | "object" => .object
  | _ => .any

def names : Slot → List String
  | .schema name => [name]
  | .array items => items.names
  | .map values => values.names
  | _ => []

end Slot
end OpenApi.Schema
