import OpenApi.Json.Basic
import OpenApi.Schema.Slot
/-! Entries of a schema map. Entries refer to one another by name alone. -/
namespace OpenApi.Schema

inductive Kind where
  | object
  | array
  | union
  | primitive
  deriving DecidableEq, Repr, Inhabited

inductive Composition.Kind where
  | allOf
  | oneOf
  | anyOf
  deriving DecidableEq, Repr, Inhabited

structure Composition where
  kind : Composition.Kind
  memberNames : List String
  deriving DecidableEq, Repr

structure Constraints where
  minLength : Option Nat
  maxLength : Option Nat
  pattern : Option String
  minimum : Option Json.Number
  maximum : Option Json.Number
  deriving DecidableEq, Repr

namespace Constraints

def empty : Constraints := ⟨none, none, none, none, none⟩

def isEmpty (c : Constraints) : Bool := c = empty

end Constraints

/-- A property of an object entry. `fallback` is the value that the keyword `default` gives, `values`
the list that `enum` gives. -/
structure Property where
  slot : Slot
  format : Option String
  values : Option (List Json)
  fallback : Option Json
  required : Bool
  nullable : Option Bool
  readOnly : Option Bool
  writeOnly : Option Bool
  deprecated : Option Bool
  constraints : Option Constraints
  description : Option String
  deriving Repr

structure Entry where
  name : String
  kind : Kind
  dataType : Option Slot
  format : Option String
  values : Option (List Json)
  fallback : Option Json
  nullable : Option Bool
  properties : Fields Property
  required : List String
  items : Option Slot
  composition : Option Composition
  constraints : Option Constraints
  description : Option String
  sample : Option Json
  deriving Repr

namespace Entry

def blank (name : String) (kind : Kind) : Entry :=
  ⟨name, kind, none, none, none, none, none, [], [], none, none, none, none, none⟩

def names (e : Entry) : List String :=
  e.properties.flatMap (·.2.slot.names) ++ e.items.elim [] Slot.names ++
    e.dataType.elim [] Slot.names ++ e.composition.elim [] Composition.memberNames

end Entry
end OpenApi.Schema
