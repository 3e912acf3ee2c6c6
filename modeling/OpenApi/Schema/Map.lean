import OpenApi.Failure
import OpenApi.Json.Equality
import OpenApi.Schema.Decode
import OpenApi.Schema.Integrity
/-! Schema maps: entries by name, in order of arrival. -/
namespace OpenApi.Schema

structure Map where
  entries : Fields Entry

namespace Map

def ofEntries (entries : List Entry) : Map := ⟨entries.map fun e => (e.name, e)⟩

def names (m : Map) : List String := Fields.keys m.entries

def get? (m : Map) (name : String) : Option Entry := Fields.get? name m.entries

def size (m : Map) : Nat := m.entries.length

def isEmpty (m : Map) : Bool := m.entries.isEmpty

def toJson (m : Map) : Json := .object (m.entries.map fun e => (e.1, e.2.toJson))

def ofJson (value : Json) : Except Failure Map :=
  match Json.Decode.fieldsOf Entry.read value with
  | .error mismatch => .error (.parse ("Invalid schema map: " ++ mismatch.message))
  | .ok entries =>
    match validate entries with
    | .error breach => .error (.integrity breach)
    | .ok () => .ok ⟨entries⟩

end Map

def sameOption {α : Type} (same : α → α → Bool) : Option α → Option α → Bool
  | none, none => true
  | some a, some b => same a b
  | _, _ => false

def sameFields {α : Type} (same : α → α → Bool) (a b : Fields α) : Bool :=
  a.length = b.length && a.all fun f => (Fields.get? f.1 b).any (same f.2)

def Constraints.same (a b : Constraints) : Bool :=
  a.minLength = b.minLength && a.maxLength = b.maxLength && a.pattern = b.pattern &&
    sameOption Json.Number.same a.minimum b.minimum &&
    sameOption Json.Number.same a.maximum b.maximum

def Property.same (a b : Property) : Bool :=
  a.slot = b.slot && a.format = b.format && sameOption Json.sameItems a.values b.values &&
    sameOption Json.same a.fallback b.fallback && a.required = b.required &&
    a.nullable = b.nullable && a.readOnly = b.readOnly && a.writeOnly = b.writeOnly &&
    a.deprecated = b.deprecated && sameOption Constraints.same a.constraints b.constraints &&
    a.description = b.description

def Entry.same (a b : Entry) : Bool :=
  a.name = b.name && a.kind = b.kind && a.dataType = b.dataType && a.format = b.format &&
    sameOption Json.sameItems a.values b.values && sameOption Json.same a.fallback b.fallback &&
    a.nullable = b.nullable && sameFields Property.same a.properties b.properties &&
    a.required.length = b.required.length && a.required.all b.required.contains &&
    a.items = b.items && a.composition = b.composition &&
    sameOption Constraints.same a.constraints b.constraints && a.description = b.description &&
    sameOption Json.same a.sample b.sample

def Map.same (a b : Map) : Bool := sameFields Entry.same a.entries b.entries

end OpenApi.Schema
