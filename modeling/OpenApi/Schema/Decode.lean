import OpenApi.Json.Decode
import OpenApi.Schema.Entry
/-! Entries read back from JSON values. -/
namespace OpenApi.Schema
open Json (Decoded Mismatch)
open Json.Decode

def Kind.choices : List (String × Kind) :=
  [("object", .object), ("array", .array), ("union", .union), ("primitive", .primitive)]

def Composition.Kind.choices : List (String × Composition.Kind) :=
  [("allOf", .allOf), ("oneOf", .oneOf), ("anyOf", .anyOf)]

inductive Slot.Form where
  | plain (slot : Slot)
  | array
  | map
  | schema

def Slot.forms : List (String × Slot.Form) :=
  [("string", .plain .string), ("integer", .plain .integer), ("number", .plain .number),
   ("boolean", .plain .boolean), ("object", .plain .object), ("any", .plain .any),
   ("array", .array), ("map", .map), ("schema", .schema)]

/-- The form of a slot. Inside another value it may be given by its position among the forms. -/
def Slot.readForm (inside : Bool) : Json → Decoded Slot.Form
  | .string word => known Slot.forms word
  | .number (.int i) =>
    if inside ∧ 0 ≤ i then
      match Slot.forms[i.toNat]? with
      | some (_, form) => .ok form
      | none => .error (.wrongValue (.number (.int i)) "variant index 0 <= i < 9")
    else .error (.wrongType (.number (.int i)) "variant identifier")
  | value => .error (.wrongType value "variant identifier")

def Slot.assemble (inside : Bool) (fields : Fields Json) (member : String → Decoded Slot) :
    Decoded Slot := do
  match ← Slot.readForm inside (← required "type" (Fields.get? "type" fields)) with
  | .plain slot => .ok slot
  | .array => .array <$> member "items"
  | .map => .map <$> member "values"
  | .schema => .schema <$> text (← required "name" (Fields.get? "name" fields))

def Slot.lacking (variant : String) : Mismatch :=
  .wrongLength 0 ("struct variant PropertyType::" ++ variant ++ " with " ++ elements 1)

def Slot.inOrder (inside : Bool) (type : Json) (rest : List Json)
    (first : String → Decoded Slot) : Decoded Slot := do
  let alone (count : Nat) (slot : Slot) : Decoded Slot :=
    if count < rest.length then
      .error (.wrongLength rest.length (elements count ++ " in sequence"))
    else .ok slot
  match ← Slot.readForm inside type with
  | .plain slot => alone 0 slot
  | .array => alone 1 (.array (← first "Array"))
  | .map => alone 1 (.map (← first "Map"))
  | .schema =>
    match rest with
    | [] => .error (Slot.lacking "Schema")
    | name :: _ => alone 1 (.schema (← text name))

mutual
def Slot.read (inside : Bool) : Json → Decoded Slot
  | .object fields => Slot.assemble inside fields fun key => Slot.readMember key fields
  | .array [] => .error (.missing "type")
  | .array (type :: rest) =>
    Slot.inOrder inside type rest fun variant => Slot.readFirst variant rest
  | value => .error (.wrongType value "internally tagged enum PropertyType")
def Slot.readMember (key : String) : List (String × Json) → Decoded Slot
  | [] => .error (.missing key)
  | (k, value) :: rest => if k = key then Slot.read true value else Slot.readMember key rest
def Slot.readFirst (variant : String) : List Json → Decoded Slot
  | [] => .error (Slot.lacking variant)
  | value :: _ => Slot.read true value
end

namespace Composition

structure Draft where
  kind : Option Composition.Kind
  memberNames : Option (List String)

def Draft.put (d : Draft) (field : String × Json) : Decoded Draft := do
  let (key, value) := field
  match key with
  | "kind" => return { d with kind := some (← choice Kind.choices value) }
  | "memberNames" => return { d with memberNames := some (← texts value) }
  | _ => return d

def Draft.close (d : Draft) : Decoded Composition := do
  return ⟨← required "kind" d.kind, ← required "memberNames" d.memberNames⟩

def read : Json → Decoded Composition :=
  record "struct Composition" ["kind", "memberNames"] [] Draft.put ⟨none, none⟩ Draft.close

end Composition

namespace Constraints

def put (c : Constraints) (field : String × Json) : Decoded Constraints := do
  let (key, value) := field
  match key with
  | "minLength" => return { c with minLength := ← optional nat value }
  | "maxLength" => return { c with maxLength := ← optional nat value }
  | "pattern" => return { c with pattern := ← optional text value }
  | "minimum" => return { c with minimum := ← optional number value }
  | "maximum" => return { c with maximum := ← optional number value }
  | _ => return c

def read : Json → Decoded Constraints :=
  record "struct Constraints" [] ["minLength", "maxLength", "pattern", "minimum", "maximum"]
    put empty .ok

end Constraints

def whole (value : Json) : Decoded Json := .ok value

namespace Property

structure Draft where
  required : Option Bool
  property : Property

def Draft.blank : Draft :=
  ⟨none, ⟨.any, none, none, none, false, none, none, none, none, none, none⟩⟩

def Draft.put (d : Draft) (field : String × Json) : Decoded Draft := do
  let (key, value) := field
  let p := d.property
  match key with
  | "format" => return { d with property := { p with format := ← optional text value } }
  | "enum" => return { d with property := { p with values := ← optional items value } }
  | "default" => return { d with property := { p with fallback := ← optional whole value } }
  | "required" => return { d with required := some (← bool value) }
  | "nullable" => return { d with property := { p with nullable := ← optional bool value } }
  | "readOnly" => return { d with property := { p with readOnly := ← optional bool value } }
  | "writeOnly" => return { d with property := { p with writeOnly := ← optional bool value } }
  | "deprecated" => return { d with property := { p with deprecated := ← optional bool value } }
  | "constraints" =>
    return { d with property := { p with constraints := ← optional Constraints.read value } }
  | "description" => return { d with property := { p with description := ← optional text value } }
  | _ => return d

def read : Json → Decoded Property
  -- The slot comes last: its members stand among those of the property, which so has no order in
  -- which an array could give them.
  | .object fields => do
    let d ← fields.foldlM Draft.put Draft.blank
    let needed ← Json.Decode.required "required" d.required
    return { d.property with required := needed, slot := ← Slot.read true (.object fields) }
  | value => .error (.wrongType value "struct PropertySchema")

end Property

namespace Entry

structure Draft where
  name : Option String
  kind : Option Kind
  entry : Entry

def Draft.put (d : Draft) (field : String × Json) : Decoded Draft := do
  let (key, value) := field
  let e := d.entry
  match key with
  | "name" => return { d with name := some (← text value) }
  | "kind" => return { d with kind := some (← choice Kind.choices value) }
  | "dataType" => return { d with entry := { e with dataType := ← optional (Slot.read false) value } }
  | "format" => return { d with entry := { e with format := ← optional text value } }
  | "enum" => return { d with entry := { e with values := ← optional Json.Decode.items value } }
  | "default" => return { d with entry := { e with fallback := ← optional whole value } }
  | "nullable" => return { d with entry := { e with nullable := ← optional bool value } }
  | "properties" => return { d with entry := { e with properties := ← fieldsOf Property.read value } }
  | "required" => return { d with entry := { e with required := ← textSet value } }
  | "items" => return { d with entry := { e with items := ← optional (Slot.read false) value } }
  | "composition" =>
    return { d with entry := { e with composition := ← optional Composition.read value } }
  | "constraints" =>
    return { d with entry := { e with constraints := ← optional Constraints.read value } }
  | "description" => return { d with entry := { e with description := ← optional text value } }
  | "example" => return { d with entry := { e with sample := ← optional whole value } }
  | _ => return d

def Draft.blank : Draft := ⟨none, none, .blank "" .primitive⟩

def Draft.close (d : Draft) : Decoded Entry := do
  let name ← Json.Decode.required "name" d.name
  let kind ← Json.Decode.required "kind" d.kind
  return { d.entry with name := name, kind := kind }

def read : Json → Decoded Entry :=
  record "struct NormalizedSchema" ["name", "kind"]
    ["dataType", "format", "enum", "default", "nullable", "properties", "required", "items",
      "composition", "constraints", "description", "example"]
    Draft.put .blank Draft.close

end Entry
end OpenApi.Schema
