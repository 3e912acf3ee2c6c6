import OpenApi.Json.Equality
import OpenApi.Reference
import OpenApi.Schema.Entry
/-! What the keywords of a schema node say. -/
namespace OpenApi.Schema.Node

def compositionKeywords : List (String × Composition.Kind) :=
  [("allOf", .allOf), ("oneOf", .oneOf), ("anyOf", .anyOf)]

def composition? (node : Json) : Option (Composition.Kind × List Json) :=
  compositionKeywords.findSome? fun (keyword, kind) =>
    ((node.getItems? keyword).filter (!·.isEmpty)).map (kind, ·)

def typeKeyword? (node : Json) : Option String :=
  match node.get? "type" with
  | some (.string keyword) => some keyword
  | some (.array keywords) => (keywords.filterMap Json.string?).find? (· ≠ "null")
  | _ => none

def isObject (node : Json) : Bool :=
  typeKeyword? node = some "object" || (node.getFields? "properties").isSome

def isArray (node : Json) : Bool :=
  typeKeyword? node = some "array" || (node.get? "items").isSome

def needsEntry (node : Json) : Bool :=
  (node.getFields? "properties").any (!·.isEmpty) || (composition? node).isSome

def additionalProperties? (node : Json) : Option Json :=
  (node.getFields? "additionalProperties").map .object

def requiredNames (node : Json) : List String :=
  (((node.getItems? "required").getD []).filterMap Json.string?).foldl addNew []

def nullable? (node : Json) : Option Bool :=
  -- The flag, or else true where null is among several types.
  match node.getBool? "nullable" with
  | some flag => some flag
  | none =>
    if ((node.getItems? "type").getD []).contains (.string "null") then some true else none

def number? (key : String) (node : Json) : Option Json.Number :=
  match node.get? key with
  | some (.number n) => some n
  | _ => none

def constraints? (node : Json) : Option Constraints :=
  let found : Constraints :=
    ⟨(node.get? "minLength").bind Json.nat?, (node.get? "maxLength").bind Json.nat?,
      node.getText? "pattern", number? "minimum" node, number? "maximum" node⟩
  if found.isEmpty then none else some found

def keywordOf? : Json → Option String
  | .string _ => some "string"
  | .bool _ => some "boolean"
  | .number (.int _) => some "integer"
  | .number (.float _) => some "number"
  | .object _ => some "object"
  | .array _ => none
  | .null => none

def guess? (node : Json) : Option String := do
  let listed := ((node.getItems? "enum").getD []).find? (!·.isNull)
  keywordOf? (← (listed.or (node.get? "default")).or (node.get? "example"))

def plainSlot (node : Json) : Slot :=
  (((typeKeyword? node).or (guess? node)).map Slot.ofKeyword).getD .any

def annotate (node : Json) (entry : Entry) : Entry :=
  { entry with
    description := node.getText? "description"
    sample := node.get? "example"
    nullable := nullable? node }

def primitive (node : Json) (name : String) : Entry :=
  annotate node { Entry.blank name .primitive with
    dataType := some (plainSlot node)
    format := node.getText? "format"
    values := node.getItems? "enum"
    fallback := node.get? "default"
    constraints := constraints? node }

def property (node : Json) (slot : Slot) (required : Bool) : Property where
  slot := slot
  format := node.getText? "format"
  values := node.getItems? "enum"
  fallback := node.get? "default"
  required := required
  nullable := nullable? node
  readOnly := node.getBool? "readOnly"
  writeOnly := node.getBool? "writeOnly"
  deprecated := node.getBool? "deprecated"
  constraints := constraints? node
  description := node.getText? "description"

end OpenApi.Schema.Node
