import OpenApi.Pointer
import OpenApi.Reference
import OpenApi.Schema.Breach
import OpenApi.Schema.Node
/-! Merging the members of an `allOf`. A member that refers to a declared schema brings in that schema,
once in a merge; what comes later wins. -/
namespace OpenApi.Schema

def declared? (components : Fields Json) (reference : String) : Option (String × Json) := do
  let name ← Pointer.componentName? reference
  return (name, ← Fields.get? name components)

structure Merged where
  properties : Fields Json
  required : List String
  description : Option String

namespace Merged

def empty : Merged := ⟨[], [], none⟩

def absorb (m : Merged) (node : Json) : Merged where
  properties := ((node.getFields? "properties").getD []).foldl (fun fs p => Fields.set p.1 p.2 fs)
    m.properties
  required := (Node.requiredNames node).foldl addNew m.required
  description := (node.getText? "description").or m.description

end Merged

structure Merge where
  merged : Merged
  entered : List String

namespace Merge

def empty : Merge := ⟨.empty, []⟩

abbrev Step := Merge → Except Breach Merge

mutual
def addMember (follow : String → Step) : Json → Step
  -- Adds one member: first the members of its own `allOf`, then itself.
  | .object fields, m =>
    match Reference.of? (.object fields) with
    | some reference => follow reference m
    | none => do
      let m ← addNested follow fields m
      return { m with merged := m.merged.absorb (.object fields) }
  | _, m => .ok m
def addNested (follow : String → Step) : List (String × Json) → Step
  | [], m => .ok m
  | (key, value) :: rest, m =>
    if key = "allOf" then
      match value with
      | .array members => addMembers follow members m
      | _ => .ok m
    else addNested follow rest m
def addMembers (follow : String → Step) : List Json → Step
  | [], m => .ok m
  | member :: rest, m => do addMembers follow rest (← addMember follow member m)
end

/-- Enters the schema that a reference names, unless the merge has been there. `budget` bounds how many
more can be entered from here on. -/
def follow (components : Fields Json) (owner : String) : Nat → String → Step
  | budget, reference, m =>
    match declared? components reference with
    | none => .error (.residualReference owner reference)
    | some (name, target) =>
      if name ∈ m.entered then .ok m
      else match budget with
        | 0 => .ok m
        | budget + 1 =>
          addMember (follow components owner budget) target { m with entered := name :: m.entered }

end Merge

def mergeAll (components : Fields Json) (owner : String) (members : List Json) :
    Except Breach Merged := do
  return (← Merge.addMembers (Merge.follow components owner components.length) members .empty).merged

end OpenApi.Schema
