import OpenApi.Schema.Body
import OpenApi.Schema.Build
import OpenApi.Schema.Map
/-! The schema map of a resolved document: its declared schemas under their names, then the bodies
without a name. -/
namespace OpenApi.Schema

def defaultDepth : Nat := 10

def components? (document : Json) : Option (Fields Json) :=
  ((document.get? "components").bind (Json.get? "schemas")).bind Json.fields?

def reserveAll (names : Names) : List String → Except Breach Names
  -- Every declared name is given away before any other is derived.
  | [] => .ok names
  | name :: rest =>
    if name.isEmpty then .error .emptyName
    else match names.reserve? name with
      | none => .error (.duplicateName name)
      | some names => reserveAll names rest

def buildDeclared (components : Fields Json) (levels : Nat) : Fields Json → Build (List Entry)
  | [] => return []
  | (name, node) :: rest => do
    let entries ← Build.normalize components levels node name
    return entries ++ (← buildDeclared components levels rest)

def buildBodies (components : Fields Json) (levels : Nat) : List Body → Build (List Entry)
  | [] => return []
  | body :: rest => do
    let name ← Build.allocate body.baseName
    let entries ← Build.normalize components levels body.schema name
    return entries ++ (← buildBodies components levels rest)

def entriesOf (document : Json) (levels : Nat) : Except Breach (List Entry) := do
  let components := (components? document).getD []
  let names ← reserveAll .empty (Fields.keys components)
  let build := do
    let declared ← buildDeclared components levels components
    return declared ++ (← buildBodies components levels (Body.collect components document))
  let (entries, _) ← build.run ⟨names, [], []⟩
  return entries

def extract (document : Json) (levels : Nat) : Except Breach Map := do
  let map := Map.ofEntries (← entriesOf document levels)
  validate map.entries
  return map

end OpenApi.Schema
