import OpenApi.Schema.Integrity
import OpenApi.Schema.Merge
import OpenApi.Schema.Name
/-! Building entries from schema nodes. A node gives its own entry first, then those of the structures
found inside it. -/
namespace OpenApi.Schema

structure Progress where
  -- What has been given away so far. `recursive` holds the structures that contain a reference,
  -- with the entry each of them became; `begun` holds the names of the entries under way or
  -- finished.
  names : Names
  recursive : List (Json × String)
  begun : List String

abbrev Build := StateT Progress (Except Breach)

namespace Build

def allocate (base : String) : Build String :=
  modifyGet fun p => let (name, names) := p.names.allocate base; (name, { p with names := names })

def start (name : String) : Build Unit := do
  if name.isEmpty then throw .emptyName
  if name ∈ (← get).begun then throw (.duplicateName name)
  modify fun p => { p with begun := name :: p.begun }

abbrev Maker := Json → String → Build (List Entry)

def namedSlot (components : Fields Json) (owner reference : String) : Build Slot :=
  match declared? components reference with
  | some (name, _) => return .schema name
  | none => throw (.residualReference owner reference)

/-- Gives a structure an entry of its own. An equal structure that contains a reference keeps the one
it has. -/
def hoist (make : Maker) (node : Json) (base : String) : Build (Slot × List Entry) := do
  let recurs := (findReference? node).isSome
  let given := (← get).recursive.lookup node
  match if recurs then given else none with
  | some name => return (.schema name, [])
  | none =>
    let name ← allocate base
    if recurs then modify fun p => { p with recursive := (node, name) :: p.recursive }
    return (.schema name, ← make node name)

mutual
def slot (components : Fields Json) (deeper : Option Maker) :
    Json → String → Build (Slot × List Entry)
  | .object fields, base => do
    let node := Json.object fields
    match Reference.of? node with
    | some reference => return (← namedSlot components base reference, [])
    | none =>
      if Node.needsEntry node then
        match deeper with
        | some make => hoist make node base
        | none => return (if Node.isObject node then .object else .any, [])
      else if Node.isArray node then
        let (items, entries) ← slotAt components deeper "items" fields (base ++ "Item")
        return (.array (items.getD .any), entries)
      else if Node.isObject node then
        if (Node.additionalProperties? node).isSome then
          let (values, entries) ←
            slotAt components deeper "additionalProperties" fields (base ++ "Value")
          return (.map (values.getD .any), entries)
        else return (.object, [])
      else return (Node.plainSlot node, [])
  | _, _ => return (.any, [])
def slotAt (components : Fields Json) (deeper : Option Maker) (key : String) :
    List (String × Json) → String → Build (Option Slot × List Entry)
  | [], _ => return (none, [])
  | (k, value) :: rest, base =>
    if k = key then do
      let (slot, entries) ← slot components deeper value base
      return (some slot, entries)
    else slotAt components deeper key rest base
end

def properties (components : Fields Json) (deeper : Option Maker) (owner : String)
    (required : List String) : Fields Json → Build (Fields Property × List Entry)
  | [] => return ([], [])
  | (name, node) :: rest => do
    let (slot, entries) ← slot components deeper node (propertyName owner name)
    let (others, more) ← properties components deeper owner required rest
    return ((name, Node.property node slot (required.contains name)) :: others, entries ++ more)

def objectEntry (components : Fields Json) (deeper : Option Maker) (node : Json) (name : String)
    (declared : Fields Json) (required : List String) : Build (Entry × List Entry) := do
  let blank := { Entry.blank name .object with required := required }
  match declared, Node.additionalProperties? node with
  | [], some values =>
    let (values, entries) ← slot components deeper values (name ++ "Value")
    return ({ blank with dataType := some (.map values) }, entries)
  | _, _ =>
    let (properties, entries) ← properties components deeper name required declared
    return ({ blank with properties := properties }, entries)

def arrayEntry (components : Fields Json) (deeper : Option Maker) (node : Json) (name : String) :
    Build (Entry × List Entry) := do
  let (items, entries) ← match node.get? "items" with
    | some items => slot components deeper items (name ++ "Item")
    | none => pure (.any, [])
  return ({ Entry.blank name .array with items := some items }, entries)

def entryOf (components : Fields Json) (deeper : Option Maker)
    (options : Composition.Kind → Build (List String × List Entry)) (node : Json) (name : String) :
    Build (Entry × List Entry) := do
  match Reference.of? node, Node.composition? node with
  | some reference, _ =>
    let slot ← namedSlot components name reference
    return ({ Entry.blank name .primitive with dataType := some slot }, [])
  | none, some (.allOf, members) =>
    let merged := (← mergeAll components name members).absorb node
    let (entry, entries) ←
      objectEntry components deeper node name merged.properties merged.required
    return ({ Node.annotate node entry with description := merged.description }, entries)
  | none, some (kind, _) =>
    let (members, entries) ← options kind
    let entry := { Entry.blank name .union with composition := some ⟨kind, members⟩ }
    return (Node.annotate node entry, entries)
  | none, none =>
    if Node.isObject node then
      let (entry, entries) ← objectEntry components deeper node name
        ((node.getFields? "properties").getD []) (Node.requiredNames node)
      return (Node.annotate node entry, entries)
    else if Node.isArray node then
      let (entry, entries) ← arrayEntry components deeper node name
      return (Node.annotate node entry, entries)
    else return (Node.primitive node name, [])

mutual
def entriesOf (components : Fields Json) (deeper : Option Maker) :
    Json → String → Build (List Entry)
  -- The entries of a node. The members of a union are made by `deeper`, or else on this level.
  | .object fields, name => do
    start name
    let (entry, entries) ← entryOf components deeper
      (fun kind => optionsAt components deeper kind.word name fields) (.object fields) name
    return entry :: entries
  | node, name => do
    start name
    let (entry, entries) ← entryOf components deeper (fun _ => return ([], [])) node name
    return entry :: entries
def optionsAt (components : Fields Json) (deeper : Option Maker) (keyword owner : String) :
    List (String × Json) → Build (List String × List Entry)
  | [] => return ([], [])
  | (key, value) :: rest =>
    if key = keyword then
      match value with
      | .array members => optionsFrom components deeper owner 1 members
      | _ => return ([], [])
    else optionsAt components deeper keyword owner rest
def optionsFrom (components : Fields Json) (deeper : Option Maker) (owner : String) (index : Nat) :
    List Json → Build (List String × List Entry)
  | [] => return ([], [])
  | member :: rest => do
    let name ← allocate (owner ++ "Option" ++ toString index)
    let entries ← match deeper with
      | some make => make member name
      | none => entriesOf components deeper member name
    let (names, others) ← optionsFrom components deeper owner (index + 1) rest
    return (name :: names, entries ++ others)
end

def normalize (components : Fields Json) : Nat → Json → String → Build (List Entry)
  | 0, node, name => entriesOf components none node name
  | levels + 1, node, name => entriesOf components (some (normalize components levels)) node name

end Build
end OpenApi.Schema
