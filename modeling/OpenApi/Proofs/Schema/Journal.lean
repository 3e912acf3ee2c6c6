import OpenApi.Proofs.Schema.Entries
import OpenApi.Schema.Extract
/-! The journal of an extraction: every entry that is asked for, at which depth and what for, up to
where the extraction breaks off. A build that keeps a journal does what the build does. -/
namespace OpenApi.Schema

/-- What an entry is asked for: a declared schema or a body, a structure in a slot that has no entry
yet or has one, a member of a union. -/
inductive Cause where
  | root
  | hoisted
  | reused
  | option
  deriving DecidableEq, Repr

structure Call where
  cause : Cause
  depth : Nat
  node : Json
  name : String
  deriving DecidableEq, Repr

def Call.makes (c : Call) : Bool := c.cause ≠ .reused

structure Logged (α : Type) where
  build : Build α
  calls : Progress → List Call

namespace Logged

instance : Monad Logged where
  pure a := ⟨pure a, fun _ => []⟩
  bind m f :=
    ⟨m.build >>= fun a => (f a).build, fun p => m.calls p ++
      match m.build.run p with
      | .ok (a, q) => (f a).calls q
      | .error _ => []⟩

def of {α : Type} (m : Build α) : Logged α := ⟨m, fun _ => []⟩

def call {α : Type} (c : Call) (m : Logged α) : Logged α := ⟨m.build, fun p => c :: m.calls p⟩

end Logged

namespace Journal
open Logged (of call)

abbrev Maker := Json → String → Logged (List Entry)

def hoist (make : Maker) (depth : Nat) (node : Json) (base : String) :
    Logged (Slot × List Entry) := do
  let recurs := (findReference? node).isSome
  let given := (← of get).recursive.lookup node
  match if recurs then given else none with
  | some name => call ⟨.reused, depth + 1, node, name⟩ (return (.schema name, []))
  | none =>
    let name ← of (Build.allocate base)
    if recurs then of (modify fun p => { p with recursive := (node, name) :: p.recursive })
    return (.schema name, ← call ⟨.hoisted, depth + 1, node, name⟩ (make node name))

mutual
def slot (components : Fields Json) (deeper : Option Maker) (depth : Nat) :
    Json → String → Logged (Slot × List Entry)
  | .object fields, base => do
    let node := Json.object fields
    match Reference.of? node with
    | some reference => return (← of (Build.namedSlot components base reference), [])
    | none =>
      if Node.needsEntry node then
        match deeper with
        | some make => hoist make depth node base
        | none => return (if Node.isObject node then .object else .any, [])
      else if Node.isArray node then
        let (items, entries) ← slotAt components deeper depth "items" fields (base ++ "Item")
        return (.array (items.getD .any), entries)
      else if Node.isObject node then
        if (Node.additionalProperties? node).isSome then
          let (values, entries) ←
            slotAt components deeper depth "additionalProperties" fields (base ++ "Value")
          return (.map (values.getD .any), entries)
        else return (.object, [])
      else return (Node.plainSlot node, [])
  | _, _ => return (.any, [])
def slotAt (components : Fields Json) (deeper : Option Maker) (depth : Nat) (key : String) :
    List (String × Json) → String → Logged (Option Slot × List Entry)
  | [], _ => return (none, [])
  | (k, value) :: rest, base =>
    if k = key then do
      let (slot, entries) ← slot components deeper depth value base
      return (some slot, entries)
    else slotAt components deeper depth key rest base
end

def properties (components : Fields Json) (deeper : Option Maker) (depth : Nat) (owner : String)
    (required : List String) : Fields Json → Logged (Fields Property × List Entry)
  | [] => return ([], [])
  | (name, node) :: rest => do
    let (slot, entries) ← slot components deeper depth node (propertyName owner name)
    let (others, more) ← properties components deeper depth owner required rest
    return ((name, Node.property node slot (required.contains name)) :: others, entries ++ more)

def objectEntry (components : Fields Json) (deeper : Option Maker) (depth : Nat) (node : Json)
    (name : String) (declared : Fields Json) (required : List String) :
    Logged (Entry × List Entry) := do
  let blank := { Entry.blank name .object with required := required }
  match declared, Node.additionalProperties? node with
  | [], some values =>
    let (values, entries) ← slot components deeper depth values (name ++ "Value")
    return ({ blank with dataType := some (.map values) }, entries)
  | _, _ =>
    let (properties, entries) ← properties components deeper depth name required declared
    return ({ blank with properties := properties }, entries)

def arrayEntry (components : Fields Json) (deeper : Option Maker) (depth : Nat) (node : Json)
    (name : String) : Logged (Entry × List Entry) := do
  let (items, entries) ← match node.get? "items" with
    | some items => slot components deeper depth items (name ++ "Item")
    | none => pure (.any, [])
  return ({ Entry.blank name .array with items := some items }, entries)

def entryOf (components : Fields Json) (deeper : Option Maker) (depth : Nat)
    (options : Composition.Kind → Logged (List String × List Entry)) (node : Json) (name : String) :
    Logged (Entry × List Entry) := do
  match Reference.of? node, Node.composition? node with
  | some reference, _ =>
    let slot ← of (Build.namedSlot components name reference)
    return ({ Entry.blank name .primitive with dataType := some slot }, [])
  | none, some (.allOf, members) =>
    let merged := (← of (mergeAll components name members)).absorb node
    let (entry, entries) ←
      objectEntry components deeper depth node name merged.properties merged.required
    return ({ Node.annotate node entry with description := merged.description }, entries)
  | none, some (kind, _) =>
    let (members, entries) ← options kind
    let entry := { Entry.blank name .union with composition := some ⟨kind, members⟩ }
    return (Node.annotate node entry, entries)
  | none, none =>
    if Node.isObject node then
      let (entry, entries) ← objectEntry components deeper depth node name
        ((node.getFields? "properties").getD []) (Node.requiredNames node)
      return (Node.annotate node entry, entries)
    else if Node.isArray node then
      let (entry, entries) ← arrayEntry components deeper depth node name
      return (Node.annotate node entry, entries)
    else return (Node.primitive node name, [])

mutual
def entriesOf (components : Fields Json) (deeper : Option Maker) :
    Nat → Json → String → Logged (List Entry)
  | depth, .object fields, name => do
    of (Build.start name)
    let (entry, entries) ← entryOf components deeper depth
      (fun kind => optionsAt components deeper kind.word name depth fields) (.object fields) name
    return entry :: entries
  | depth, node, name => do
    of (Build.start name)
    let (entry, entries) ←
      entryOf components deeper depth (fun _ => return ([], [])) node name
    return entry :: entries
def optionsAt (components : Fields Json) (deeper : Option Maker) (keyword owner : String) :
    Nat → List (String × Json) → Logged (List String × List Entry)
  | _, [] => return ([], [])
  | depth, (key, value) :: rest =>
    if key = keyword then
      match value with
      | .array members => optionsFrom components deeper owner depth 1 members
      | _ => return ([], [])
    else optionsAt components deeper keyword owner depth rest
def optionsFrom (components : Fields Json) (deeper : Option Maker) (owner : String) :
    Nat → Nat → List Json → Logged (List String × List Entry)
  | _, _, [] => return ([], [])
  | depth, index, member :: rest => do
    let name ← of (Build.allocate (owner ++ "Option" ++ toString index))
    let entries ← call ⟨.option, depth + 1, member, name⟩ (match deeper with
      | some make => make member name
      | none => entriesOf components deeper (depth + 1) member name)
    let (names, others) ← optionsFrom components deeper owner depth (index + 1) rest
    return (name :: names, entries ++ others)
end

def normalize (components : Fields Json) : Nat → Nat → Json → String → Logged (List Entry)
  | 0, depth, node, name => entriesOf components none depth node name
  | levels + 1, depth, node, name =>
    entriesOf components (some (normalize components levels (depth + 1))) depth node name

def declared (components : Fields Json) (levels : Nat) : Fields Json → Logged (List Entry)
  | [] => return []
  | (name, node) :: rest => do
    let entries ← call ⟨.root, 0, node, name⟩ (normalize components levels 0 node name)
    return entries ++ (← declared components levels rest)

def bodies (components : Fields Json) (levels : Nat) : List Body → Logged (List Entry)
  | [] => return []
  | body :: rest => do
    let name ← of (Build.allocate body.baseName)
    let entries ←
      call ⟨.root, 0, body.schema, name⟩ (normalize components levels 0 body.schema name)
    return entries ++ (← bodies components levels rest)

def roots (components : Fields Json) (levels : Nat) (bodies : List Body) : Logged (List Entry) := do
  let first ← declared components levels components
  return first ++ (← Journal.bodies components levels bodies)

end Journal

def calls (document : Json) (levels : Nat) : List Call :=
  let components := (components? document).getD []
  match reserveAll .empty (Fields.keys components) with
  | .ok names =>
    (Journal.roots components levels (Body.collect components document)).calls ⟨names, [], []⟩
  | .error _ => []

namespace Journal
open Logged (of call)

def unlogged (make : Maker) : Build.Maker := fun node name => (make node name).build

theorem buildBind {α β : Type} (m : Logged α) (f : α → Logged β) :
    (m >>= f).build = m.build >>= fun a => (f a).build := rfl

theorem hoistBuild (make : Maker) (depth : Nat) (node : Json) (base : String) :
    (hoist make depth node base).build = Build.hoist (unlogged make) node base := by
  unfold hoist Build.hoist
  refine congrArg (get >>= ·) (funext fun p => ?_)
  dsimp only
  cases (findReference? node).isSome with
  | false => rfl
  | true => cases p.recursive.lookup node <;> rfl

section
variable {components : Fields Json} {deeper : Option Maker} {depth : Nat}

theorem slotAtBuild {key base} {fields : Fields Json}
    (each : ∀ m ∈ fields, (slot components deeper depth m.2 base).build =
      Build.slot components (deeper.map unlogged) m.2 base) :
    (slotAt components deeper depth key fields base).build =
      Build.slotAt components (deeper.map unlogged) key fields base := by
  induction fields with
  | nil => rfl
  | cons field rest ih =>
    have ⟨first, later⟩ := List.forall_mem_cons.mp each
    unfold slotAt Build.slotAt
    split
    · rw [buildBind, first]
      rfl
    · exact ih later

theorem slotBuild (node : Json) (base : String) : (slot components deeper depth node base).build =
    Build.slot components (deeper.map unlogged) node base := by
  induction node using Json.ofParts generalizing base with
  | null | bool | number | string | array => rfl
  | object fields ih =>
    have part (key base : String) : (slotAt components deeper depth key fields base).build =
        Build.slotAt components (deeper.map unlogged) key fields base :=
      slotAtBuild fun m member => ih m member base
    unfold slot Build.slot
    dsimp only
    cases Reference.of? (.object fields) with
    | some reference => rfl
    | none =>
      dsimp only
      cases Node.needsEntry (.object fields) with
      | true =>
        cases deeper with
        | none => rfl
        | some make => exact hoistBuild make depth _ base
      | false =>
        cases Node.isArray (.object fields) with
        | true => exact congrArg (· >>= _) (part _ _)
        | false =>
          cases Node.isObject (.object fields) with
          | false => rfl
          | true =>
            cases (Node.additionalProperties? (.object fields)).isSome with
            | false => rfl
            | true => exact congrArg (· >>= _) (part _ _)

theorem propertiesBuild (owner : String) (required : List String) (declared : Fields Json) :
    (properties components deeper depth owner required declared).build =
      Build.properties components (deeper.map unlogged) owner required declared := by
  induction declared with
  | nil => rfl
  | cons field rest ih =>
    unfold properties Build.properties
    rw [buildBind, slotBuild]
    refine congrArg (_ >>= ·) (funext fun made => ?_)
    rw [buildBind, ih]
    rfl

theorem objectBuild (node : Json) (name : String) (declared : Fields Json)
    (required : List String) :
    (objectEntry components deeper depth node name declared required).build =
      Build.objectEntry components (deeper.map unlogged) node name declared required := by
  unfold objectEntry Build.objectEntry
  cases declared with
  | cons => exact congrArg (· >>= _) (propertiesBuild _ _ _)
  | nil =>
    cases Node.additionalProperties? node with
    | some values => exact congrArg (· >>= _) (slotBuild values _)
    | none => exact congrArg (· >>= _) (propertiesBuild _ _ _)

theorem arrayBuild (node : Json) (name : String) :
    (arrayEntry components deeper depth node name).build =
      Build.arrayEntry components (deeper.map unlogged) node name := by
  unfold arrayEntry Build.arrayEntry
  cases node.get? "items" with
  | none => rfl
  | some items => exact congrArg (· >>= _) (slotBuild items _)

theorem entryBuild {options : Composition.Kind → Logged (List String × List Entry)}
    {options' : Composition.Kind → Build (List String × List Entry)}
    (offers : ∀ kind, (options kind).build = options' kind) (node : Json) (name : String) :
    (entryOf components deeper depth options node name).build =
      Build.entryOf components (deeper.map unlogged) options' node name := by
  unfold entryOf Build.entryOf
  cases Reference.of? node with
  | some reference => rfl
  | none =>
    cases Node.composition? node with
    | some composed =>
      obtain ⟨kind, members⟩ := composed
      cases kind with
      | allOf =>
        refine congrArg (_ >>= ·) (funext fun merged => ?_)
        exact congrArg (· >>= _) (objectBuild _ _ _ _)
      | oneOf | anyOf => exact congrArg (· >>= _) (offers _)
    | none =>
      cases Node.isObject node with
      | true => exact congrArg (· >>= _) (objectBuild _ _ _ _)
      | false =>
        cases Node.isArray node with
        | true => exact congrArg (· >>= _) (arrayBuild _ _)
        | false => rfl

def optionMaker (components : Fields Json) (depth : Nat) : Option Maker → Maker
  | some make => make
  | none => entriesOf components none depth

theorem optionsMember (owner : String) (index : Nat) (member : Json) (rest : List Json) :
    optionsFrom components deeper owner depth index (member :: rest) = do
      let name ← of (Build.allocate (owner ++ "Option" ++ toString index))
      let entries ← call ⟨.option, depth + 1, member, name⟩
        (optionMaker components (depth + 1) deeper member name)
      let (names, others) ← optionsFrom components deeper owner depth (index + 1) rest
      return (name :: names, entries ++ others) := by
  cases deeper <;> rfl

theorem optionsAtItems (keyword owner : String) (fields : Fields Json) :
    optionsAt components deeper keyword owner depth fields =
      match (Json.object fields).getItems? keyword with
      | some members => optionsFrom components deeper owner depth 1 members
      | none => return ([], []) := by
  induction fields with
  | nil => rfl
  | cons field rest ih =>
    simp only [Json.getItems?, Json.get?] at ih ⊢
    unfold optionsAt Fields.get?
    split
    · cases field.2 <;> rfl
    · exact ih

theorem optionsBuild {owner : String} {index : Nat} {members : List Json}
    (each : ∀ member ∈ members, ∀ name,
      (optionMaker components (depth + 1) deeper member name).build =
        Build.optionMaker components (deeper.map unlogged) member name) :
    (optionsFrom components deeper owner depth index members).build =
      Build.optionsFrom components (deeper.map unlogged) owner index members := by
  induction members generalizing index with
  | nil => rfl
  | cons member rest ih =>
    have ⟨one, others⟩ := List.forall_mem_cons.mp each
    rw [optionsMember, Build.optionsMember]
    refine congrArg (_ >>= ·) (funext fun name => ?_)
    refine congrArg₂ (· >>= ·) (one name) (funext fun entries => ?_)
    exact congrArg (· >>= _) (ih others)

theorem entriesBuild (node : Json) (name : String) :
    (entriesOf components deeper depth node name).build =
      Build.entriesOf components (deeper.map unlogged) node name := by
  induction node using Json.ofMembers generalizing name depth with
  | other node noObject =>
    cases node with
    | object => cases noObject
    | null | bool | number | string | array =>
      refine congrArg (Build.start name >>= ·) (funext fun _ => ?_)
      exact congrArg (· >>= _) (entryBuild (fun _ => rfl) _ name)
  | object fields ih =>
    unfold entriesOf Build.entriesOf
    refine congrArg (Build.start name >>= ·) (funext fun _ => ?_)
    refine congrArg (· >>= _) (entryBuild (fun kind => ?_) _ name)
    rw [optionsAtItems, Build.optionsAtItems]
    cases given : (Json.object fields).getItems? kind.word with
    | none => rfl
    | some members =>
      refine optionsBuild fun member among name => ?_
      cases deeper with
      | some make => rfl
      | none => exact ih _ _ given member among name

theorem normalizeBuild (levels depth : Nat) (node : Json) (name : String) :
    (normalize components levels depth node name).build =
      Build.normalize components levels node name := by
  induction levels generalizing depth node name with
  | zero => exact entriesBuild node name
  | succ levels ih =>
    have same : unlogged (normalize components levels (depth + 1)) =
        Build.normalize components levels := funext₂ (ih (depth + 1))
    exact (entriesBuild node name).trans (by rw [Option.map_some, same]; rfl)

theorem declaredBuild (levels : Nat) (fields : Fields Json) :
    (declared components levels fields).build = buildDeclared components levels fields := by
  induction fields with
  | nil => rfl
  | cons field rest ih =>
    refine congrArg₂ (· >>= ·) (normalizeBuild _ _ _ _) (funext fun entries => ?_)
    exact congrArg (· >>= _) ih

theorem bodiesBuild (levels : Nat) (found : List Body) :
    (bodies components levels found).build = buildBodies components levels found := by
  induction found with
  | nil => rfl
  | cons body rest ih =>
    refine congrArg (_ >>= ·) (funext fun name => ?_)
    refine congrArg₂ (· >>= ·) (normalizeBuild _ _ _ _) (funext fun entries => ?_)
    exact congrArg (· >>= _) ih

theorem rootsBuild (levels : Nat) (found : List Body) :
    (roots components levels found).build = do
      let declared ← buildDeclared components levels components
      return declared ++ (← buildBodies components levels found) :=
  congrArg₂ (· >>= ·) (declaredBuild _ _)
    (funext fun _ => congrArg (· >>= _) (bodiesBuild levels found))

end
end Journal
end OpenApi.Schema
