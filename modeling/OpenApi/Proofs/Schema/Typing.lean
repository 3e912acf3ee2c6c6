import OpenApi.Proofs.Schema.Lockstep
import OpenApi.Proofs.Schema.Outermost
/-! A schema as an entry and in a slot. Both go down a ladder of branches, but an entry asks for an
object first, and a slot for an array. A node that is not both means the same on either side. -/
namespace OpenApi.Schema

theorem Flat.alone {node : Json} (flat : Flat node) : Node.composition? node = none := by
  have loose := flat.loose
  unfold Node.needsEntry at loose
  simpa using (Bool.or_eq_false_iff.mp loose).2

theorem Flat.bare {node : Json} (flat : Flat node) :
    (node.getFields? "properties").getD [] = [] := by
  have loose := flat.loose
  unfold Node.needsEntry at loose
  have empty := (Bool.or_eq_false_iff.mp loose).1
  cases given : node.getFields? "properties" with
  | none => rfl
  | some fields => simpa [given] using empty

def slotBranch (node : Json) : Kind :=
  if Node.isArray node then .array else if Node.isObject node then .object else .primitive

theorem slotLadder {components : Fields Json} {deeper : Option Build.Maker} {fields : Fields Json}
    {base : String} (flat : Flat (.object fields)) :
    Build.slot components deeper (.object fields) base =
      match slotBranch (.object fields), Node.additionalProperties? (.object fields) with
      | .array, _ => do
        let (items, entries) ← Build.slotAt components deeper "items" fields (base ++ "Item")
        return (.array (items.getD .any), entries)
      | .object, some _ => do
        let (values, entries) ←
          Build.slotAt components deeper "additionalProperties" fields (base ++ "Value")
        return (.map (values.getD .any), entries)
      | .object, none => return (.object, [])
      | _, _ => return (Node.plainSlot (.object fields), []) := by
  unfold slotBranch
  cases isArray : Node.isArray (.object fields) with
  | true => exact Build.slotArray flat isArray
  | false =>
    cases isObject : Node.isObject (.object fields) with
    | false => exact Build.slotPlain flat isArray isObject
    | true =>
      cases given : Node.additionalProperties? (.object fields) with
      | none => exact Build.slotObject flat isArray isObject given
      | some values => exact Build.slotMap flat isArray isObject given

structure SameType (same : String → String → Prop) (node : Json) (entry : Entry) (slot : Slot) :
    Prop where
  array : entry.kind = .array ↔ ∃ items, slot = .array items
  object : entry.kind = .object ↔
    slotBranch node = .object ∧ (slot = .object ∨ ∃ values, slot = .map values)
  primitive : ∀ type, entry.kind = .primitive ∧ entry.dataType = some type ↔
    slotBranch node = .primitive ∧ slot = type
  items : ∀ others, slot = .array others →
    ∃ items, entry.items = some items ∧ SlotAlike same items others
  values : entry.kind = .object → ∀ others, slot = .map others →
    ∃ values, entry.dataType = some (.map values) ∧ SlotAlike same values others
  untyped : entry.kind = .object → slot = .object → entry.dataType = none

inductive Typed (same : String → String → Prop) (node : Json) : Entry → Slot → Prop where
  | array {entry : Entry} {items others} (kind : entry.kind = .array)
      (branch : slotBranch node = .array) (typed : entry.items = some items)
      (alike : SlotAlike same items others) : Typed same node entry (.array others)
  | map {entry : Entry} {values others} (kind : entry.kind = .object)
      (branch : slotBranch node = .object) (typed : entry.dataType = some (.map values))
      (alike : SlotAlike same values others) : Typed same node entry (.map others)
  | object {entry : Entry} (kind : entry.kind = .object) (branch : slotBranch node = .object)
      (untyped : entry.dataType = none) : Typed same node entry .object
  | plain {entry : Entry} (kind : entry.kind = .primitive) (branch : slotBranch node = .primitive)
      (typed : entry.dataType = some (Node.plainSlot node)) :
      Typed same node entry (Node.plainSlot node)

def Likeness.typed (node : Json) : Likeness Entry Slot where
  holds same := Typed same node
  wider more typed := by
    cases typed with
    | array kind branch typed alike => exact .array kind branch typed (alike.wider more)
    | map kind branch typed alike => exact .map kind branch typed (alike.wider more)
    | object kind branch untyped => exact .object kind branch untyped
    | plain kind branch typed => exact .plain kind branch typed

def Likeness.holding (kind : Kind) (read : Slot → Entry → Prop) : Likeness Entry (Option Slot) where
  holds same entry found :=
    entry.kind = kind ∧ ∃ slot, read slot entry ∧ SlotAlike same slot (found.getD .any)
  wider more held := ⟨held.1, held.2.imp fun _ holds => ⟨holds.1, holds.2.wider more⟩⟩

theorem plainSlotNoArray (node : Json) (items : Slot) : Node.plainSlot node ≠ .array items := by
  unfold Node.plainSlot
  cases (Node.typeKeyword? node).or (Node.guess? node) with
  | none => exact Slot.noConfusion
  | some keyword =>
    simp only [Option.map_some, Option.getD_some, Slot.ofKeyword]
    split <;> exact Slot.noConfusion

theorem Typed.sameType {same : String → String → Prop} {node : Json} {entry : Entry} {slot : Slot}
    (typed : Typed same node entry slot) : SameType same node entry slot := by
  cases typed with
  | array kind branch typed alike => constructor <;> simp [kind, branch, typed, alike]
  | map kind branch typed alike => constructor <;> simp [kind, branch, typed, alike]
  | object kind branch untyped => constructor <;> simp [kind, branch, untyped]
  | plain kind branch typed => constructor <;> simp [kind, branch, typed, plainSlotNoArray]

namespace Build

section
variable {components : Fields Json} {deeper : Option Maker} {before : List String}
  {given : List (String × String)} (declared : Fields.keys components ⊆ before)
  (remade : DeeperRemade before deeper) {fields : Fields Json}
include declared remade

theorem itemsLockstep (name base : String) :
    Lockstep before given (Likeness.holding .array fun items entry => entry.items = some items)
      (arrayEntry components deeper (.object fields) name)
      (slotAt components deeper "items" fields base) := by
  rw [slotAtGet]
  unfold arrayEntry
  cases (Json.object fields).get? "items" with
  | none => exact .pure ⟨rfl, .any, rfl, .unnamed rfl⟩
  | some items =>
    refine (slotLockstep declared remade items _ _).map
      (f := fun slot => { Entry.blank name .array with items := some slot }) (g := some) ?_
    exact fun _ alike => ⟨rfl, _, rfl, alike⟩

theorem valuesLockstep {values : Json}
    (found : Node.additionalProperties? (.object fields) = some values) (name base : String)
    (required : List String) :
    Lockstep before given
      (Likeness.holding .object fun values entry => entry.dataType = some (.map values))
      (objectEntry components deeper (.object fields) name [] required)
      (slotAt components deeper "additionalProperties" fields base) := by
  rw [slotAtGet, Node.additionalGiven found]
  unfold objectEntry
  simp only [found]
  refine (slotLockstep declared remade values _ _).map (f := fun values =>
    { Entry.blank name .object with required := required, dataType := some (Slot.map values) })
    (g := some) ?_
  exact fun _ alike => ⟨rfl, _, rfl, alike⟩

theorem fieldsLockstep (flat : Flat (.object fields))
    (apart : ¬ (Node.isObject (.object fields) ∧ Node.isArray (.object fields)))
    (options : Composition.Kind → Build (List String × List Entry)) (name base : String) :
    Lockstep before given (Likeness.typed (.object fields))
      (entryOf components deeper options (.object fields) name)
      (slot components deeper (.object fields) base) := by
  rw [slotLadder flat]
  unfold entryOf
  simp only [flat.plain, flat.alone, flat.bare]
  cases isObject : Node.isObject (.object fields) with
  | true =>
    have noArray : Node.isArray (.object fields) = false :=
      Bool.eq_false_iff.mpr fun isArray => apart ⟨isObject, isArray⟩
    have branch : slotBranch (.object fields) = .object := by simp [slotBranch, noArray, isObject]
    rw [branch]
    cases found : Node.additionalProperties? (.object fields) with
    | some values =>
      refine (valuesLockstep declared remade found name _ _).map (f := Node.annotate (.object fields))
        (g := fun values => Slot.map (values.getD .any)) ?_
      intro last entry slot _ held
      obtain ⟨kind, values, typed, alike⟩ := held
      exact .map kind branch typed alike
    | none =>
      unfold objectEntry
      simp only [found]
      exact .pure (.object rfl branch rfl)
  | false =>
    cases isArray : Node.isArray (.object fields) with
    | true =>
      have branch : slotBranch (.object fields) = .array := by simp [slotBranch, isArray]
      rw [branch]
      refine (itemsLockstep declared remade name _).map (f := Node.annotate (.object fields))
        (g := fun items => Slot.array (items.getD .any)) ?_
      intro last entry slot _ held
      obtain ⟨kind, items, typed, alike⟩ := held
      exact .array kind branch typed alike
    | false =>
      have branch : slotBranch (.object fields) = .primitive := by
        simp [slotBranch, isArray, isObject]
      rw [branch]
      exact .pure (.plain rfl branch rfl)

theorem flatLockstep {node : Json} (flat : Flat node)
    (apart : ¬ (Node.isObject node ∧ Node.isArray node))
    (options : Composition.Kind → Build (List String × List Entry)) (name base : String) :
    Lockstep before given (Likeness.typed node) (entryOf components deeper options node name)
      (slot components deeper node base) := by
  cases node with
  | object fields => exact fieldsLockstep declared remade flat apart options name base
  | null | bool | number | string | array => exact .pure (.plain rfl rfl rfl)

end

section
variable {components : Fields Json} {deeper : Option Maker} {p q : Progress} {node : Json}
  {name base : String} {levels : Nat}

theorem Meets.any {α : Type} (m : Build α) (p : Progress) :
    Meets (fun _ => True) m p fun _ _ => True := by
  unfold Meets
  split <;> trivial

theorem objectKind {declared : Fields Json} {required : List String} :
    Meets (fun _ => True) (objectEntry components deeper node name declared required) p
      fun made _ => made.1.kind = .object := by
  unfold objectEntry
  split
  · exact (Meets.any _ p).bind fun _ _ _ => .pure rfl
  · exact (Meets.any _ p).bind fun _ _ _ => .pure rfl

theorem partedEntry {options : Composition.Kind → Build (List String × List Entry)}
    (flat : Flat node) (isObject : Node.isObject node = true) :
    Meets (fun _ => True) (entryOf components deeper options node name) p
      fun made _ => made.1.kind = .object := by
  unfold entryOf
  simp only [flat.plain, flat.alone, isObject, ↓reduceIte]
  exact objectKind.bind fun made _ kind => .pure kind

theorem partedSlot (flat : Flat node) (isArray : Node.isArray node = true) :
    Meets (fun _ => True) (slot components deeper node base) p
      fun made _ => ∃ items, made.1 = .array items := by
  cases node with
  | object fields =>
    rw [slotArray flat isArray]
    exact (Meets.any _ p).bind fun _ _ _ => .pure ⟨_, rfl⟩
  | null | bool | number | string | array => cases isArray

theorem entriesHeaded (components : Fields Json) (deeper : Option Maker) (node : Json)
    (name : String) : ∃ options, entriesOf components deeper node name = do
      start name
      let (entry, entries) ← entryOf components deeper options node name
      return entry :: entries := by
  cases node <;> exact ⟨_, rfl⟩

structure Running (components : Fields Json) (p : Progress) : Prop where
  begun : p.begun ⊆ p.names.taken
  noted : ∀ m ∈ p.recursive, m.2 ∈ p.names.taken
  declared : Fields.keys components ⊆ p.names.taken

theorem startRunning {names : Names}
    (reserved : reserveAll .empty (Fields.keys components) = .ok names) :
    Running components ⟨names, [], []⟩ := by
  obtain ⟨distinct, others⟩ := reservedApart reserved
  rw [reservesAll distinct fun key among => (others key among).2] at reserved
  split at reserved
  · cases reserved
  · cases reserved
    constructor
    case begun => exact List.nil_subset _
    case noted => exact fun m none => by cases none
    case declared => exact fun key among => List.mem_append_left _ (List.mem_reverse.mpr among)

theorem Running.abreast (running : Running components p) : Abreast p.names.taken [] p p where
  pairing := by constructor <;> simp
  left := rfl
  right := rfl
  leftOpened := running.begun
  rightOpened := running.begun
  noted := List.forall₂_same.mpr fun m among => ⟨rfl, .before (running.noted m among)⟩

theorem Abreast.running {before given} (abreast : Abreast before given p q)
    (declared : Fields.keys components ⊆ before) : Running components p where
  begun := abreast.leftOpened
  noted := by
    have known : List.Forall₂ (fun one _ => one.2 ∈ p.names.taken ∧ True) p.recursive q.recursive := by
      rw [abreast.left]
      exact abreast.noted.imp fun _ _ noted => ⟨noted.2.among, trivial⟩
    exact ((List.forall₂_and_left _ _).mp known).1
  declared := by
    rw [abreast.left]
    exact List.subset_append_of_subset_right _ declared

theorem normalizeRunning (running : Running components p) (ready : Ready p name) {entries}
    (ok : (normalize components levels node name).run p = .ok (entries, q)) :
    Running components q := by
  have together := normalizeRemade running.declared levels node [] p p name name running.abreast ready
    ready (.before ready.given)
  unfold Together at together
  rw [ok] at together
  cases together with
  | ok ended =>
    obtain ⟨last, -, abreast, -⟩ := ended
    exact abreast.running running.declared

def below (components : Fields Json) : Nat → Option Maker
  | 0 => none
  | levels + 1 => some (normalize components levels)

theorem normalizeBelow (components : Fields Json) (levels : Nat) (node : Json) (name : String) :
    normalize components levels node name =
      entriesOf components (below components levels) node name := by
  cases levels <;> rfl

theorem belowRemade {before : List String} (declared : Fields.keys components ⊆ before)
    (levels : Nat) : DeeperRemade before (below components levels) := by
  cases levels with
  | zero => exact fun _ none => by cases none
  | succ levels =>
    intro make makes
    cases makes
    exact normalizeRemade declared levels

/-- What a flat node gives as the entry `name`, and in a slot at the same place of the build. Unless it
is both an object and an array, it gives the same up to the names that are given away from there on, or
a breach at the same reference. -/
structure Typings (components : Fields Json) (levels : Nat) (node : Json) (name base : String)
    (p : Progress) : Prop where
  alike : ¬ (Node.isObject node ∧ Node.isArray node) →
    Outcomes (fun one other => ∃ same : String → String → Prop, Relator.BiUnique same ∧
        (∀ name ∈ p.names.taken, same name name) ∧ ∃ entry inner, one.1 = entry :: inner ∧
          SameType same node entry other.1.1 ∧ List.Forall₂ (EntryAlike same) inner other.1.2)
      ((normalize components levels node name).run p)
      ((slot components (below components levels) node base).run p)
  parted : Node.isObject node ∧ Node.isArray node →
    (∀ entries q, (normalize components levels node name).run p = .ok (entries, q) →
      ∃ entry inner, entries = entry :: inner ∧ entry.kind = .object) ∧
    ∀ made q, (slot components (below components levels) node base).run p = .ok (made, q) →
      ∃ items, made.1 = .array items

theorem schemaTyped (flat : Flat node) (running : Running components p) (ready : Ready p name)
    (levels : Nat) (base : String) : Typings components levels node name base p := by
  obtain ⟨options, headed⟩ := entriesHeaded components (below components levels) node name
  constructor
  case alike =>
    intro apart
    have opened : Abreast p.names.taken [] { p with begun := name :: p.begun } p :=
      running.abreast.opening (List.cons_subset.mpr ⟨ready.given, running.begun⟩) running.begun
    have typed := flatLockstep running.declared (belowRemade running.declared levels) flat apart
      options name base [] _ _ (List.Subset.refl _) opened
    rw [normalizeBelow, headed, startReady ready, StateT.run_bind]
    unfold Together at typed
    generalize (entryOf components (below components levels) options node name).run _ = made,
      (slot components (below components levels) node base).run p = held at typed ⊢
    cases typed with
    | error => exact .error
    | ok ended =>
      obtain ⟨last, -, abreast, typed, inner⟩ := ended
      exact .ok ⟨_, abreast.pairing.unique, fun _ => .before, _, _, rfl, typed.sameType, inner⟩
  case parted =>
    intro both
    refine ⟨fun entries q ok => ?_, fun made q ok => (partedSlot flat both.2).ended ok⟩
    have head : Meets (fun _ => True) (do
          let (entry, entries) ← entryOf components (below components levels) options node name
          return entry :: entries) { p with begun := name :: p.begun }
        fun entries _ => ∃ entry inner, entries = entry :: inner ∧ entry.kind = .object :=
      (partedEntry flat both.1).bind fun _ _ kind => .pure ⟨_, _, rfl, kind⟩
    rw [normalizeBelow, headed, startReady ready] at ok
    exact head.ended ok

end

def dictionaryNode : Json :=
  .object [("type", .string "object"), ("additionalProperties",
    .object [("properties", .object [("x", .object [("type", .string "string")])])])]

theorem dictionaryTyped :
    Typings [("A", dictionaryNode)] 10 dictionaryNode "A" "BP" ⟨⟨["A"]⟩, [], []⟩ ∧
      (∃ entry inner q, (normalize [("A", dictionaryNode)] 10 dictionaryNode "A").run
        ⟨⟨["A"]⟩, [], []⟩ = .ok ([entry, inner], q) ∧
        entry.dataType = some (.map (.schema "AValue")) ∧ inner.name = "AValue") ∧
      ∃ inner q, (slot [("A", dictionaryNode)] (below [("A", dictionaryNode)] 10) dictionaryNode
        "BP").run ⟨⟨["A"]⟩, [], []⟩ = .ok ((.map (.schema "BPValue"), [inner]), q) ∧
        inner.name = "BPValue" := by
  refine ⟨schemaTyped ⟨rfl, rfl⟩ (startRunning rfl) ⟨by decide, by decide, by decide⟩ 10 "BP", ?_, ?_⟩
  · exact ⟨_, _, _, rfl, rfl, rfl⟩
  · exact ⟨_, _, rfl, rfl⟩

def bothNode : Json :=
  .object [("type", .string "object"),
    ("additionalProperties", .object [("type", .string "string")]),
    ("items", .object [("type", .string "integer")])]

theorem bothParted :
    ¬ ∀ components levels node name base p, Flat node → Running components p → Ready p name →
      ∀ entry inner q slot made r,
        (normalize components levels node name).run p = .ok (entry :: inner, q) →
        (Build.slot components (below components levels) node base).run p = .ok ((slot, made), r) →
        (entry.kind = .array ↔ ∃ items, slot = .array items) := by
  intro same
  have ready : Ready ⟨⟨["A"]⟩, [], []⟩ "A" := ⟨by decide, by decide, by decide⟩
  have array := (same [("A", bothNode)] 10 bothNode "A" "BP" _ ⟨rfl, rfl⟩ (startRunning rfl) ready
    _ _ _ _ _ _ rfl rfl).mpr ⟨_, rfl⟩
  cases array

end Build
end OpenApi.Schema
