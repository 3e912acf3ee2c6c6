import Mathlib.Data.List.Forall2
import OpenApi.Schema.Merge
/-! Images of schema nodes. A source tells for each name the node that its entry was made from. An
entry is the image of its node one level deep: what stands further down is named, and a name in a
slot is that of a declared schema to which the slot refers, or the name that has the node of the slot
as its source. -/
namespace OpenApi.Schema

structure Origin where
  node : Json
  levels : Nat

abbrev Source := String → Origin → Prop

structure Flat (node : Json) : Prop where
  plain : Reference.of? node = none
  loose : Node.needsEntry node = false

/-- `SlotImage components source levels node slot`: what `node` becomes in a slot. -/
inductive SlotImage (components : Fields Json) (source : Source) (levels : Nat) :
    Json → Slot → Prop where
  | reference {node reference name target} (is : Reference.of? node = some reference)
      (declares : declared? components reference = some (name, target)) :
      SlotImage components source levels node (.schema name)
  | structured {node name below} (plain : Reference.of? node = none)
      (needs : Node.needsEntry node = true) (deeper : 0 < levels)
      (origin : source name ⟨node, below⟩) :
      SlotImage components source levels node (.schema name)
  | bounded {node} (plain : Reference.of? node = none) (needs : Node.needsEntry node = true)
      (bound : levels = 0) :
      SlotImage components source levels node (if Node.isObject node then .object else .any)
  | array {node items slot} (flat : Flat node) (isArray : Node.isArray node = true)
      (given : node.get? "items" = some items)
      (image : SlotImage components source levels items slot) :
      SlotImage components source levels node (.array slot)
  | arrayOfAny {node} (flat : Flat node) (isArray : Node.isArray node = true)
      (absent : node.get? "items" = none) :
      SlotImage components source levels node (.array .any)
  | map {node values slot} (flat : Flat node) (noArray : Node.isArray node = false)
      (isObject : Node.isObject node = true)
      (given : Node.additionalProperties? node = some values)
      (image : SlotImage components source levels values slot) :
      SlotImage components source levels node (.map slot)
  | object {node} (flat : Flat node) (noArray : Node.isArray node = false)
      (isObject : Node.isObject node = true) (absent : Node.additionalProperties? node = none) :
      SlotImage components source levels node .object
  | plain {node} (flat : Flat node) (noArray : Node.isArray node = false)
      (noObject : Node.isObject node = false) :
      SlotImage components source levels node (Node.plainSlot node)

structure PropertyImage (components : Fields Json) (source : Source) (levels : Nat)
    (required : List String) (declared : String × Json) (property : String × Property) : Prop where
  name : property.1 = declared.1
  slot : SlotImage components source levels declared.2 property.2.slot
  required : property.2.required = required.contains declared.1
  format : property.2.format = declared.2.getText? "format"
  values : property.2.values = declared.2.getItems? "enum"
  fallback : property.2.fallback = declared.2.get? "default"
  nullable : property.2.nullable = Node.nullable? declared.2
  readOnly : property.2.readOnly = declared.2.getBool? "readOnly"
  writeOnly : property.2.writeOnly = declared.2.getBool? "writeOnly"
  deprecated : property.2.deprecated = declared.2.getBool? "deprecated"
  constraints : property.2.constraints = Node.constraints? declared.2
  description : property.2.description = declared.2.getText? "description"

/-! Entries are told by their members: what they hold, and what their node says of itself. -/

structure Unrestricted (entry : Entry) : Prop where
  format : entry.format = none
  values : entry.values = none
  fallback : entry.fallback = none
  constraints : entry.constraints = none

structure Restricted (node : Json) (entry : Entry) : Prop where
  format : entry.format = node.getText? "format"
  values : entry.values = node.getItems? "enum"
  fallback : entry.fallback = node.get? "default"
  constraints : entry.constraints = Node.constraints? node

structure Annotated (node : Json) (description : Option String) (entry : Entry) : Prop where
  description : entry.description = description
  sample : entry.sample = node.get? "example"
  nullable : entry.nullable = Node.nullable? node

structure HoldsValue (type : Slot) (entry : Entry) : Prop where
  kind : entry.kind = .primitive
  dataType : entry.dataType = some type
  properties : entry.properties = []
  required : entry.required = []
  items : entry.items = none
  composition : entry.composition = none

structure HoldsItems (slot : Slot) (entry : Entry) : Prop where
  kind : entry.kind = .array
  items : entry.items = some slot
  properties : entry.properties = []
  required : entry.required = []
  dataType : entry.dataType = none
  composition : entry.composition = none
  unrestricted : Unrestricted entry

structure HoldsOptions (keyword : Composition.Kind) (names : List String) (entry : Entry) : Prop where
  kind : entry.kind = .union
  composition : entry.composition = some ⟨keyword, names⟩
  properties : entry.properties = []
  required : entry.required = []
  dataType : entry.dataType = none
  items : entry.items = none
  unrestricted : Unrestricted entry

inductive ValuesImage (components : Fields Json) (source : Source) (levels : Nat) (node : Json)
    (declared : Fields Json) : Option Slot → Prop where
  | given {values slot} (bare : declared = [])
      (given : Node.additionalProperties? node = some values)
      (image : SlotImage components source levels values slot) :
      ValuesImage components source levels node declared (some (.map slot))
  | closed (closed : declared = [] → Node.additionalProperties? node = none) :
      ValuesImage components source levels node declared none

structure ObjectImage (components : Fields Json) (source : Source) (levels : Nat) (node : Json)
    (declared : Fields Json) (required : List String) (entry : Entry) : Prop where
  kind : entry.kind = .object
  properties :
    List.Forall₂ (PropertyImage components source levels required) declared entry.properties
  required : entry.required = required
  dataType : ValuesImage components source levels node declared entry.dataType
  items : entry.items = none
  composition : entry.composition = none
  unrestricted : Unrestricted entry

inductive ItemsImage (components : Fields Json) (source : Source) (levels : Nat) (node : Json) :
    Slot → Prop where
  | given {items slot} (given : node.get? "items" = some items)
      (image : SlotImage components source levels items slot) :
      ItemsImage components source levels node slot
  | absent (absent : node.get? "items" = none) : ItemsImage components source levels node .any

structure Single (node : Json) : Prop where
  plain : Reference.of? node = none
  alone : Node.composition? node = none

inductive FormImage (components : Fields Json) (source : Source) (levels : Nat) (name : String)
    (node : Json) (entry : Entry) : Prop where
  | reference {reference target schema} (is : Reference.of? node = some reference)
      (declares : declared? components reference = some (target, schema))
      (holds : HoldsValue (.schema target) entry) (unrestricted : Unrestricted entry)
      (unsaid : entry.description = none ∧ entry.sample = none ∧ entry.nullable = none)
  | merged {members merged} (plain : Reference.of? node = none)
      (composed : Node.composition? node = some (.allOf, members))
      (merges : mergeAll components name members = .ok merged)
      (object : ObjectImage components source levels node (merged.absorb node).properties
        (merged.absorb node).required entry)
      (annotated : Annotated node (merged.absorb node).description entry)
  | union {kind members names} (plain : Reference.of? node = none)
      (composed : Node.composition? node = some (kind, members)) (choice : kind ≠ .allOf)
      (options : List.Forall₂ (fun member option => source option ⟨member, levels - 1⟩)
        members names)
      (holds : HoldsOptions kind names entry)
      (annotated : Annotated node (node.getText? "description") entry)
  | object (single : Single node) (isObject : Node.isObject node = true)
      (object : ObjectImage components source levels node
        ((node.getFields? "properties").getD []) (Node.requiredNames node) entry)
      (annotated : Annotated node (node.getText? "description") entry)
  | array {slot} (single : Single node) (noObject : Node.isObject node = false)
      (isArray : Node.isArray node = true)
      (items : ItemsImage components source levels node slot) (holds : HoldsItems slot entry)
      (annotated : Annotated node (node.getText? "description") entry)
  | primitive (single : Single node) (noObject : Node.isObject node = false)
      (noArray : Node.isArray node = false) (holds : HoldsValue (Node.plainSlot node) entry)
      (restricted : Restricted node entry)
      (annotated : Annotated node (node.getText? "description") entry)

structure Image (components : Fields Json) (source : Source) (levels : Nat) (name : String)
    (node : Json) (entry : Entry) : Prop where
  form : FormImage components source levels name node entry
  name : entry.name = name

/-! The names in the slots of an entry, each with the node of the place where it stands. -/

inductive Held : Json → Slot → Json → String → Prop where
  | here {node name} : Held node (.schema name) node name
  | items {node items slot inner name} (given : node.get? "items" = some items)
      (inside : Held items slot inner name) : Held node (.array slot) inner name
  | values {node values slot inner name} (given : Node.additionalProperties? node = some values)
      (inside : Held values slot inner name) : Held node (.map slot) inner name

inductive Declares (components : Fields Json) (name : String) (node : Json) : Fields Json → Prop where
  | merged {members merged} (plain : Reference.of? node = none)
      (composed : Node.composition? node = some (.allOf, members))
      (merges : mergeAll components name members = .ok merged) :
      Declares components name node (merged.absorb node).properties
  | own (single : Single node) : Declares components name node ((node.getFields? "properties").getD [])

inductive Slotted (components : Fields Json) (name : String) (node : Json) (entry : Entry) :
    Json → Slot → Prop where
  | property {declared pair} (declares : Declares components name node declared)
      (paired : pair ∈ declared.zip entry.properties) :
      Slotted components name node entry pair.1.2 pair.2.2.slot
  | items {items slot} (given : node.get? "items" = some items) (holds : entry.items = some slot) :
      Slotted components name node entry items slot
  | values {values slot} (given : Node.additionalProperties? node = some values)
      (kind : entry.kind = .object) (holds : entry.dataType = some (.map slot)) :
      Slotted components name node entry values slot

def Denotes (components : Fields Json) (source : Source) (node : Json) (name : String) : Prop :=
  (∃ reference target, Reference.of? node = some reference ∧
    declared? components reference = some (name, target)) ∨
  ∃ levels, source name ⟨node, levels⟩

section
variable {components : Fields Json} {source : Source} {levels : Nat} {name : String} {node : Json}

theorem plainSlotUnnamed (node : Json) : (Node.plainSlot node).names = [] := by
  unfold Node.plainSlot
  cases (Node.typeKeyword? node).or (Node.guess? node) with
  | none => rfl
  | some keyword =>
    simp only [Option.map_some, Option.getD_some, Slot.ofKeyword]
    split <;> rfl

theorem plainNamesNone {slot : Slot} (is : slot = Node.plainSlot node) : name ∉ slot.names := by
  rw [is, plainSlotUnnamed]
  exact List.not_mem_nil

theorem namedSlotOrigin (image : SlotImage components source levels node (.schema name)) :
    Denotes components source node name := by
  generalize named : Slot.schema name = slot at image
  cases image with
  | reference is declares =>
    cases named
    exact .inl ⟨_, _, is, declares⟩
  | structured plain needs deeper origin =>
    cases named
    exact .inr ⟨_, origin⟩
  | bounded => split at named <;> cases named
  | plain => exact absurd (List.mem_singleton.mpr rfl) (plainNamesNone named)
  | array | arrayOfAny | map | object => cases named

theorem Held.among {slot inner} (held : Held node slot inner name) : name ∈ slot.names := by
  induction held with
  | here => exact List.mem_singleton.mpr rfl
  | items _ _ ih | values _ _ ih => exact ih

theorem namesHeld {slot} (image : SlotImage components source levels node slot) :
    ∀ name ∈ slot.names, ∃ inner, Held node slot inner name := by
  induction image with
  | reference | structured =>
    intro name among
    cases List.mem_singleton.mp among
    exact ⟨_, .here⟩
  | bounded => split <;> simp [Slot.names]
  | array _ _ given _ ih =>
    intro name among
    obtain ⟨inner, held⟩ := ih name among
    exact ⟨inner, .items given held⟩
  | map _ _ _ given _ ih =>
    intro name among
    obtain ⟨inner, held⟩ := ih name among
    exact ⟨inner, .values given held⟩
  | arrayOfAny | object => simp [Slot.names]
  | plain => simp [plainSlotUnnamed]

theorem heldDenotes {slot inner} (held : Held node slot inner name)
    (image : SlotImage components source levels node slot) :
    Denotes components source inner name := by
  -- The image and the place descend side by side, through items and values.
  induction held with
  | here => exact namedSlotOrigin image
  | @items node _ slot _ _ given inside ih =>
    generalize shaped : Slot.array slot = whole at image
    cases image with
    | array _ _ found image =>
      cases shaped
      cases given.symm.trans found
      exact ih image
    | arrayOfAny =>
      cases shaped
      cases inside
    | bounded => split at shaped <;> cases shaped
    | plain => exact (plainNamesNone shaped inside.among).elim
    | reference | structured | map | object => cases shaped
  | @values node _ slot _ _ given inside ih =>
    generalize shaped : Slot.map slot = whole at image
    cases image with
    | map _ _ _ found image =>
      cases shaped
      cases given.symm.trans found
      exact ih image
    | bounded => split at shaped <;> cases shaped
    | plain => exact (plainNamesNone shaped inside.among).elim
    | reference | structured | array | arrayOfAny | object => cases shaped

variable {entry : Entry}

section
variable (description : Option String) (sample : Option Json) (nullable : Option Bool)

theorem HoldsItems.noted {slot} (holds : HoldsItems slot entry) : HoldsItems slot
    { entry with description := description, sample := sample, nullable := nullable } :=
  have ⟨format, values, fallback, constraints⟩ := holds.unrestricted
  ⟨holds.kind, holds.items, holds.properties, holds.required, holds.dataType, holds.composition,
    ⟨format, values, fallback, constraints⟩⟩

theorem ObjectImage.noted {declared required}
    (image : ObjectImage components source levels node declared required entry) :
    ObjectImage components source levels node declared required
      { entry with description := description, sample := sample, nullable := nullable } :=
  have ⟨format, values, fallback, constraints⟩ := image.unrestricted
  ⟨image.kind, image.properties, image.required, image.dataType, image.items, image.composition,
    ⟨format, values, fallback, constraints⟩⟩

end

theorem pairedImage {R : String × Json → String × Property → Prop} {declared : Fields Json}
    {properties : Fields Property} (images : List.Forall₂ R declared properties) {pair}
    (paired : pair ∈ declared.zip properties) : R pair.1 pair.2 :=
  (List.forall₂_iff_zip.mp images).2 paired

theorem Image.slotted (image : Image components source levels name node entry) {part slot}
    (slotted : Slotted components name node entry part slot) :
    SlotImage components source levels part slot := by
  obtain ⟨form, -⟩ := image
  cases slotted with
  | property declares paired =>
    cases form with
    | reference _ _ holds | union _ _ _ _ holds | array _ _ _ _ holds | primitive _ _ _ holds =>
      rw [holds.properties, List.zip_nil_right] at paired
      cases paired
    | merged plain composed merges object =>
      cases declares with
      | merged _ again twice =>
        cases composed.symm.trans again
        cases merges.symm.trans twice
        exact (pairedImage object.properties paired).slot
      | own single => cases composed.symm.trans single.alone
    | object single _ object =>
      cases declares with
      | merged _ composed => cases composed.symm.trans single.alone
      | own => exact (pairedImage object.properties paired).slot
  | items given has =>
    cases form with
    | array _ _ _ items holds =>
      cases has.symm.trans holds.items
      cases items with
      | given found image =>
        cases given.symm.trans found
        exact image
      | absent absent => cases given.symm.trans absent
    | reference _ _ holds | union _ _ _ _ holds | primitive _ _ _ holds =>
      cases has.symm.trans holds.items
    | merged _ _ _ object | object _ _ object => cases has.symm.trans object.items
  | values given kind has =>
    have image {declared required}
        (object : ObjectImage components source levels node declared required entry) :
        SlotImage components source levels part slot := by
      have values := object.dataType
      rw [has] at values
      cases values with
      | given _ found image =>
        cases given.symm.trans found
        exact image
    cases form with
    | merged _ _ _ object | object _ _ object => exact image object
    | reference _ _ holds | union _ _ _ _ holds | array _ _ _ _ holds | primitive _ _ _ holds =>
      cases kind.symm.trans holds.kind

end

end OpenApi.Schema
