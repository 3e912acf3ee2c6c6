import OpenApi.Proofs.Schema.Merging
import OpenApi.Proofs.Schema.Slots
/-! Entries are the images of their nodes: those of objects and arrays by their slots, those of
unions by the entries of their members. A level of structures rests on the one below it. -/
namespace OpenApi.Schema.Build

section
variable {components : Fields Json} {document : Json} {levels : Nat} {deeper : Option Maker}
  {p : Progress}

theorem propertiesLeaves (deeps : Deeper components document levels deeper) {owner required}
    {declared : Fields Json} (inside : Inside document declared) :
    Leaves components document (properties components deeper owner required declared) p
      fun source given =>
        List.Forall₂ (PropertyImage components source levels required) declared given := by
  induction declared generalizing p with
  | nil => exact Leaves.pure fun _ _ => .nil
  | cons field rest ih =>
    obtain ⟨name, node⟩ := field
    have ⟨first, later⟩ := List.forall_mem_cons.mp inside
    unfold properties
    refine Leaves.both (slotLeaves deeps first (propertyName owner name)) (fun q => ih later)
      (f := fun slot others =>
        (name, Node.property node slot (required.contains name)) :: others) ?_
    refine fun source slot others image images => .cons ?_ images
    exact ⟨rfl, image, rfl, rfl, rfl, rfl, rfl, rfl, rfl, rfl, rfl, rfl⟩

theorem objectLeaves (deeps : Deeper components document levels deeper) {node : Json}
    {name required} {declared : Fields Json} (inside : node.Within document)
    (parts : Inside document declared) :
    Leaves components document (objectEntry components deeper node name declared required) p
      fun source entry => entry.name = name ∧
        ObjectImage components source levels node declared required entry := by
  unfold objectEntry
  split
  · rename_i values given
    have within := (Json.withinGet (Node.additionalGiven given)).trans inside
    refine (slotLeaves deeps within (name ++ "Value")).map
      (f := fun values => { Entry.blank name .object with
        required := required, dataType := some (Slot.map values) }) ?_
    refine fun source slot image => ⟨rfl, ?_⟩
    exact ⟨rfl, .nil, rfl, .given rfl given image, rfl, rfl, ⟨rfl, rfl, rfl, rfl⟩⟩
  · rename_i closed
    refine (propertiesLeaves deeps parts).map
      (f := fun properties => { Entry.blank name .object with
        required := required, properties := properties }) ?_
    refine fun source properties images => ⟨rfl, ?_⟩
    refine ⟨rfl, images, rfl, .closed fun bare => ?_, rfl, rfl, ⟨rfl, rfl, rfl, rfl⟩⟩
    exact Option.eq_none_iff_forall_ne_some.mpr fun values => closed values bare

theorem arrayLeaves (deeps : Deeper components document levels deeper) {node : Json} {name}
    (inside : node.Within document) :
    Leaves components document (arrayEntry components deeper node name) p fun source entry =>
      entry.name = name ∧ ∃ slot, ItemsImage components source levels node slot ∧
        HoldsItems slot entry := by
  unfold arrayEntry
  split
  · rename_i items given
    have within := (Json.withinGet given).trans inside
    refine (slotLeaves deeps within (name ++ "Item")).map
      (f := fun slot => { Entry.blank name .array with items := some slot }) ?_
    refine fun source slot image => ⟨rfl, slot, .given given image, ?_⟩
    exact ⟨rfl, rfl, rfl, rfl, rfl, rfl, ⟨rfl, rfl, rfl, rfl⟩⟩
  · rename_i absent
    refine Leaves.pure fun _ _ => ⟨rfl, .any, .absent absent, ?_⟩
    exact ⟨rfl, rfl, rfl, rfl, rfl, rfl, ⟨rfl, rfl, rfl, rfl⟩⟩

def Offers (components : Fields Json) (document : Json) (levels : Nat) (node : Json)
    (options : Composition.Kind → Build (List String × List Entry)) : Prop :=
  ∀ {kind members p}, Node.composition? node = some (kind, members) →
    Leaves components document (options kind) p fun source names =>
      List.Forall₂ (fun member name => source name ⟨member, levels - 1⟩) members names

theorem entryLeaves (declared : Inside document components)
    (deeps : Deeper components document levels deeper) {node : Json} {name options}
    (inside : node.Within document) (offers : Offers components document levels node options) :
    Leaves components document (entryOf components deeper options node name) p fun source entry =>
      Image components source levels name node entry := by
  unfold entryOf
  split
  · rename_i is
    refine Meets.bind (namedSlotMeets fun _ => trivial) fun slot q ended => ?_
    obtain ⟨rfl, target, schema, declares, rfl⟩ := ended
    refine Leaves.pure fun _ _ => ⟨.reference is declares ?_ ?_ ⟨rfl, rfl, rfl⟩, rfl⟩
    · exact ⟨rfl, rfl, rfl, rfl, rfl, rfl⟩
    · exact ⟨rfl, rfl, rfl, rfl⟩
  · rename_i members plain composed
    refine Meets.bind (.lift fun _ _ => trivial) fun merged q ended => ?_
    obtain ⟨rfl, merges⟩ := ended
    have gathered := insideMerge declared (compositionWithin inside composed) merges
    refine (objectLeaves deeps inside (insideAbsorb gathered inside)).map (f := fun entry =>
      { Node.annotate node entry with description := (merged.absorb node).description }) ?_
    rintro source entry ⟨named, image⟩
    exact ⟨.merged plain composed merges (image.noted _ _ _) ⟨rfl, rfl, rfl⟩, named⟩
  · rename_i kind members choice plain composed
    refine (offers composed).map (f := fun names => Node.annotate node
      { Entry.blank name .union with composition := some ⟨kind, names⟩ }) ?_
    refine fun source names options => ⟨.union plain composed choice options ?_ ⟨rfl, rfl, rfl⟩, rfl⟩
    exact ⟨rfl, rfl, rfl, rfl, rfl, rfl, ⟨rfl, rfl, rfl, rfl⟩⟩
  · rename_i plain alone
    have single : Single node := ⟨plain, alone⟩
    split
    · rename_i isObject
      refine (objectLeaves deeps inside (insideFields inside)).map (f := Node.annotate node) ?_
      rintro source entry ⟨named, image⟩
      exact ⟨.object single isObject (image.noted _ _ _) ⟨rfl, rfl, rfl⟩, named⟩
    · rename_i noObject
      split
      · rename_i isArray
        refine (arrayLeaves deeps inside).map (f := Node.annotate node) ?_
        rintro source entry ⟨named, slot, items, holds⟩
        exact ⟨.array single (Bool.eq_false_iff.mpr noObject) isArray items (holds.noted _ _ _)
          ⟨rfl, rfl, rfl⟩, named⟩
      · rename_i noArray
        refine Leaves.pure fun _ _ => ⟨.primitive single (Bool.eq_false_iff.mpr noObject)
          (Bool.eq_false_iff.mpr noArray) ?_ ?_ ⟨rfl, rfl, rfl⟩, rfl⟩
        · exact ⟨rfl, rfl, rfl, rfl, rfl, rfl⟩
        · exact ⟨rfl, rfl, rfl, rfl⟩

theorem entryMakes {m : Build (Entry × List Entry)} {node : Json} {name}
    (inside : node.Within document) (entry : ∀ q, Leaves components document m q
      fun source entry => Image components source levels name node entry) :
    Makes components document levels
      (do start name; let (entry, entries) ← m; return entry :: entries) node name p := by
  refine Meets.bind (startMeets (fun _ => trivial) fun _ => trivial) fun _ q started => ?_
  obtain ⟨-, -, rfl⟩ := started
  refine Meets.bind (entry _) fun made r ended => ?_
  obtain ⟨origins, traced⟩ := ended
  refine .pure ⟨origins, List.forall_mem_cons.mpr ⟨inside, traced.inside⟩, ?_⟩
  intro source holds remembers
  have ⟨own, others⟩ := List.forall_mem_cons.mp holds
  obtain ⟨after, images, image⟩ := traced.holds source others remembers
  exact ⟨after, .cons image images, own⟩

theorem optionsAtItems (keyword owner : String) (fields : Fields Json) :
    optionsAt components deeper keyword owner fields =
      match (Json.object fields).getItems? keyword with
      | some members => optionsFrom components deeper owner 1 members
      | none => return ([], []) := by
  induction fields with
  | nil => rfl
  | cons field rest ih =>
    simp only [Json.getItems?, Json.get?] at ih ⊢
    unfold optionsAt Fields.get?
    split
    · cases field.2 <;> rfl
    · exact ih

def optionMaker (components : Fields Json) : Option Maker → Maker
  | some make => make
  | none => entriesOf components none

theorem optionsMember (owner : String) (index : Nat) (member : Json) (rest : List Json) :
    optionsFrom components deeper owner index (member :: rest) = do
      let name ← allocate (owner ++ "Option" ++ toString index)
      let entries ← optionMaker components deeper member name
      let (names, others) ← optionsFrom components deeper owner (index + 1) rest
      return (name :: names, entries ++ others) := by
  cases deeper <;> rfl

theorem optionsLeaves {owner : String} {index members}
    (each : ∀ member ∈ members, ∀ name p, Makes components document (levels - 1)
      (optionMaker components deeper member name) member name p) :
    Leaves components document (optionsFrom components deeper owner index members) p
      fun source names =>
        List.Forall₂ (fun member name => source name ⟨member, levels - 1⟩) members names := by
  induction members generalizing index p with
  | nil => exact Leaves.pure fun _ _ => .nil
  | cons member rest ih =>
    have ⟨one, others⟩ := List.forall_mem_cons.mp each
    rw [optionsMember]
    refine Meets.bind (allocateMeets _) fun name q allocated => ?_
    obtain ⟨-, rfl⟩ := allocated
    refine Meets.bind (one name _) fun entries r made => ?_
    obtain ⟨inner, traced⟩ := made
    refine Meets.bind (ih others) fun made s ended => ?_
    obtain ⟨origins, more⟩ := ended
    exact .pure ⟨_, traced.both more fun _ own names => .cons own names⟩

theorem entriesMakes (declared : Inside document components)
    (deeps : Deeper components document levels deeper) {node : Json} (inside : node.Within document)
    (name : String) :
    Makes components document levels (entriesOf components deeper node name) node name p := by
  induction node using Json.ofMembers generalizing name p with
  | other node noObject =>
    cases node with
    | object => cases noObject
    | null | bool | number | string | array =>
      exact entryMakes inside fun q =>
        entryLeaves declared deeps inside fun composed => by cases composed
  | object fields ih =>
    unfold entriesOf
    refine entryMakes inside fun q => entryLeaves declared deeps inside fun composed => ?_
    rw [optionsAtItems, Node.compositionItems composed]
    refine optionsLeaves fun member among name p => ?_
    have within := compositionWithin inside composed member among
    -- At the last level the members are made there too, and only the size of the node decreases.
    cases deeps with
    | bound => exact ih _ _ (Node.compositionItems composed) member among within name
    | level makes => exact makes member name p within

theorem normalizeMakes (declared : Inside document components) (levels : Nat) {node : Json}
    (inside : node.Within document) (name : String) :
    Makes components document levels (normalize components levels node name) node name p := by
  induction levels generalizing node name p with
  | zero => exact entriesMakes declared .bound inside name
  | succ levels ih =>
    have deeps : Deeper components document (levels + 1) (some (normalize components levels)) :=
      .level fun _ name p within => ih within name
    exact entriesMakes declared deeps inside name

end
end OpenApi.Schema.Build
