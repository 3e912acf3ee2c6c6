import OpenApi.Proofs.Json.Keys
import OpenApi.Proofs.Schema.Image
import OpenApi.Schema.Integrity
/-! Reference marks in the JSON of an entry. What an entry says itself has none; they come from the
names of its properties and from the values that it carries over from its node. -/
namespace OpenApi
open Json (HasKey)

namespace Json
variable {key name : String} (other : key ≠ name)
include other

theorem hasKeyMember {value : Option Json} :
    HasKey key (.object (member name value)) ↔ ∃ v, value = some v ∧ HasKey key v := by
  cases value with
  | none => simp [member]
  | some v => simp [member, hasKeyCons, other]

theorem hasKeyMapped {α : Type} {f : α → Json} {value : Option α} :
    HasKey key (.object (member name (value.map f))) ↔ ∃ a, value = some a ∧ HasKey key (f a) := by
  rw [hasKeyMember other]
  cases value <;> simp

theorem hasKeySingle {value} : HasKey key (.object [(name, value)]) ↔ HasKey key value := by
  simp [hasKeyCons, other]

end Json

namespace Schema

theorem findInItemsSome {items} :
    (findInItems? items).isSome ↔ ∃ item ∈ items, (findReference? item).isSome := by
  induction items with
  | nil => simp [findInItems?]
  | cons item rest ih => simp [findInItems?, ih]

theorem findInFieldsSome {fields} :
    (findInFields? fields).isSome ↔ ∃ m ∈ fields, (findReference? m.2).isSome := by
  induction fields with
  | nil => simp [findInFields?]
  | cons m rest ih => simp [findInFields?, ih]

theorem findReferenceSome {value : Json} :
    (findReference? value).isSome ↔ value.HasKey Reference.key := by
  induction value using Json.ofParts with
  | null | bool | number | string => simp [findReference?]
  | array items ih =>
    rw [findReference?, findInItemsSome, Json.hasKeyArray]
    exact exists_congr fun item => and_congr_right (ih item)
  | object fields ih =>
    rw [Json.hasKeyObject, ← Fields.getSome]
    unfold findReference?
    split
    · rename_i found
      simp [found]
    · rename_i found
      simp [found]
    · rename_i absent
      rw [findInFieldsSome, absent]
      simp only [Option.isSome_none, Bool.false_eq_true, false_or]
      exact exists_congr fun m => and_congr_right (ih m)

def Property.carried (p : Property) : List Json := p.values.getD [] ++ p.fallback.toList

def Entry.carried (e : Entry) : List Json :=
  e.values.getD [] ++ e.fallback.toList ++ e.sample.toList ++ e.properties.flatMap (·.2.carried)

open Json (hasKeyAppend hasKeyCons hasKeyMember hasKeyMapped hasKeySingle hasKeyArray)

theorem slotUnmarked (slot : Slot) : ¬ (Json.object slot.fields).HasKey Reference.key := by
  induction slot with
  | array items ih | map values ih => simpa [Slot.fields, hasKeyCons, Reference.key] using ih
  | schema | string | integer | number | boolean | object | any =>
    simp [Slot.fields, hasKeyCons, Reference.key]

theorem constraintsUnmarked (c : Constraints) : ¬ c.toJson.HasKey Reference.key := by
  unfold Constraints.toJson
  simp (disch := decide) [hasKeyAppend, hasKeyMember, Option.bind_eq_some_iff]

theorem compositionUnmarked (c : Composition) : ¬ c.toJson.HasKey Reference.key := by
  simp [Composition.toJson, hasKeyCons, hasKeyArray, Reference.key]

theorem valuesMarked (values : Option (List Json)) :
    (∃ list, values = some list ∧ (Json.array list).HasKey Reference.key) ↔
      ∃ value ∈ values.getD [], value.HasKey Reference.key := by
  cases values <;> simp [hasKeyArray]

theorem propertyMarked (p : Property) :
    p.toJson.HasKey Reference.key ↔ ∃ value ∈ p.carried, value.HasKey Reference.key := by
  unfold Property.toJson
  simp (disch := decide) only [hasKeyAppend, hasKeyMapped, hasKeySingle, slotUnmarked,
    constraintsUnmarked, valuesMarked]
  simp (disch := decide) only [hasKeyMember]
  simp [Property.carried, or_and_right, exists_or]

theorem propertiesMarked (properties : Fields Property) :
    (Json.object (if (properties.map fun p => (p.1, p.2.toJson)).isEmpty then []
      else [("properties", .object (properties.map fun p => (p.1, p.2.toJson)))])).HasKey
        Reference.key ↔
      Reference.key ∈ Fields.keys properties ∨
        ∃ value ∈ properties.flatMap (·.2.carried), value.HasKey Reference.key := by
  split
  · rename_i empty
    have bare : properties = [] := by simpa using empty
    simp [bare, Fields.keys]
  · have named : Fields.keys (properties.map fun p => (p.1, p.2.toJson)) =
        Fields.keys properties := by simp [Fields.keys]
    rw [hasKeySingle (by decide), Json.hasKeyObject, named]
    refine or_congr_right ⟨?_, ?_⟩
    · rintro ⟨_, among, has⟩
      obtain ⟨p, member, rfl⟩ := List.mem_map.mp among
      obtain ⟨value, carried, marked⟩ := (propertyMarked p.2).mp has
      exact ⟨value, List.mem_flatMap.mpr ⟨p, member, carried⟩, marked⟩
    · rintro ⟨value, among, marked⟩
      obtain ⟨p, member, carried⟩ := List.mem_flatMap.mp among
      refine ⟨_, List.mem_map.mpr ⟨p, member, rfl⟩, ?_⟩
      exact (propertyMarked p.2).mpr ⟨value, carried, marked⟩

theorem requiredUnmarked (required : List String) :
    ¬ (Json.object (if required.isEmpty then []
      else [("required", .array (required.map .string))])).HasKey Reference.key := by
  split
  · exact Json.noKeyEmpty
  · rw [hasKeySingle (by decide)]
    simp [hasKeyArray]

theorem entryMarked (e : Entry) :
    e.toJson.HasKey Reference.key ↔ Reference.key ∈ Fields.keys e.properties ∨
      ∃ value ∈ e.carried, value.HasKey Reference.key := by
  have named : ¬ (Json.object [("name", .string e.name), ("kind", .string e.kind.word)]).HasKey
      Reference.key := by simp [hasKeyCons, Reference.key]
  unfold Entry.toJson Slot.toJson
  simp (disch := decide) only [hasKeyAppend, hasKeyMapped, named, slotUnmarked, valuesMarked,
    propertiesMarked, requiredUnmarked, compositionUnmarked, constraintsUnmarked]
  simp (disch := decide) only [hasKeyMember]
  simp only [Entry.carried, List.mem_append, Option.mem_toList, or_and_right, exists_or,
    Json.noKeyBool, Json.noKeyString, and_false, exists_false, or_false, false_or]
  grind

end Schema
end OpenApi
