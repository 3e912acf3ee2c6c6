import OpenApi.Proofs.Json.Parts
/-! Keys within a value: where a key or a reference occurs, and values in which no object has two
members of one name. Every document that is read is of that sort. -/
namespace OpenApi.Json

def HasKey (key : String) (value : Json) : Prop :=
  ∃ fields, Within (.object fields) value ∧ key ∈ Fields.keys fields

section
variable {key : String}

theorem HasKey.outward {part whole : Json} (has : HasKey key part) (inside : Within part whole) :
    HasKey key whole := by
  obtain ⟨fields, within, among⟩ := has
  exact ⟨fields, within.trans inside, among⟩

theorem hasKeyObject {fields} :
    HasKey key (.object fields) ↔ key ∈ Fields.keys fields ∨ ∃ m ∈ fields, HasKey key m.2 := by
  constructor
  · rintro ⟨inner, within, among⟩
    cases within with
    | refl => exact .inl among
    | field member inside => exact .inr ⟨_, member, inner, inside, among⟩
  · rintro (among | ⟨m, member, has⟩)
    · exact ⟨fields, .refl, among⟩
    · exact has.outward (.field member .refl)

theorem hasKeyArray {items} : HasKey key (.array items) ↔ ∃ item ∈ items, HasKey key item := by
  constructor
  · rintro ⟨inner, within, among⟩
    cases within with
    | item member inside => exact ⟨_, member, inner, inside, among⟩
  · rintro ⟨item, member, has⟩
    exact has.outward (.item member .refl)

@[simp] theorem noKeyEmpty : ¬ HasKey key (.object []) := by simp [hasKeyObject, Fields.keys]

theorem hasKeyAppend {a b : Fields Json} :
    HasKey key (.object (a ++ b)) ↔ HasKey key (.object a) ∨ HasKey key (.object b) := by
  simp only [hasKeyObject, Fields.keys, List.map_append, List.mem_append, or_and_right, exists_or]
  exact or_or_or_comm

theorem hasKeyCons {m} {rest : Fields Json} :
    HasKey key (.object (m :: rest)) ↔ key = m.1 ∨ HasKey key m.2 ∨ HasKey key (.object rest) := by
  rw [← List.singleton_append, hasKeyAppend]
  simp [hasKeyObject, Fields.keys, or_assoc]

@[simp] theorem noKeyNull : ¬ HasKey key .null := by rintro ⟨_, ⟨⟩, _⟩

@[simp] theorem noKeyBool {value} : ¬ HasKey key (.bool value) := by rintro ⟨_, ⟨⟩, _⟩

@[simp] theorem noKeyNumber {value} : ¬ HasKey key (.number value) := by rintro ⟨_, ⟨⟩, _⟩

@[simp] theorem noKeyString {value} : ¬ HasKey key (.string value) := by rintro ⟨_, ⟨⟩, _⟩

theorem hasKeyOfReference {node reference} (is : Reference.of? node = some reference) :
    HasKey Reference.key node := by
  obtain ⟨fields, rfl⟩ := Reference.ofObject is
  exact ⟨fields, .refl, Fields.getSome.mp (by rw [Reference.ofSome.mp is]; rfl)⟩

end

mutual
def wellKeyed : Json → Bool
  | .object fields => (Fields.keys fields).Nodup && wellKeyedFields fields
  | .array items => wellKeyedItems items
  | _ => true
def wellKeyedItems : List Json → Bool
  | [] => true
  | item :: rest => wellKeyed item && wellKeyedItems rest
def wellKeyedFields : List (String × Json) → Bool
  | [] => true
  | (_, value) :: rest => wellKeyed value && wellKeyedFields rest
end

theorem wellKeyedArray {items} :
    wellKeyed (.array items) = true ↔ ∀ item ∈ items, wellKeyed item = true := by
  rw [wellKeyed]
  induction items with
  | nil => simp [wellKeyedItems]
  | cons item rest ih => simp [wellKeyedItems, ih]

theorem wellKeyedObject {fields} :
    wellKeyed (.object fields) = true ↔
      (Fields.keys fields).Nodup ∧ ∀ m ∈ fields, wellKeyed m.2 = true := by
  have members : wellKeyedFields fields = true ↔ ∀ m ∈ fields, wellKeyed m.2 = true := by
    induction fields with
    | nil => simp [wellKeyedFields]
    | cons m rest ih => simp [wellKeyedFields, ih]
  rw [wellKeyed, Bool.and_eq_true, decide_eq_true_iff, members]

theorem wellKeyedWithin {part whole : Json} (inside : Within part whole)
    (keyed : whole.wellKeyed = true) : part.wellKeyed = true := by
  induction inside with
  | refl => exact keyed
  | item member _ ih => exact ih (wellKeyedArray.mp keyed _ member)
  | field member _ ih => exact ih ((wellKeyedObject.mp keyed).2 _ member)

end OpenApi.Json

namespace OpenApi.Resolution

def HasReference (value : Json) : Prop :=
  ∃ node reference, Json.Within node value ∧ Reference.of? node = some reference

theorem HasReference.outward {part whole} (has : HasReference part)
    (inside : Json.Within part whole) : HasReference whole := by
  obtain ⟨node, reference, within, is⟩ := has
  exact ⟨node, reference, within.trans inside, is⟩

theorem HasReference.marked {value} (has : HasReference value) :
    value.HasKey Reference.key := by
  obtain ⟨_, _, within, is⟩ := has
  exact (Json.hasKeyOfReference is).outward within

end OpenApi.Resolution
