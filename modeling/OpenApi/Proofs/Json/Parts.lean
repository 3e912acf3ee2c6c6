import OpenApi.Pointer
import OpenApi.Proofs.Fields
import OpenApi.Reference
/-! The parts of a value: the value itself, and the parts of its members and items. Induction over a
value goes through its members and items; a look-up along segments ends at a part. -/
namespace OpenApi

namespace Json

theorem ofParts {motive : Json → Prop}
    (null : motive .null) (bool : ∀ value, motive (.bool value))
    (number : ∀ value, motive (.number value)) (string : ∀ value, motive (.string value))
    (array : ∀ items, (∀ item ∈ items, motive item) → motive (.array items))
    (object : ∀ fields, (∀ m ∈ fields, motive m.2) → motive (.object fields)) (value : Json) :
    motive value := by
  refine @Json.rec motive (fun items => ∀ item ∈ items, motive item)
    (fun fields => ∀ m ∈ fields, motive m.2) (fun m => motive m.2)
    null bool number string array object ?_ ?_ ?_ ?_ ?_ value
  · simp
  · intro item items first rest
    exact List.forall_mem_cons.mpr ⟨first, rest⟩
  · simp
  · intro m fields first rest
    exact List.forall_mem_cons.mpr ⟨first, rest⟩
  · exact fun _ _ value => value

theorem ofMembers {motive : Json → Prop} (other : ∀ value, value.fields? = none → motive value)
    (object : ∀ fields, (∀ key items, (object fields).getItems? key = some items →
      ∀ item ∈ items, motive item) → motive (.object fields)) (value : Json) : motive value := by
  have both : motive value ∧ ∀ items, value = .array items → ∀ item ∈ items, motive item := by
    induction value using ofParts with
    | null | bool | number | string => exact ⟨other _ rfl, fun _ is => by cases is⟩
    | array items ih =>
      refine ⟨other _ rfl, fun items' is item member => ?_⟩
      cases is
      exact (ih item member).1
    | object fields ih =>
      refine ⟨object fields fun key items listed => ?_, fun _ is => by cases is⟩
      obtain ⟨child, given, is⟩ := Option.bind_eq_some_iff.mp listed
      cases child <;> simp only [items?, reduceCtorEq, Option.some.injEq] at is
      exact (ih _ (Fields.getMember given)).2 items (by rw [is])
  exact both.1

inductive Within (part : Json) : Json → Prop where
  | refl : Within part part
  | item {items item} (member : item ∈ items) (inside : Within part item) :
      Within part (.array items)
  | field {fields m} (member : m ∈ fields) (inside : Within part m.2) : Within part (.object fields)

theorem Within.trans {a b c : Json} (inner : Within a b) (outer : Within b c) : Within a c := by
  induction outer with
  | refl => exact inner
  | item member _ ih => exact .item member ih
  | field member _ ih => exact .field member ih

theorem getFieldsObject {key value fields} :
    getFields? key value = some fields ↔ value.get? key = some (.object fields) := by
  simp only [getFields?, Option.bind_eq_some_iff]
  constructor
  · rintro ⟨child, given, is⟩
    cases child <;> simp only [fields?, reduceCtorEq, Option.some.injEq] at is
    rw [given, is]
  · intro given
    exact ⟨_, given, rfl⟩

theorem withinGet {key value member} (found : Json.get? key value = some member) :
    Within member value := by
  cases value <;> simp only [get?, reduceCtorEq] at found
  exact .field (Fields.getMember found) .refl

theorem stepWithin {value segment child} (found : Pointer.step? value segment = some child) :
    Within child value := by
  cases value <;> simp only [Pointer.step?, reduceCtorEq] at found
  case array items =>
    obtain ⟨index, _, listed⟩ := Option.bind_eq_some_iff.mp found
    exact .item (List.mem_of_getElem? listed) .refl
  case object fields => exact .field (Fields.getMember found) .refl

theorem lookupWithin {root segments target}
    (found : Pointer.lookup? root segments = some target) : Within target root := by
  induction segments generalizing root with
  | nil =>
    cases Option.some.inj found
    exact .refl
  | cons segment rest ih =>
    obtain ⟨child, step, deeper⟩ := Option.bind_eq_some_iff.mp found
    exact (ih deeper).trans (stepWithin step)

end Json

namespace Reference
open Json

theorem ofObject {node reference} (is : of? node = some reference) :
    ∃ fields, node = .object fields := by
  cases node <;> simp only [of?, get?, Option.bind_none, reduceCtorEq] at is
  exact ⟨_, rfl⟩

theorem ofSome {fields reference} :
    of? (.object fields) = some reference ↔ Fields.get? key fields = some (.string reference) := by
  simp only [of?, get?, Option.bind_eq_some_iff]
  constructor
  · rintro ⟨mark, found, text⟩
    cases mark <;> simp only [string?, reduceCtorEq, Option.some.injEq] at text
    rw [found, text]
  · intro found
    exact ⟨_, found, rfl⟩

end Reference
end OpenApi
