import OpenApi.Proofs.Json.Parts
import OpenApi.Schema.Extract
/-! Nodes that a build works on. Keywords, merges, declared schemas and bodies all yield parts of
the document. -/
namespace OpenApi

namespace Json

theorem withinFields {key value fields} (found : getFields? key value = some fields) {m}
    (member : m ∈ fields) : Within m.2 value :=
  (Within.field member .refl).trans (withinGet (getFieldsObject.mp found))

theorem withinItems {key value items} (found : getItems? key value = some items) {item}
    (member : item ∈ items) : Within item value := by
  obtain ⟨child, given, is⟩ := Option.bind_eq_some_iff.mp found
  cases child <;> simp only [items?, reduceCtorEq, Option.some.injEq] at is
  subst is
  exact (Within.item member .refl).trans (withinGet given)

end Json

namespace Schema

theorem exceptBind {ε α β : Type} {x : Except ε α} {f : α → Except ε β} {b}
    (ok : x >>= f = .ok b) : ∃ a, x = .ok a ∧ f a = .ok b := by
  cases x with
  | error e => cases ok
  | ok a => exact ⟨a, rfl, ok⟩

theorem evaluated {ε α β : Type} {x : Except ε α} {f : α → β} {b}
    (found : x.toOption.map f = some b) : ∃ a, x = .ok a ∧ f a = b := by
  cases x with
  | error e => cases found
  | ok a => exact ⟨a, rfl, Option.some.inj found⟩

namespace Node

theorem compositionItems {node kind members} (composed : composition? node = some (kind, members)) :
    node.getItems? kind.word = some members := by
  obtain ⟨⟨keyword, other⟩, listed, found⟩ := List.exists_of_findSome?_eq_some composed
  obtain ⟨items, given, same⟩ := Option.map_eq_some_iff.mp found
  cases same
  have keyword : keyword = kind.word := by
    simp only [compositionKeywords, List.mem_cons, Prod.mk.injEq, List.not_mem_nil,
      or_false] at listed
    obtain ⟨rfl, rfl⟩ | ⟨rfl, rfl⟩ | ⟨rfl, rfl⟩ := listed <;> rfl
  rw [← keyword]
  exact (Option.filter_eq_some_iff.mp given).1

theorem compositionSome {node kind members} (composed : composition? node = some (kind, members)) :
    ∃ member rest, members = member :: rest := by
  obtain ⟨⟨keyword, other⟩, -, found⟩ := List.exists_of_findSome?_eq_some composed
  obtain ⟨items, given, same⟩ := Option.map_eq_some_iff.mp found
  cases same
  have some := (Option.filter_eq_some_iff.mp given).2
  exact List.exists_cons_of_ne_nil (by simpa using some)

theorem additionalGiven {node values} (given : additionalProperties? node = some values) :
    node.get? "additionalProperties" = some values := by
  obtain ⟨fields, found, rfl⟩ := Option.map_eq_some_iff.mp given
  exact Json.getFieldsObject.mp found

end Node

section
variable {document : Json}

def Inside (document : Json) (fields : Fields Json) : Prop := ∀ m ∈ fields, m.2.Within document

theorem insideFields {node : Json} {key} (inside : node.Within document) :
    Inside document ((node.getFields? key).getD []) := by
  intro m member
  cases found : node.getFields? key with
  | none => simp [found] at member
  | some fields => exact (Json.withinFields found (by simpa [found] using member)).trans inside

theorem absorbMembers {holds : String × Json → Prop} {merged : Merged} {node}
    (gathered : ∀ m ∈ merged.properties, holds m)
    (own : ∀ m ∈ (node.getFields? "properties").getD [], holds m) :
    ∀ m ∈ (merged.absorb node).properties, holds m := by
  simp only [Merged.absorb]
  generalize (node.getFields? "properties").getD [] = fields at own
  generalize merged.properties = properties at gathered
  induction fields generalizing properties with
  | nil => exact gathered
  | cons field rest ih =>
    have ⟨first, later⟩ := List.forall_mem_cons.mp own
    refine ih later _ fun m member => ?_
    obtain rfl | old := Fields.setMember member
    · exact first
    · exact gathered m old

theorem insideAbsorb {merged : Merged} {node} (gathered : Inside document merged.properties)
    (inside : node.Within document) : Inside document (merged.absorb node).properties :=
  absorbMembers gathered (insideFields inside)

theorem declaredMember {components : Fields Json} {reference name target}
    (declares : declared? components reference = some (name, target)) :
    Fields.get? name components = some target := by
  obtain ⟨_, _, found⟩ := Option.bind_eq_some_iff.mp declares
  obtain ⟨_, get, same⟩ := Option.bind_eq_some_iff.mp found
  cases same
  exact get

theorem compositionWithin {node : Json} (inside : node.Within document) {kind members}
    (composed : Node.composition? node = some (kind, members)) :
    ∀ member ∈ members, member.Within document :=
  fun _ among => (Json.withinItems (Node.compositionItems composed) among).trans inside

theorem componentsWithin {fields : Fields Json} (found : components? document = some fields) :
    (Json.object fields).Within document := by
  obtain ⟨schemas, given, is⟩ := Option.bind_eq_some_iff.mp found
  obtain ⟨components, outer, inner⟩ := Option.bind_eq_some_iff.mp given
  have listed := Json.getFieldsObject.mp (Option.bind_eq_some_iff.mpr ⟨schemas, inner, is⟩)
  exact (Json.withinGet listed).trans (Json.withinGet outer)

theorem insideComponents (document : Json) : Inside document ((components? document).getD []) := by
  intro m member
  cases found : components? document with
  | none => simp [found] at member
  | some fields =>
    rw [found] at member
    exact (Json.Within.field member .refl).trans (componentsWithin found)

theorem insideMedia {body schema : Json} (found : Body.schema? body = some schema) :
    schema.Within body := by
  obtain ⟨media, given, chosen⟩ := Option.bind_eq_some_iff.mp found
  obtain preferred | ⟨-, other⟩ := Option.or_eq_some_iff.mp chosen
  · obtain ⟨medium, get, inner⟩ := Option.bind_eq_some_iff.mp preferred
    exact (Json.withinGet inner).trans (Json.withinFields given (Fields.getMember get))
  · obtain ⟨medium, listed, inner⟩ := List.exists_of_findSome?_eq_some other
    exact (Json.withinGet inner).trans (Json.withinFields given listed)

theorem insideSlots {operation : Json} {slot} (listed : slot ∈ Body.slots operation) :
    slot.2.Within operation := by
  obtain requested | responded := List.mem_append.mp listed
  · obtain ⟨body, given, rfl⟩ := List.mem_map.mp requested
    exact Json.withinGet (Option.mem_toList.mp given)
  · obtain ⟨response, among, rfl⟩ := List.mem_map.mp responded
    exact insideFields .refl response among

theorem insideBodies {components : Fields Json} {body}
    (listed : body ∈ Body.collect components document) : body.schema.Within document := by
  obtain ⟨⟨path, item⟩, among, operations⟩ := List.mem_flatMap.mp listed
  obtain ⟨method, _, bodies⟩ := List.mem_flatMap.mp operations
  cases given : item.get? method with
  | none => simp [given] at bodies
  | some operation =>
    rw [given] at bodies
    obtain ⟨⟨slot, holder⟩, slots, made⟩ := List.mem_filterMap.mp bodies
    obtain ⟨schema, chosen, rfl⟩ := Option.map_eq_some_iff.mp made
    have inBody := insideMedia (Option.filter_eq_some_iff.mp chosen).1
    have inOperation := inBody.trans (insideSlots slots)
    exact (inOperation.trans (Json.withinGet given)).trans (insideFields .refl _ among)

end
end Schema
end OpenApi
