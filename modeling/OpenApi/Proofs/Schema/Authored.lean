import Mathlib.Data.List.Basic
import OpenApi.Proofs.Schema.Resembles
import OpenApi.Proofs.Schema.Sites
import OpenApi.Schema.Extract
/-! Bodies written as references to declared schemas. After a resolution such a body stands there in
full, but it is still known by its declared schema, whichever of the two was cut short. -/
namespace OpenApi.Schema
open Resolution

section
variable {root : Json} {base : String} {chain location : List String}

theorem outcomeGet {fields : Fields Json} {key : String}
    (plain : Reference.of? (.object fields) = none) :
    (outcome root base chain location (.object fields)).get? key =
      ((Json.object fields).get? key).map (outcome root base chain (location ++ [key])) := by
  rw [outcomeObject plain]
  exact Fields.getMap _ key fields

theorem outcomeStands {whole part value : Json} {inner : List String}
    (keyed : whole.wellKeyed = true) (met : Met whole inner part)
    (stands : Pointer.Stands (outcome root base chain location whole) inner value) :
    value = outcome root base chain (location ++ inner) part := by
  induction met generalizing location with
  | @here whole =>
    rw [List.append_nil]
    generalize outcome root base chain location whole = result at stands ⊢
    cases stands
    rfl
  | @item items index item inner part member _ ih =>
    rw [outcomeArray] at stands
    cases stands with
    | item position listed inside =>
      rename_i expanded
      cases Pointer.positionUnique (.inl rfl) position
      have same : expanded = outcome root base chain (location ++ [toString index]) item := by
        simpa [member] using listed.symm
      have deeper := ih (Json.wellKeyedArray.mp keyed _ (List.mem_of_getElem? member)) (same ▸ inside)
      simpa using deeper
  | @field fields m inner part plain member _ ih =>
    obtain ⟨distinct, members⟩ := Json.wellKeyedObject.mp keyed
    rw [outcomeObject plain] at stands
    cases stands with
    | field listed inside =>
      obtain ⟨other, among, same⟩ := List.mem_map.mp listed
      obtain ⟨key, value⟩ := other
      cases same
      have own := Fields.getOfMember distinct member
      have found := Fields.getOfMember distinct among
      cases Option.some.inj (own.symm.trans found)
      have deeper := ih (members _ member) inside
      simpa using deeper

end

structure Ordinary (document : Json) (components schemas : Fields Json) : Prop where
  outer : document.get? "components" = some (.object components)
  plain : Reference.of? (.object components) = none
  inner : Fields.get? "schemas" components = some (.object schemas)
  bare : Reference.of? (.object schemas) = none

theorem outcomeComponents {root : Json} {base : String} {fields components schemas : Fields Json}
    (plain : Reference.of? (.object fields) = none)
    (ordinary : Ordinary (.object fields) components schemas) :
    components? (outcome root base [] [] (.object fields)) = some (schemas.map fun m =>
      (m.1, outcome root base [] ["components", "schemas", m.1] m.2)) := by
  have outer : (outcome root base [] [] (.object fields)).get? "components" =
      some (outcome root base [] ["components"] (.object components)) := by
    rw [outcomeGet plain, ordinary.outer]
    rfl
  have inner : (outcome root base [] ["components"] (.object components)).get? "schemas" =
      some (outcome root base [] ["components", "schemas"] (.object schemas)) := by
    rw [outcomeGet ordinary.plain, Json.get?, ordinary.inner]
    rfl
  unfold components?
  rw [outer, Option.bind_some, inner, Option.bind_some, outcomeObject ordinary.bare]
  rfl

theorem knownBody {declared : Fields Json} {schema : Json}
    (known : isReference schema = true ∨ ∃ m ∈ declared, resembles schema m.2 = true) :
    Body.isAnonymous declared schema = false := by
  unfold Body.isAnonymous
  rcases known with left | ⟨m, member, alike⟩
  · simp [left]
  · have some : (declared.any fun d => resembles schema d.2) = true :=
      List.any_eq_true.mpr ⟨m, member, alike⟩
    simp [some]

theorem metPlain {fields : Fields Json} {key : String} {rest : List String} {part : Json}
    (met : Met (.object fields) (key :: rest) part) : Reference.of? (.object fields) = none := by
  cases met with
  | field plain => exact plain

section
variable {fields components schemas : Fields Json} {base name : String} {schema : Json}

theorem declaredMet (plain : Reference.of? (.object fields) = none)
    (ordinary : Ordinary (.object fields) components schemas)
    (declared : Fields.get? name schemas = some schema) :
    Met (.object fields) ["components", "schemas", name] schema := by
  have inSchemas : Met (.object schemas) [name] schema := metMember ordinary.bare declared .here
  have inComponents : Met (.object components) ["schemas", name] schema :=
    metMember ordinary.plain ordinary.inner inSchemas
  exact metMember plain ordinary.outer inComponents

theorem declaredFound (ordinary : Ordinary (.object fields) components schemas)
    (declared : Fields.get? name schemas = some schema) :
    Pointer.lookup? (.object fields) ["components", "schemas", name] = some schema := by
  have outer : Fields.get? "components" fields = some (.object components) := ordinary.outer
  simp [Pointer.lookup?, Pointer.step?, outer, ordinary.inner, declared]

theorem authoredKnown {location : List String} {node : Json} {reference pointer : String}
    (keyed : (Json.object fields).wellKeyed = true) (plain : Reference.of? (.object fields) = none)
    (ordinary : Ordinary (.object fields) components schemas)
    (declared : Fields.get? name schemas = some schema)
    (met : Met (.object fields) location node) (is : Reference.of? node = some reference)
    (here : Reference.localPointer? reference base = some pointer)
    (leads : Pointer.segments pointer = ["components", "schemas", name]) :
    isReference (outcome (.object fields) base [] location node) = true ∨
      resembles (outcome (.object fields) base [] location node)
        (outcome (.object fields) base [] ["components", "schemas", name] schema) = true := by
  have found : Pointer.lookup? (.object fields) (Pointer.segments pointer) = some schema :=
    leads ▸ declaredFound ordinary declared
  have enters : Enters (.object fields) base [] reference pointer schema :=
    ⟨here, List.not_mem_nil, found⟩
  have visit : Visits (.object fields) base [] location node := .root met
  rcases expansionReference visit is enters with left | expanded
  · exact .inl left
  · have target := visit.target is enters
    have component : Visits (.object fields) base [] ["components", "schemas", name] schema :=
      .root (declaredMet plain ordinary declared)
    rw [expanded]
    exact .inr (expansionsResemble keyed target component)

theorem authoredBodyUnlisted {place : Body.Place} {node : Json} {reference pointer : String}
    (keyed : (Json.object fields).wellKeyed = true)
    (ordinary : Ordinary (.object fields) components schemas)
    (declared : Fields.get? name schemas = some schema)
    (met : Met (.object fields) place.location node) (is : Reference.of? node = some reference)
    (here : Reference.localPointer? reference base = some pointer)
    (leads : Pointer.segments pointer = ["components", "schemas", name]) :
    let document := (resolve (.object fields) base).document
    let known := (components? document).getD []
    Body.collect known document =
      ((Body.sites document).filter (·.place ≠ place)).filterMap (Body.Site.body? known) := by
  intro document known
  have plain : Reference.of? (.object fields) = none :=
    metPlain (show Met (.object fields) ("paths" :: _) node from met)
  have member : (name, outcome (.object fields) base [] ["components", "schemas", name] schema) ∈
      known := by
    simp only [known, document]
    rw [documentOutcome, outcomeComponents plain ordinary]
    exact List.mem_map.mpr ⟨(name, schema), Fields.getMember declared, rfl⟩
  have unlisted : ∀ site ∈ Body.sites document, site.place = place → site.body? known = none := by
    intro site listed at_
    have stands : Pointer.Stands document place.location site.schema :=
      at_ ▸ Body.siteStands listed
    have expansion : site.schema = outcome (.object fields) base [] ([] ++ place.location) node :=
      outcomeStands keyed met stands
    rw [List.nil_append] at expansion
    have hidden := authoredKnown keyed plain ordinary declared met is here leads
    have anonymous : Body.isAnonymous known site.schema = false := by
      rw [expansion]
      exact knownBody (hidden.imp_right fun alike => ⟨_, member, alike⟩)
    simp [Body.Site.body?, anonymous]
  rw [Body.collectSites, List.filterMap_filter]
  refine List.filterMap_congr fun site listed => ?_
  by_cases other : site.place = place
  · simp [other, unlisted site listed other]
  · simp [other]

end

def chainNode : Json :=
  .object [("properties", .object [
    ("next", .object [("$ref", .string "#/components/schemas/Node")])])]

def chainFields : Fields Json :=
  [("paths", .object [("/nodes", .object [("post", .object [
      ("requestBody", .object [("content", .object [("application/json", .object [
        ("schema", .object [("$ref", .string "#/components/schemas/Node")])])])]),
      ("responses", .object [("200", .object [("content", .object [("application/json", .object [
        ("schema", .object [("items", .object [
          ("$ref", .string "#/components/schemas/Node")])])])])])])])])]),
    ("components", .object [("schemas", .object [("Node", chainNode)])])]

def chainBody : Body.Place := ⟨"/nodes", "post", .request, "application/json"⟩

theorem chainBodyMet : Met (.object chainFields) chainBody.location
    (.object [("$ref", .string "#/components/schemas/Node")]) := by
  refine metMember rfl rfl (metMember rfl rfl (metMember rfl rfl ?_))
  exact metMember rfl rfl (metMember rfl rfl (metMember rfl rfl (metMember rfl rfl .here)))

theorem chainBodyUnlisted :
    let document := (resolve (.object chainFields) "openapi.yaml").document
    let known := (components? document).getD []
    (Json.object chainFields).wellKeyed = true ∧
      (resolve (.object chainFields) "openapi.yaml").isClean = false ∧
      (Body.sites document).map Body.Site.place =
        [chainBody, ⟨"/nodes", "post", .response "200", "application/json"⟩] ∧
      Body.collect known document =
        ((Body.sites document).filter (·.place ≠ chainBody)).filterMap (Body.Site.body? known) := by
  have pointer : Reference.localPointer? "#/components/schemas/Node" "openapi.yaml" =
      some "#/components/schemas/Node" := by decide +kernel
  have ordinary : Ordinary (.object chainFields) [("schemas", .object [("Node", chainNode)])]
      [("Node", chainNode)] := ⟨rfl, rfl, rfl, rfl⟩
  have leads : Pointer.segments "#/components/schemas/Node" = ["components", "schemas", "Node"] := by
    decide +kernel
  have declared : Fields.get? "Node" [("Node", chainNode)] = some chainNode := rfl
  refine ⟨by decide, by decide +kernel, by decide +kernel, ?_⟩
  exact authoredBodyUnlisted (by decide) ordinary declared chainBodyMet rfl pointer leads

end OpenApi.Schema
