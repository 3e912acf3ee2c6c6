import OpenApi.Proofs.Schema.Outermost
/-! Operations beside the declared schemas. The bodies share names and noted structures with what was
built before them, but they only add to it: a document without its operations yields the same entries,
and the bodies append theirs. -/
namespace OpenApi.Schema

def withoutPaths : Json → Json
  | .object fields => .object (Fields.erase "paths" fields)
  | value => value

theorem componentsWithout (document : Json) :
    components? (withoutPaths document) = components? document := by
  have same : (withoutPaths document).get? "components" = document.get? "components" := by
    cases document with
    | object fields => exact Fields.getErase (by decide) fields
    | null | bool | number | string | array => rfl
  rw [components?, same, components?]

theorem bodiesWithout (declared : Fields Json) (document : Json) :
    Body.collect declared (withoutPaths document) = [] := by
  have none : (withoutPaths document).get? "paths" = none := by
    cases document with
    | object fields => exact Fields.getErased "paths" fields
    | null | bool | number | string | array => rfl
  simp [Body.collect, Json.getFields?, none]

section
variable {document : Json} {levels : Nat}

theorem entriesDeclared {entries} (made : entriesOf document levels = .ok entries) :
    ∃ declared, entriesOf (withoutPaths document) levels = .ok declared ∧ declared <+: entries := by
  obtain ⟨reserved, names, rest⟩ := exceptBind made
  obtain ⟨⟨all, progress⟩, run, same⟩ := exceptBind rest
  cases same
  simp only [StateT.run_bind] at run
  obtain ⟨⟨declared, between⟩, first, last⟩ := exceptBind run
  obtain ⟨⟨bodies, after⟩, -, joined⟩ := exceptBind last
  cases joined
  refine ⟨declared, ?_, List.prefix_append _ _⟩
  have nothing : (do
      let declared ← buildDeclared ((components? document).getD []) levels
        ((components? document).getD [])
      return declared ++ (← buildBodies ((components? document).getD []) levels []) :
      Build (List Entry)).run { names := reserved, recursive := [], begun := [] } =
        .ok (declared, between) := by
    simp only [StateT.run_bind, first]
    exact congrArg (fun all => Except.ok (all, between)) (List.append_nil declared)
  unfold entriesOf
  dsimp only
  rw [componentsWithout, bodiesWithout, names]
  exact congrArg (fun result => Except.map Prod.fst result) nothing

theorem declaredFirst {map} (ok : extract document levels = .ok map) :
    ∃ declared, extract (withoutPaths document) levels = .ok declared ∧
      declared.entries <+: map.entries := by
  obtain ⟨entries, made, valid, rfl⟩ := extractEntries ok
  obtain ⟨declared, built, front⟩ := entriesDeclared made
  obtain ⟨reserved, names, -⟩ := exceptBind built
  obtain ⟨distinct, named⟩ := reservedApart names
  have unmarked : ∀ entry ∈ declared, ¬ entry.toJson.HasKey Reference.key := by
    intro entry among marked
    have resolved := valid.resolved (entry.name, entry)
      (List.mem_map.mpr ⟨entry, front.subset among, rfl⟩)
    have found := findReferenceSome.mpr marked
    simp [resolved] at found
  obtain ⟨first, extracted⟩ := (extractSucceeds distinct fun empty => (named "" empty).1 rfl).mpr
    ⟨declared, built, unmarked⟩
  obtain ⟨entries', built', -, rfl⟩ := extractEntries extracted
  cases Except.ok.inj (built.symm.trans built')
  exact ⟨_, extracted, front.map _⟩

end

theorem operationsAppend {document : Json} {levels : Nat} {map : Map}
    (ok : extract document levels = .ok map) :
    ∃ declared, extract (withoutPaths document) levels = .ok declared ∧
      declared.entries <+: map.entries ∧
      ∀ other extended, withoutPaths other = withoutPaths document →
        extract other levels = .ok extended → declared.entries <+: extended.entries := by
  obtain ⟨declared, extracted, front⟩ := declaredFirst ok
  refine ⟨declared, extracted, front, fun other extended same ok' => ?_⟩
  obtain ⟨first, extracted', front'⟩ := declaredFirst ok'
  rw [same, extracted] at extracted'
  cases Except.ok.inj extracted'
  exact front'

def visitDocument : Json :=
  let owner := Json.object [("properties", .object [("pets", .object [
    ("items", .object [("$ref", .string "#/components/schemas/Pet")])])])]
  .object [
    ("paths", .object [("/visits", .object [("post", .object [("requestBody", .object [("content",
      .object [("application/json", .object [("schema", .object [("properties", .object [
        ("owner", owner),
        ("reason", .object [("properties", .object [("text", .object [])])])])])])])])])])]),
    ("components", .object [("schemas", .object [("Pet", .object [
      ("properties", .object [("owner", owner)])])])])]

theorem visitAppended :
    ∃ declared map, extract (withoutPaths visitDocument) defaultDepth = .ok declared ∧
      extract visitDocument defaultDepth = .ok map ∧ declared.names = ["Pet", "PetOwner"] ∧
      map.names = ["Pet", "PetOwner", "PostVisitsRequestSchema",
        "PostVisitsRequestSchemaReason"] ∧
      declared.entries <+: map.entries := by
  have names : (extract visitDocument defaultDepth).toOption.map Map.names =
      some ["Pet", "PetOwner", "PostVisitsRequestSchema", "PostVisitsRequestSchemaReason"] := by
    decide +kernel
  have before : (extract (withoutPaths visitDocument) defaultDepth).toOption.map Map.names =
      some ["Pet", "PetOwner"] := by
    decide +kernel
  obtain ⟨map, ok, named⟩ := evaluated names
  obtain ⟨declared, extracted, front, -⟩ := operationsAppend ok
  rw [extracted] at before
  exact ⟨declared, map, extracted, ok, Option.some.inj before, named, front⟩

end OpenApi.Schema
