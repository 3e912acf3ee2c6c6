import Mathlib.Logic.Relation
import OpenApi.Proofs.Schema.Descent
import OpenApi.Proofs.Schema.Fresh
import OpenApi.Proofs.Schema.Integrity
/-! A schema map by families. Each declared schema, and after them each body without a name, stands at
the head of what was taken out of it; there is nothing else in the map. -/
namespace OpenApi.Schema

structure Family (components : Fields Json) (levels : Nat) (root : String × Json)
    (family : List Entry) : Prop where
  made : ∃ p q, (Build.normalize components levels root.2 root.1).run p = .ok (family, q)
  headed : Headed root.1 family

def Rooted (body : Body) (root : String × Json) : Prop :=
  Derived body.baseName root.1 ∧ root.2 = body.schema

section
variable {components : Fields Json} {levels : Nat} {roots : Fields Json} {families : List (List Entry)}
  (each : List.Forall₂ (Family components levels) roots families)
include each

theorem familiesOrder : (Fields.keys roots).Sublist (families.flatten.map Entry.name) := by
  induction each with
  | nil => exact .slnil
  | cons family _ ih =>
    obtain ⟨head, inner, rfl, named, -⟩ := family.headed
    rw [List.flatten_cons, List.cons_append, List.map_cons, List.map_append, named]
    exact (ih.trans (List.sublist_append_right _ _)).cons_cons _

theorem familiesDescend : Descends (Fields.keys roots) families.flatten := by
  induction each with
  | nil => trivial
  | @cons root family rest _ first _ ih =>
    have own : [root.1] ⊆ Fields.keys (root :: rest) := by simp [Fields.keys]
    exact (first.headed.descends.mono own).append (ih.mono (List.subset_cons_self _ _))

end

namespace Build
variable {components : Fields Json} {levels : Nat} {p : Progress}

theorem normalizeFamily (root : String × Json) :
    Meets (fun _ => True) (normalize components levels root.2 root.1) p fun family _ =>
      Family components levels root family := by
  have founds := normalizeFounds components levels root.2 root.1 p
  unfold Meets at founds ⊢
  cases run : (normalize components levels root.2 root.1).run p with
  | error breach => trivial
  | ok ended =>
    rw [run] at founds
    exact ⟨⟨p, ended.2, run⟩, founds⟩

theorem declaredFamilies (fields : Fields Json) :
    Meets (fun _ => True) (buildDeclared components levels fields) p fun entries _ =>
      ∃ families, entries = families.flatten ∧
        List.Forall₂ (Family components levels) fields families := by
  induction fields generalizing p with
  | nil => exact .pure ⟨[], rfl, .nil⟩
  | cons root rest ih =>
    unfold buildDeclared
    refine Meets.bind (normalizeFamily root) fun family q first => ?_
    refine Meets.bind ih fun others r later => ?_
    obtain ⟨families, rfl, each⟩ := later
    exact .pure ⟨family :: families, rfl, .cons first each⟩

theorem bodyFamilies (bodies : List Body) :
    Meets (fun _ => True) (buildBodies components levels bodies) p fun entries _ =>
      ∃ inline families, entries = families.flatten ∧ List.Forall₂ Rooted bodies inline ∧
        List.Forall₂ (Family components levels) inline families := by
  induction bodies generalizing p with
  | nil => exact .pure ⟨[], [], rfl, .nil, .nil⟩
  | cons body rest ih =>
    unfold buildBodies
    refine Meets.bind (allocateMeets body.baseName) fun name q allocated => ?_
    obtain ⟨fresh, -⟩ := allocated
    have derived : Derived body.baseName name := fresh ▸ freshDerived _ _
    refine Meets.bind (normalizeFamily (name, body.schema)) fun family r first => ?_
    refine Meets.bind ih fun others s later => ?_
    obtain ⟨inline, families, rfl, rooted, each⟩ := later
    exact .pure ⟨_ :: inline, family :: families, rfl, .cons ⟨derived, rfl⟩ rooted, .cons first each⟩

end Build

theorem entriesFamilies {document : Json} {levels : Nat} {entries : List Entry}
    (made : entriesOf document levels = .ok entries) :
    ∃ inline families, entries = families.flatten ∧
      List.Forall₂ Rooted (Body.collect ((components? document).getD []) document) inline ∧
      List.Forall₂ (Family ((components? document).getD []) levels)
        ((components? document).getD [] ++ inline) families := by
  obtain ⟨reserved, -, rest⟩ := exceptBind made
  obtain ⟨⟨_, q⟩, run, same⟩ := exceptBind rest
  cases same
  simp only [StateT.run_bind] at run
  obtain ⟨⟨declared, between⟩, first, last⟩ := exceptBind run
  obtain ⟨⟨bodies, after⟩, second, joined⟩ := exceptBind last
  cases joined
  obtain ⟨families, rfl, each⟩ := (Build.declaredFamilies _).ended first
  obtain ⟨inline, more, rfl, rooted, others⟩ := (Build.bodyFamilies _).ended second
  exact ⟨inline, families ++ more, List.flatten_append.symm, rooted, List.rel_append each others⟩

def Map.Mentions (map : Map) (name other : String) : Prop :=
  ∃ entry, (name, entry) ∈ map.entries ∧ other ∈ entry.names

/-- The map consists of the families of its roots, the declared schemas and then the bodies in the order
in which they are collected. What is not a root is named in an entry ahead of it. -/
structure Lineage (document : Json) (levels : Nat) (map : Map) (inline : Fields Json) : Prop where
  rooted : List.Forall₂ Rooted (Body.collect ((components? document).getD []) document) inline
  families : ∃ families, map = .ofEntries families.flatten ∧
    List.Forall₂ (Family ((components? document).getD []) levels)
      ((components? document).getD [] ++ inline) families
  distinct : map.names.Nodup
  order : (Fields.keys ((components? document).getD []) ++ Fields.keys inline).Sublist map.names
  parents : ∀ before m after, map.entries = before ++ m :: after →
    m.1 ∈ Fields.keys ((components? document).getD []) ∨ m.1 ∈ Fields.keys inline ∨
      ∃ ahead ∈ before, m.1 ∈ ahead.2.names
  reached : ∀ m ∈ map.entries, ∃ root,
    (root ∈ Fields.keys ((components? document).getD []) ∨ root ∈ Fields.keys inline) ∧
      Relation.ReflTransGen map.Mentions root m.1

theorem extractLineage {document : Json} {levels : Nat} {map : Map}
    (ok : extract document levels = .ok map) : ∃ inline, Lineage document levels map inline := by
  obtain ⟨entries, made, valid, rfl⟩ := extractEntries ok
  obtain ⟨inline, families, rfl, rooted, each⟩ := entriesFamilies made
  have keys (fields : Fields Json) : Fields.keys (fields ++ inline) =
      Fields.keys fields ++ Fields.keys inline := List.map_append
  have order := familiesOrder each
  have descends := familiesDescend each
  rw [keys] at order descends
  refine ⟨inline, rooted, ⟨families, rfl, each⟩, valid.distinct, ?_, ?_, ?_⟩
  · rwa [ofEntriesNames]
  · intro before m after split
    obtain ⟨front, back, parts, rfl, behind⟩ := List.map_eq_append_iff.mp split
    obtain ⟨entry, rest, rfl, rfl, rfl⟩ := List.map_eq_cons_iff.mp behind
    rcases descends.earlier parts with root | ⟨ahead, among, named⟩
    · exact (List.mem_append.mp root).imp_right .inl
    · exact .inr (.inr ⟨_, List.mem_map.mpr ⟨ahead, among, rfl⟩, named⟩)
  · intro m member
    obtain ⟨entry, among, rfl⟩ := List.mem_map.mp member
    let reached (name : String) : Prop := ∃ root,
      (root ∈ Fields.keys ((components? document).getD []) ∨ root ∈ Fields.keys inline) ∧
        Relation.ReflTransGen (Map.ofEntries families.flatten).Mentions root name
    refine descends.reaches reached (fun root is => ?_) (fun parent listed up name named => ?_) entry among
    · exact ⟨root, List.mem_append.mp is, .refl⟩
    · obtain ⟨root, is, path⟩ := up
      exact ⟨root, is, path.tail ⟨parent, List.mem_map.mpr ⟨parent, listed, rfl⟩, named⟩⟩

def clinicDocument : Json :=
  .object [
    ("paths", .object [("/pets", .object [("post", .object [("requestBody", .object [("content",
      .object [("application/json", .object [("schema",
        .object [("oneOf", .array [.object [("type", .string "string")]])])])])])])])]),
    ("components", .object [("schemas", .object [
      ("Pet", .object [("properties", .object [
        ("owner", .object [("properties", .object [("pets", .object [
          ("items", .object [("$ref", .string "#/components/schemas/Pet")])])])]),
        ("visits", .object [("items", .object [
          ("items", .object [("properties", .object [("reason", .object [])])])])])])]),
      ("Dog", .object [("allOf", .array [
        .object [("$ref", .string "#/components/schemas/Pet")],
        .object [("properties", .object [
          ("breed", .object [("properties", .object [("name", .object [])])])])]])])])])]

theorem clinicLineage :
    ∃ map inline, extract clinicDocument defaultDepth = .ok map ∧
      map.names = ["Pet", "PetOwner", "PetVisitsItemItem", "Dog", "DogVisitsItemItem", "DogBreed",
        "PostPetsRequestSchema", "PostPetsRequestSchemaOption1"] ∧
      Lineage clinicDocument defaultDepth map inline := by
  have names : (extract clinicDocument defaultDepth).toOption.map Map.names =
      some ["Pet", "PetOwner", "PetVisitsItemItem", "Dog", "DogVisitsItemItem", "DogBreed",
        "PostPetsRequestSchema", "PostPetsRequestSchemaOption1"] := by
    decide +kernel
  obtain ⟨map, ok, named⟩ := evaluated names
  obtain ⟨inline, lineage⟩ := extractLineage ok
  exact ⟨map, inline, ok, named, lineage⟩

end OpenApi.Schema
