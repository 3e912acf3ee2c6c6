import OpenApi.Proofs.Schema.Authored
import OpenApi.Proofs.Text
/-! Spellings of references to declared schemas. A resolution reads a reference against the path of
its document and segment by segment; a build knows only the one written form. Where a circle leaves a
reference in place, the form it is written in decides whether its schema is named. -/
namespace OpenApi

namespace Pointer

def Written (reference : String) : Prop :=
  ∃ segment, segment ≠ "" ∧ reference = componentRoot ++ segment

theorem rootLeft (segment : String) :
    (componentRoot ++ segment).toList.drop componentRoot.length = segment.toList := by
  rw [String.toList_append]
  exact List.drop_left' String.length_toList

theorem componentNameRoot (segment : String) :
    componentName? (componentRoot ++ segment) =
      if segment.toList.isEmpty || segment.toList.contains '/' then none
      else some (decodeSegment segment) := by
  have isPrefix : componentRoot.toList.isPrefixOf (componentRoot ++ segment).toList = true := by
    rw [String.toList_append]
    exact List.isPrefixOf_iff_prefix.mpr (List.prefix_append _ _)
  unfold componentName?
  rw [if_pos isPrefix]
  simp only [rootLeft, String.ofList_toList]

theorem componentNameOther {reference : String} (other : ¬ Written reference) :
    componentName? reference = none := by
  unfold componentName?
  split
  · rename_i isPrefix
    obtain ⟨rest, is⟩ := List.isPrefixOf_iff_prefix.mp isPrefix
    have whole : reference = componentRoot ++ String.ofList rest := by
      rw [← String.toList_inj, ← is]
      simp
    have empty : String.ofList rest = "" := Classical.byContradiction fun some =>
      other ⟨_, some, whole⟩
    rw [whole, empty]
    simp only [rootLeft]
    rfl
  · rfl

theorem writtenList (segment : String) :
    (componentRoot ++ segment).toList = '#' :: '/' ::
      ("components".toList ++ '/' :: ("schemas".toList ++ '/' :: segment.toList)) := by
  rw [String.toList_append]
  rfl

theorem segmentsRoot (segment : String) :
    segments (componentRoot ++ segment) = "components" :: "schemas" ::
      (Text.splitAtEach '/' segment.toList).map fun s => decodeSegment (String.ofList s) := by
  have outer : decodeSegment "components" = "components" := by decide +kernel
  have inner : decodeSegment "schemas" = "schemas" := by decide +kernel
  unfold segments
  rw [writtenList]
  simp [Text.splitAtEach, outer, inner]

theorem componentNamed {reference base pointer name : String}
    (here : Reference.localPointer? reference base = some pointer)
    (leads : segments pointer = ["components", "schemas", name]) :
    (Written reference → componentName? reference = some name) ∧
      (¬ Written reference → componentName? reference = none) := by
  refine ⟨?_, componentNameOther⟩
  rintro ⟨segment, some, rfl⟩
  cases Option.some.inj (here.symm.trans (localFragment (writtenList segment) base))
  rw [segmentsRoot] at leads
  obtain ⟨piece, single, decoded⟩ : ∃ piece, Text.splitAtEach '/' segment.toList = [piece] ∧
      decodeSegment (String.ofList piece) = name := by
    simpa [List.map_eq_singleton_iff] using leads
  obtain ⟨bare, rfl⟩ := Text.splitSingle.mp single
  rw [String.ofList_toList] at decoded
  rw [componentNameRoot, decoded]
  simp [bare, some]

end Pointer

namespace Schema
open Pointer (Written)
open Resolution

section
variable {components : Fields Json} {base reference pointer name : String}
  (here : Reference.localPointer? reference base = some pointer)
  (leads : Pointer.segments pointer = ["components", "schemas", name])
include here leads

theorem namedWritten (declared : name ∈ Fields.keys components) (written : Written reference)
    (owner : String) : Build.namedSlot components owner reference = pure (.schema name) := by
  obtain ⟨target, found⟩ := Option.isSome_iff_exists.mp (Fields.getSome.mpr declared)
  have declares : declared? components reference = some (name, target) := by
    simp [declared?, (Pointer.componentNamed here leads).1 written, found]
  simp only [Build.namedSlot, declares]

theorem namedUnwritten (other : ¬ Written reference) (owner : String) :
    Build.namedSlot components owner reference = throw (.residualReference owner reference) := by
  have undeclared : declared? components reference = none := by
    simp [declared?, (Pointer.componentNamed here leads).2 other]
  simp only [Build.namedSlot, undeclared]

end

theorem leftReferenceNamed {fields : Fields Json} {base : String} {chain location : List String}
    {node : Json} {reference pointer name : String}
    (visit : Visits (.object fields) base chain location node)
    (is : Reference.of? node = some reference)
    (here : Reference.localPointer? reference base = some pointer) (held : pointer ∈ chain)
    (leads : Pointer.segments pointer = ["components", "schemas", name])
    (declared :
      name ∈ Fields.keys ((components? (resolve (.object fields) base).document).getD [])) :
    let root := Json.object fields
    let components := (components? (resolve root base).document).getD []
    outcome root base chain location node = node ∧
      .circle reference location (chain.dropWhile (· ≠ pointer)) pointer ∈
        (walk (follow root base (room root base []) []) [] root).sightings ∧
      (Written reference →
        ∀ owner, Build.namedSlot components owner reference = pure (.schema name)) ∧
      (¬ Written reference → ∀ owner, Build.namedSlot components owner reference =
        throw (.residualReference owner reference)) := by
  have sights : Sights (.object fields) base chain location reference _ := .circle here held
  refine ⟨outcomeSighted is sights, ?_, ?_, ?_⟩
  · exact sightingsOfVisits.mpr ⟨chain, location, node, reference, visit, is, sights⟩
  · exact fun written owner => namedWritten here leads declared written owner
  · exact fun other owner => namedUnwritten here leads other owner

def loopFields (reference : String) : Fields Json :=
  [("components", .object [("schemas", .object [("Node", .object [("properties", .object [
    ("next", .object [("$ref", .string reference)])])])])])]

section
variable {reference : String}

theorem loopVisited
    (here : Reference.localPointer? reference "openapi.yaml" = some "#/components/schemas/Node") :
    Visits (.object (loopFields reference)) "openapi.yaml" ["#/components/schemas/Node"]
      ["components", "schemas", "Node", "properties", "next"]
      (.object [("$ref", .string reference)]) := by
  have segments : Pointer.segments "#/components/schemas/Node" =
      ["components", "schemas", "Node"] := by decide +kernel
  have inside : Met (.object [("properties", .object [
      ("next", .object [("$ref", .string reference)])])]) ["properties", "next"]
      (.object [("$ref", .string reference)]) :=
    metMember rfl rfl (metMember rfl rfl .here)
  have outside : Met (.object (loopFields reference))
      ["components", "schemas", "Node", "properties", "next"]
      (.object [("$ref", .string reference)]) :=
    metMember rfl rfl (metMember rfl rfl (metMember rfl rfl inside))
  have enters : Enters (.object (loopFields reference)) "openapi.yaml" [] reference
      "#/components/schemas/Node" _ := ⟨here, List.not_mem_nil, by rw [segments]; rfl⟩
  rw [show ["components", "schemas", "Node", "properties", "next"] =
    Pointer.segments "#/components/schemas/Node" ++ ["properties", "next"] by rw [segments]; rfl]
  exact .enter (.root outside) rfl enters inside

theorem loopNamed :
    let reference := "#/components/schemas/Node"
    let root := Json.object (loopFields reference)
    let components := (components? (resolve root "openapi.yaml").document).getD []
    ∀ owner, Build.namedSlot components owner reference = pure (.schema "Node") := by
  have here : Reference.localPointer? "#/components/schemas/Node" "openapi.yaml" =
      some "#/components/schemas/Node" := by decide +kernel
  have written : Written "#/components/schemas/Node" := ⟨"Node", by decide, rfl⟩
  exact (leftReferenceNamed (loopVisited here) rfl here List.mem_cons_self (by decide +kernel)
    (by decide +kernel)).2.2.1 written

theorem spelledLoopUnnamed :
    ¬ ∀ (fields : Fields Json) (base : String) (chain location : List String) (node : Json)
      (reference pointer name : String), Visits (.object fields) base chain location node →
      Reference.of? node = some reference → Reference.localPointer? reference base = some pointer →
      pointer ∈ chain → Pointer.segments pointer = ["components", "schemas", name] →
      name ∈ Fields.keys ((components? (resolve (.object fields) base).document).getD []) →
      ∀ owner, Build.namedSlot ((components? (resolve (.object fields) base).document).getD [])
        owner reference = pure (.schema name) := by
  intro all
  have here : Reference.localPointer? "openapi.yaml#/components/schemas/Node" "openapi.yaml" =
      some "#/components/schemas/Node" := by decide +kernel
  have leads : Pointer.segments "#/components/schemas/Node" =
      ["components", "schemas", "Node"] := by decide +kernel
  have named := all (loopFields "openapi.yaml#/components/schemas/Node") "openapi.yaml" _ _ _ _ _ _
    (loopVisited here) rfl here List.mem_cons_self leads (by decide +kernel) "NodeNext"
  have other : ¬ Written "openapi.yaml#/components/schemas/Node" := by
    rintro ⟨segment, -, is⟩
    have chars := congrArg String.toList is
    rw [Pointer.writtenList] at chars
    exact absurd (List.cons.inj chars).1 (by decide)
  rw [namedUnwritten here leads other] at named
  have run := congrArg (·.run ⟨.empty, [], []⟩) named
  cases run

end
end Schema
end OpenApi
