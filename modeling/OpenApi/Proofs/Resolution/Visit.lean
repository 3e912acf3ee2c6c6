import OpenApi.Proofs.Resolution.Met
/-! The visits of a resolution: what it meets, and under which chain of pointers. A chain never
holds a pointer twice and holds none but those of the document, so the budget is never spent before
a reference is followed to its end. What is sighted is sighted at some visit. -/
namespace OpenApi.Resolution

/-! The pointers of a document are those of all references within it. -/

theorem itemsReference {reference items} :
    reference ∈ referencesOfItems items ↔ ∃ item ∈ items, reference ∈ references item := by
  induction items with
  | nil => simp [referencesOfItems]
  | cons item rest ih => simp [referencesOfItems, ih]

theorem fieldsReference {reference fields} :
    reference ∈ referencesOfFields fields ↔ ∃ m ∈ fields, reference ∈ references m.2 := by
  induction fields with
  | nil => simp [referencesOfFields]
  | cons m rest ih => simp [referencesOfFields, ih]

theorem referenceWithin {node whole reference} (inside : Json.Within node whole)
    (is : Reference.of? node = some reference) : reference ∈ references whole := by
  induction inside with
  | refl =>
    obtain ⟨fields, rfl⟩ := Reference.ofObject is
    simp [references, is]
  | item member _ ih => exact itemsReference.mpr ⟨_, member, ih⟩
  | field member _ ih =>
    exact List.mem_append_right _ (fieldsReference.mpr ⟨_, member, ih⟩)

theorem pointerWithin {root base node reference pointer} (inside : Json.Within node root)
    (is : Reference.of? node = some reference)
    (here : Reference.localPointer? reference base = some pointer) :
    pointer ∈ localPointers root base :=
  addAllMember.mpr (.inr (List.mem_filterMap.mpr ⟨_, referenceWithin inside is, here⟩))

structure Enters (root : Json) (base : String) (chain : List String) (reference pointer : String)
    (target : Json) : Prop where
  here : Reference.localPointer? reference base = some pointer
  fresh : pointer ∉ chain
  found : Pointer.lookup? root (Pointer.segments pointer) = some target

/-- `Visits root base chain location part`: the resolution comes to `part`, which stands at
`location` in the given document, while it follows the pointers of `chain`. -/
inductive Visits (root : Json) (base : String) : List String → List String → Json → Prop where
  | root {location part} (met : Met root location part) : Visits root base [] location part
  | enter {chain location node reference pointer target inner part}
      (visit : Visits root base chain location node) (is : Reference.of? node = some reference)
      (enters : Enters root base chain reference pointer target) (met : Met target inner part) :
      Visits root base (chain ++ [pointer]) (Pointer.segments pointer ++ inner) part

namespace Visits
variable {root : Json} {base : String} {chain location : List String} {part : Json}

theorem within (visit : Visits root base chain location part) : Json.Within part root := by
  cases visit with
  | root met => exact met.within
  | enter _ _ enters met => exact met.within.trans (Json.lookupWithin enters.found)

theorem deeper (visit : Visits root base chain location part) {inner deep}
    (met : Met part inner deep) : Visits root base chain (location ++ inner) deep := by
  cases visit with
  | root outer => exact .root (outer.trans met)
  | enter visit is enters outer =>
    rw [List.append_assoc]
    exact .enter visit is enters (outer.trans met)

theorem target (visit : Visits root base chain location part) {reference pointer target}
    (is : Reference.of? part = some reference)
    (enters : Enters root base chain reference pointer target) :
    Visits root base (chain ++ [pointer]) (Pointer.segments pointer) target := by
  simpa using Visits.enter visit is enters .here

theorem chainNodup (visit : Visits root base chain location part) : chain.Nodup := by
  induction visit with
  | root met => exact List.nodup_nil
  | enter _ _ enters _ ih =>
    exact List.nodup_append.mpr ⟨ih, by simp,
      fun a held b new same => enters.fresh (by rwa [← List.mem_singleton.mp new, ← same])⟩

theorem chainWithin (visit : Visits root base chain location part) :
    chain ⊆ localPointers root base := by
  induction visit with
  | root met => exact List.nil_subset _
  | enter visit is enters _ ih =>
    exact List.append_subset.mpr ⟨ih,
      List.cons_subset.mpr ⟨pointerWithin visit.within is enters.here, List.nil_subset _⟩⟩

theorem held (visit : Visits root base chain location part) {pointer} (among : pointer ∈ chain) :
    ∃ before target, Pointer.lookup? root (Pointer.segments pointer) = some target ∧
      Visits root base before (Pointer.segments pointer) target := by
  induction visit with
  | root met => cases among
  | enter visit is enters _ ih =>
    rcases List.mem_append.mp among with earlier | newest
    · exact ih earlier
    · cases List.mem_singleton.mp newest
      exact ⟨_, _, enters.found, visit.target is enters⟩

end Visits

def room (root : Json) (base : String) (chain : List String) : Nat :=
  (localPointers root base).length - chain.length

theorem roomEnter {root base chain location node reference pointer target}
    (visit : Visits root base chain location node) (is : Reference.of? node = some reference)
    (enters : Enters root base chain reference pointer target) :
    room root base chain = room root base (chain ++ [pointer]) + 1 := by
  have next := visit.target is enters
  have fits := next.chainNodup.length_le_of_subset next.chainWithin
  simp only [room, List.length_append, List.length_singleton] at fits ⊢
  omega

end OpenApi.Resolution
