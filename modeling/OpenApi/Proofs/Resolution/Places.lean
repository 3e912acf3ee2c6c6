import OpenApi.Proofs.Json.Size
import OpenApi.Proofs.Resolution.Broken
/-! Places of problems. The path of a problem is a location of the given document, and the reference
that the problem tells of stands there as it was written. -/
namespace OpenApi

def Json.indexed (root : Json) : Bool :=
  (Json.parts root).all fun part => (part.items?.getD []).length ≤ UInt64.size

theorem Json.indexedWithin {root : Json} {items : List Json} (indexed : root.indexed = true)
    (inside : Json.Within (.array items) root) : items.length ≤ UInt64.size := by
  have fits := List.all_eq_true.mp indexed _ (Json.partWithin inside)
  simpa [Json.items?] using of_decide_eq_true fits

namespace Pointer

theorem Stands.lookup {root location part} (keyed : root.wellKeyed = true)
    (indexed : root.indexed = true) (stands : Stands root location part) :
    lookup? root location = some part := by
  have fits : ∀ items, Json.Within (.array items) root → items.length ≤ UInt64.size :=
    fun _ => Json.indexedWithin indexed
  clear indexed
  induction stands with
  | here => rfl
  | @item items index segment item location part position member _ ih =>
    have read : index? segment = some index := by
      rcases position with rfl | read
      · have short : index < items.length := (List.getElem?_eq_some_iff.mp member).1
        rw [indexWritten, if_pos (Nat.lt_of_lt_of_le short (fits items .refl))]
      · exact read
    have among := List.mem_of_getElem? member
    have deeper := ih (Json.wellKeyedArray.mp keyed _ among)
      fun items inside => fits items (.item among inside)
    simp only [lookup?, step?, read, Option.bind_some, member, deeper]
  | @field fields key value location part member _ ih =>
    obtain ⟨distinct, members⟩ := Json.wellKeyedObject.mp keyed
    have deeper := ih (members _ member) fun items inside => fits items (.field member inside)
    simp only [lookup?, step?, Fields.getOfMember distinct member, Option.bind_some, deeper]

end Pointer

def Sighting.reference : Sighting → String
  | .outside reference _ => reference
  | .missing reference _ _ => reference
  | .circle reference _ _ _ => reference

namespace Resolution
variable {root : Json} {base : String}

theorem noteMember {report : Report} {told problem : Problem}
    (member : told ∈ (report.note problem).problems) : told ∈ report.problems ∨ told = problem := by
  unfold Report.note at member
  split at member
  · exact .inl member
  · simpa using member

theorem addMember {report : Report} {sighting : Sighting} {told : Problem}
    (member : told ∈ (Report.add base report sighting).problems) :
    told ∈ report.problems ∨ told = sighting.problem base := by
  unfold Report.add at member
  split at member
  · split at member
    · exact .inl member
    · have noted := noteMember member
      exact noted
  · exact noteMember member

theorem foldMember {report : Report} {sightings : List Sighting} {told : Problem}
    (member : told ∈ (sightings.foldl (Report.add base) report).problems) :
    told ∈ report.problems ∨ ∃ sighting ∈ sightings, told = sighting.problem base := by
  induction sightings generalizing report with
  | nil => exact .inl member
  | cons sighting rest ih =>
    rcases ih member with earlier | ⟨other, among, is⟩
    · exact (addMember earlier).imp_right fun is => ⟨sighting, List.mem_cons_self, is⟩
    · exact .inr ⟨other, List.mem_cons_of_mem _ among, is⟩

theorem problemOf (base : String) (sighting : Sighting) :
    (sighting.problem base).reference = sighting.reference ∧
      (sighting.problem base).path = Pointer.render sighting.location := by
  cases sighting <;> exact ⟨rfl, rfl⟩

theorem sightedLive {sighting}
    (noted : sighting ∈ (walk (follow root base (room root base []) []) [] root).sightings) :
    Live root base sighting.location sighting.reference := by
  obtain ⟨chain, location, node, reference, visit, is, sights⟩ := sightingsOfVisits.mp noted
  have live : Live root base location reference := ⟨node, walkedOfVisit visit, is⟩
  cases sights <;> exact live

structure Placed (root : Json) (base : String) (problem : Problem) (location : List String) :
    Prop where
  path : problem.path = Pointer.render location
  live : Live root base location problem.reference
  stands : (Pointer.lookup? root location).bind Reference.of? = some problem.reference

theorem problemsPlaced {fields : Fields Json} (keyed : (Json.object fields).wellKeyed = true)
    (indexed : (Json.object fields).indexed = true) (base : String) :
    ∀ problem ∈ (resolve (.object fields) base).problems,
      ∃ location, Placed (.object fields) base problem location := by
  intro problem told
  rcases foldMember told with before | ⟨sighting, noted, rfl⟩
  · cases before
  · obtain ⟨reference, path⟩ := problemOf base sighting
    have live : Live (.object fields) base sighting.location sighting.reference := sightedLive noted
    obtain ⟨node, walked, is⟩ := live
    have found := (walkedStands walked).lookup keyed indexed
    exact ⟨sighting.location, path, reference ▸ ⟨node, walked, is⟩,
      by rw [found, Option.bind_some, is, reference]⟩

def nestedFields : Fields Json :=
  [("top", .object [("$ref", .string "#/mid")]),
    ("mid", .object [("low", .object [("$ref", .string "#/list/+1")])]),
    ("list", .array [.null, .object [("gone", .object [("$ref", .string "#/a~1b")])]]),
    ("c~d", .object [("e/f", .object [("$ref", .string "#/c~0d")])])]

theorem nestedProblemsPlaced :
    (Json.object nestedFields).wellKeyed = true ∧ (Json.object nestedFields).indexed = true ∧
      (∀ problem ∈ (resolve (.object nestedFields) "openapi.yaml").problems,
        ∃ location, Placed (.object nestedFields) "openapi.yaml" problem location) ∧
      ((resolve (.object nestedFields) "openapi.yaml").problems.map fun p =>
        (p.kind, p.reference, p.path)) =
        [(.missing, "#/a~1b", "#/list/+1/gone"), (.missing, "#/a~1b", "#/list/1/gone"),
          (.circular, "#/c~0d", "#/c~0d/e~1f")] :=
  ⟨by decide, by decide, problemsPlaced (by decide) (by decide) "openapi.yaml", by decide +kernel⟩

end Resolution
end OpenApi
