import OpenApi.Proofs.Json.Parts
/-! The parts of a value as a list. Their number is a size: it is smaller for every part but the whole. -/
namespace OpenApi.Json

mutual
def parts : Json → List Json
  | .object fields => .object fields :: partsOfFields fields
  | .array items => .array items :: partsOfItems items
  | value => [value]
def partsOfItems : List Json → List Json
  | [] => []
  | item :: rest => parts item ++ partsOfItems rest
def partsOfFields : List (String × Json) → List Json
  | [] => []
  | (_, value) :: rest => parts value ++ partsOfFields rest
end

def size (value : Json) : Nat := (parts value).length

theorem itemParts {items item} (member : item ∈ items) :
    (parts item).Sublist (partsOfItems items) := by
  induction items with
  | nil => cases member
  | cons first rest ih =>
    unfold partsOfItems
    rcases List.mem_cons.mp member with rfl | later
    · exact List.sublist_append_left _ _
    · exact (ih later).trans (List.sublist_append_right _ _)

theorem fieldParts {fields : Fields Json} {m} (member : m ∈ fields) :
    (parts m.2).Sublist (partsOfFields fields) := by
  induction fields with
  | nil => cases member
  | cons first rest ih =>
    unfold partsOfFields
    rcases List.mem_cons.mp member with rfl | later
    · exact List.sublist_append_left _ _
    · exact (ih later).trans (List.sublist_append_right _ _)

theorem itemSmaller {items item} (member : item ∈ items) : size item < size (.array items) := by
  have fits := (itemParts member).length_le
  simp only [size, parts, List.length_cons]
  omega

theorem fieldSmaller {fields : Fields Json} {m} (member : m ∈ fields) :
    size m.2 < size (.object fields) := by
  have fits := (fieldParts member).length_le
  simp only [size, parts, List.length_cons]
  omega

theorem ownPart (value : Json) : value ∈ parts value := by
  cases value <;> simp [parts]

theorem sizePositive (value : Json) : 0 < size value :=
  List.length_pos_of_mem (ownPart value)

theorem withinParts {part whole : Json} (inside : Within part whole) :
    (parts part).Sublist (parts whole) := by
  induction inside with
  | refl => exact .refl _
  | item member _ ih =>
    rw [parts]
    exact (ih.trans (itemParts member)).cons _
  | field member _ ih =>
    rw [parts]
    exact (ih.trans (fieldParts member)).cons _

theorem sizeWithin {part whole : Json} (inside : Within part whole) : size part ≤ size whole :=
  (withinParts inside).length_le

theorem partWithin {part whole : Json} (inside : Within part whole) : part ∈ parts whole :=
  (withinParts inside).subset (ownPart part)

structure Below (part whole : Json) : Prop where
  inside : part.Within whole
  smaller : size part < size whole

theorem Below.inward {a b c : Json} (inner : Within a b) (below : Below b c) : Below a c :=
  ⟨inner.trans below.inside, Nat.lt_of_le_of_lt (sizeWithin inner) below.smaller⟩

theorem Below.outward {a b c : Json} (below : Below a b) (outer : Within b c) : Below a c :=
  ⟨below.inside.trans outer, Nat.lt_of_lt_of_le below.smaller (sizeWithin outer)⟩

theorem belowItem {items item} (member : item ∈ items) : Below item (.array items) :=
  ⟨.item member .refl, itemSmaller member⟩

theorem belowField {fields : Fields Json} {m} (member : m ∈ fields) : Below m.2 (.object fields) :=
  ⟨.field member .refl, fieldSmaller member⟩

theorem belowGet {key value member} (found : get? key value = some member) : Below member value := by
  cases value <;> simp only [get?, reduceCtorEq] at found
  exact belowField (Fields.getMember found)

end OpenApi.Json
