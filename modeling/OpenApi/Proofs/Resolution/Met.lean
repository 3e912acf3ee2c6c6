import OpenApi.Proofs.Json.Parts
import OpenApi.Resolution.Basic
/-! What a walk meets: the parts of a value that can be reached without entering a reference. The
sightings of a walk are those of the references it meets, and its value holds the walked value of
every part it meets. -/
namespace OpenApi.Resolution

/-- `Met whole location part`: a walk over `whole` comes to `part` at `location`. -/
inductive Met : Json → List String → Json → Prop where
  | here {value} : Met value [] value
  | item {items : List Json} {index : Nat} {item location part}
      (member : items[index]? = some item) (inside : Met item location part) :
      Met (.array items) (toString index :: location) part
  | field {fields m location part} (plain : Reference.of? (.object fields) = none)
      (member : m ∈ fields) (inside : Met m.2 location part) :
      Met (.object fields) (m.1 :: location) part

theorem Met.within {whole location part} (met : Met whole location part) :
    Json.Within part whole := by
  induction met with
  | here => exact .refl
  | item member _ ih => exact .item (List.mem_of_getElem? member) ih
  | field _ member _ ih => exact .field member ih

theorem Met.trans {whole outer middle inner part} (met : Met whole outer middle)
    (deeper : Met middle inner part) : Met whole (outer ++ inner) part := by
  induction met with
  | here => exact deeper
  | item member _ ih => exact .item member (ih deeper)
  | field plain member _ ih => exact .field plain member (ih deeper)

theorem metMember {fields : Fields Json} {key : String} {child part : Json} {rest : List String}
    (plain : Reference.of? (.object fields) = none) (given : Fields.get? key fields = some child)
    (inside : Met child rest part) : Met (.object fields) (key :: rest) part :=
  .field plain (Fields.getMember given) inside

section
variable (follow : Follow) (location : List String)

theorem walkFieldsValue (fields : List (String × Json)) :
    (walkFields follow location fields).value =
      fields.map fun m => (m.1, (walk follow (location ++ [m.1]) m.2).value) := by
  induction fields with
  | nil => rfl
  | cons m rest ih => simp [walkFields, Noted.both, ih]

theorem walkFieldsSightings (fields : List (String × Json)) :
    (walkFields follow location fields).sightings =
      fields.flatMap fun m => (walk follow (location ++ [m.1]) m.2).sightings := by
  induction fields with
  | nil => rfl
  | cons m rest ih => simp [walkFields, Noted.both, ih]

theorem walkItemsValue (index : Nat) (items : List Json) :
    (walkItems follow location index items).value =
      (items.zipIdx index).map fun i => (walk follow (location ++ [toString i.2]) i.1).value := by
  induction items generalizing index with
  | nil => rfl
  | cons item rest ih => simp [walkItems, Noted.both, ih]

theorem walkItemsSightings (index : Nat) (items : List Json) :
    (walkItems follow location index items).sightings =
      (items.zipIdx index).flatMap fun i =>
        (walk follow (location ++ [toString i.2]) i.1).sightings := by
  induction items generalizing index with
  | nil => rfl
  | cons item rest ih => simp [walkItems, Noted.both, ih]

/-! One equation of the walk for each sort of value. -/

theorem walkReference {node reference} (is : Reference.of? node = some reference) :
    walk follow location node = (follow reference location).map (·.getD node) := by
  obtain ⟨fields, rfl⟩ := Reference.ofObject is
  simp only [walk, is]

theorem walkPlain {fields} (plain : Reference.of? (.object fields) = none) :
    walk follow location (.object fields) = (walkFields follow location fields).map .object := by
  simp only [walk, plain]

theorem walkArray (items : List Json) :
    walk follow location (.array items) = (walkItems follow location 0 items).map .array := rfl

end

theorem walkSightings {follow : Follow} {sighting value} (location : List String) :
    sighting ∈ (walk follow location value).sightings ↔
      ∃ inner node reference, Met value inner node ∧ Reference.of? node = some reference ∧
        sighting ∈ (follow reference (location ++ inner)).sightings := by
  constructor
  · intro noted
    induction value using Json.ofParts generalizing location with
    | null | bool | number | string => simp [walk, Noted.of] at noted
    | array items ih =>
      rw [walkArray] at noted
      simp only [Noted.map, walkItemsSightings, List.mem_flatMap] at noted
      obtain ⟨⟨item, index⟩, member, noted⟩ := noted
      have listed := List.mem_zipIdx_iff_getElem?.mp member
      obtain ⟨inner, node, reference, met, is, noted⟩ :=
        ih item (List.mem_of_getElem? listed) _ noted
      exact ⟨_, node, reference, .item listed met, is, by simpa using noted⟩
    | object fields ih =>
      cases is : Reference.of? (.object fields) with
      | some reference =>
        rw [walkReference follow location is] at noted
        exact ⟨[], _, reference, .here, is, by simpa [Noted.map] using noted⟩
      | none =>
        rw [walkPlain follow location is] at noted
        simp only [Noted.map, walkFieldsSightings, List.mem_flatMap] at noted
        obtain ⟨m, member, noted⟩ := noted
        obtain ⟨inner, node, reference, met, refers, noted⟩ := ih m member _ noted
        exact ⟨_, node, reference, .field is member met, refers, by simpa using noted⟩
  · rintro ⟨inner, node, reference, met, is, noted⟩
    induction met generalizing location with
    | here =>
      rw [walkReference follow location is]
      simpa [Noted.map] using noted
    | @item items index item inner node member _ ih =>
      rw [walkArray]
      simp only [Noted.map, walkItemsSightings, List.mem_flatMap]
      exact ⟨(item, index), List.mem_zipIdx_iff_getElem?.mpr member,
        ih (location ++ [toString index]) is (by simpa using noted)⟩
    | @field fields m inner node plain member _ ih =>
      rw [walkPlain follow location plain]
      simp only [Noted.map, walkFieldsSightings, List.mem_flatMap]
      exact ⟨m, member, ih (location ++ [m.1]) is (by simpa using noted)⟩

theorem walkItemsCongr {follow other : Follow} {location : List String} {index : Nat} {items}
    (same : ∀ (offset : Nat) item, items[offset]? = some item →
      walk follow (location ++ [toString (index + offset)]) item =
        walk other (location ++ [toString (index + offset)]) item) :
    walkItems follow location index items = walkItems other location index items := by
  induction items generalizing index with
  | nil => rfl
  | cons item rest ih =>
    have first := same 0 item rfl
    have later : walkItems follow location (index + 1) rest =
        walkItems other location (index + 1) rest := by
      refine ih fun offset item member => ?_
      rw [Nat.add_right_comm, Nat.add_assoc]
      exact same (offset + 1) item member
    rw [Nat.add_zero] at first
    simp only [walkItems, first, later]

theorem walkFieldsCongr {follow other : Follow} {location : List String} {fields}
    (same : ∀ m ∈ fields,
      walk follow (location ++ [m.1]) m.2 = walk other (location ++ [m.1]) m.2) :
    walkFields follow location fields = walkFields other location fields := by
  induction fields with
  | nil => rfl
  | cons m rest ih =>
    have ⟨first, later⟩ := List.forall_mem_cons.mp same
    simp only [walkFields, first, ih later]

theorem walkCongr {follow other : Follow} {value} (location : List String)
    (same : ∀ inner node reference, Met value inner node → Reference.of? node = some reference →
      follow reference (location ++ inner) = other reference (location ++ inner)) :
    walk follow location value = walk other location value := by
  induction value using Json.ofParts generalizing location with
  | null | bool | number | string => rfl
  | array items ih =>
    rw [walkArray, walkArray, walkItemsCongr fun index item member => ?_]
    refine ih item (List.mem_of_getElem? member) _ fun inner node reference met is => ?_
    simpa using same _ node reference (.item member met) is
  | object fields ih =>
    cases is : Reference.of? (.object fields) with
    | some reference =>
      have here := same [] _ reference .here is
      rw [List.append_nil] at here
      rw [walkReference _ _ is, walkReference _ _ is, here]
    | none =>
      rw [walkPlain _ _ is, walkPlain _ _ is, walkFieldsCongr fun m member => ?_]
      refine ih m member _ fun inner node reference met refers => ?_
      simpa using same _ node reference (.field is member met) refers

theorem walkedPart {follow : Follow} {whole inner part} (met : Met whole inner part)
    (location : List String) :
    Json.Within (walk follow (location ++ inner) part).value
      (walk follow location whole).value := by
  induction met generalizing location with
  | here => simpa using .refl
  | @item items index item inner part member _ ih =>
    rw [walkArray]
    simp only [Noted.map, walkItemsValue]
    refine .item (List.mem_map.mpr ⟨(item, index), List.mem_zipIdx_iff_getElem?.mpr member, rfl⟩) ?_
    simpa using ih (location ++ [toString index])
  | @field fields m inner part plain member _ ih =>
    rw [walkPlain follow location plain]
    simp only [Noted.map, walkFieldsValue]
    refine .field (List.mem_map.mpr ⟨m, member, rfl⟩) ?_
    simpa using ih (location ++ [m.1])

end OpenApi.Resolution
