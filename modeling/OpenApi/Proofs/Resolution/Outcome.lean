import OpenApi.Proofs.Json.Keys
import OpenApi.Proofs.Resolution.Sighting
/-! The outcome of a visit: what a resolution makes of a part under a chain. Where every reference
can be followed, an outcome is given by the outcomes of the members, of the items or of the target,
and an argument over outcomes can be led in these same steps. -/
namespace OpenApi.Resolution

def outcome (root : Json) (base : String) (chain location : List String) (part : Json) : Json :=
  (walk (follow root base (room root base chain) chain) location part).value

theorem documentOutcome (fields : Fields Json) (base : String) :
    (resolve (.object fields) base).document =
      outcome (.object fields) base [] [] (.object fields) := rfl

section
variable {root : Json} {base : String} {chain location : List String}

theorem outcomeObject {fields} (plain : Reference.of? (.object fields) = none) :
    outcome root base chain location (.object fields) =
      .object (fields.map fun m => (m.1, outcome root base chain (location ++ [m.1]) m.2)) := by
  simp only [outcome, walkPlain _ _ plain, Noted.map, walkFieldsValue]

theorem outcomeArray (items : List Json) :
    outcome root base chain location (.array items) =
      .array ((items.zipIdx 0).map fun i =>
        outcome root base chain (location ++ [toString i.2]) i.1) := by
  simp only [outcome, walkArray, Noted.map, walkItemsValue]

def Scalar (value : Json) : Prop := value.fields? = none ∧ value.items? = none

theorem Scalar.plain {value} (scalar : Scalar value) : Reference.of? value = none := by
  cases value with
  | object fields => simp [Scalar, Json.fields?] at scalar
  | null | bool | number | string | array => rfl

theorem outcomeScalar {value} (scalar : Scalar value) :
    outcome root base chain location value = value := by
  cases value with
  | object fields => simp [Scalar, Json.fields?] at scalar
  | array items => simp [Scalar, Json.items?] at scalar
  | null | bool | number | string => rfl

theorem followOutcome {node reference pointer target}
    (visit : Visits root base chain location node) (is : Reference.of? node = some reference)
    (enters : Enters root base chain reference pointer target) :
    (follow root base (room root base chain) chain reference location).value =
      let expanded := outcome root base (chain ++ [pointer]) (Pointer.segments pointer) target
      if (Reference.of? expanded).isSome then none else some expanded := by
  rw [roomEnter visit is enters]
  exact followValue enters

theorem outcomeSighted {node reference sighting} (is : Reference.of? node = some reference)
    (sights : Sights root base chain location reference sighting) :
    outcome root base chain location node = node := by
  rw [outcome, walkReference _ _ is, followSights sights]
  rfl

theorem outcomeReference {node reference pointer target}
    (visit : Visits root base chain location node) (is : Reference.of? node = some reference)
    (enters : Enters root base chain reference pointer target) :
    outcome root base chain location node =
      let expanded := outcome root base (chain ++ [pointer]) (Pointer.segments pointer) target
      if (Reference.of? expanded).isSome then node else expanded := by
  rw [outcome, walkReference _ _ is]
  simp only [Noted.map, followOutcome visit is enters]
  split <;> rfl

theorem visitInduction {motive : List String → List String → Json → Prop}
    (sighted : ∀ {chain location node reference sighting},
      Visits root base chain location node → Reference.of? node = some reference →
      Sights root base chain location reference sighting → motive chain location node)
    (reference : ∀ {chain location node reference pointer target},
      Visits root base chain location node → Reference.of? node = some reference →
      Enters root base chain reference pointer target →
      motive (chain ++ [pointer]) (Pointer.segments pointer) target → motive chain location node)
    (object : ∀ {chain location fields}, Visits root base chain location (.object fields) →
      Reference.of? (.object fields) = none →
      (∀ m ∈ fields, motive chain (location ++ [m.1]) m.2) → motive chain location (.object fields))
    (array : ∀ {chain location items}, Visits root base chain location (.array items) →
      (∀ (index : Nat) item, items[index]? = some item →
        motive chain (location ++ [toString index]) item) → motive chain location (.array items))
    (scalar : ∀ {chain location value}, Scalar value → motive chain location value)
    {part} (visit : Visits root base chain location part) : motive chain location part := by
  -- Induction along the visits: from a reference to its target, from a whole to its parts. The
  -- chain grows from a reference to its target, so the room beside it bounds the one and the size
  -- of the value the other.
  obtain ⟨budget, left⟩ : ∃ budget, budget = room root base chain := ⟨_, rfl⟩
  induction budget using Nat.strongRecOn generalizing chain location part with
  | ind budget next =>
    induction part using Json.ofParts generalizing location with
    | null | bool | number | string => exact scalar ⟨rfl, rfl⟩
    | array items ih =>
      exact array visit fun index item member =>
        ih item (List.mem_of_getElem? member) (visit.deeper (.item member .here))
    | object fields ih =>
      cases is : Reference.of? (.object fields) with
      | none =>
        exact object visit is fun m member => ih m member (visit.deeper (.field is member .here))
      | some text =>
        rcases sightsOrEnters root base chain location text with
          ⟨sighting, sights⟩ | ⟨pointer, target, enters⟩
        · exact sighted visit is sights
        · have spent := roomEnter visit is enters
          exact reference visit is enters (next _ (by omega) (visit.target is enters) rfl)

theorem clearInduction (clear : Clear root base)
    {motive : List String → List String → Json → Prop}
    (reference : ∀ {chain location node reference pointer target},
      Visits root base chain location node → Reference.of? node = some reference →
      Enters root base chain reference pointer target →
      motive (chain ++ [pointer]) (Pointer.segments pointer) target → motive chain location node)
    (object : ∀ {chain location fields}, Visits root base chain location (.object fields) →
      Reference.of? (.object fields) = none →
      (∀ m ∈ fields, motive chain (location ++ [m.1]) m.2) → motive chain location (.object fields))
    (array : ∀ {chain location items}, Visits root base chain location (.array items) →
      (∀ (index : Nat) item, items[index]? = some item →
        motive chain (location ++ [toString index]) item) → motive chain location (.array items))
    (scalar : ∀ {chain location value}, Scalar value → motive chain location value)
    {part} (visit : Visits root base chain location part) : motive chain location part := by
  refine visitInduction (fun visit is sights => ?_) reference object array scalar visit
  obtain ⟨pointer, target, enters⟩ := clear _ _ _ _ visit is
  exact absurd enters sights.notEnters

theorem outcomeKeyed (keyed : root.wellKeyed = true) {part}
    (visit : Visits root base chain location part) :
    (outcome root base chain location part).wellKeyed = true := by
  refine visitInduction (motive := fun chain location part =>
    (outcome root base chain location part).wellKeyed = true)
    ?sighted ?reference ?object ?array ?scalar visit
  case sighted =>
    intro chain location node reference sighting visit is sights
    rw [outcomeSighted is sights]
    exact Json.wellKeyedWithin visit.within keyed
  case reference =>
    intro chain location node reference pointer target visit is enters ih
    rw [outcomeReference visit is enters]
    dsimp only
    split
    · exact Json.wellKeyedWithin visit.within keyed
    · exact ih
  case object =>
    intro chain location fields visit plain ih
    obtain ⟨distinct, -⟩ := Json.wellKeyedObject.mp (Json.wellKeyedWithin visit.within keyed)
    rw [outcomeObject plain, Json.wellKeyedObject, List.forall_mem_map, Fields.keys, List.map_map]
    exact ⟨distinct, ih⟩
  case array =>
    intro chain location items visit ih
    rw [outcomeArray, Json.wellKeyedArray, List.forall_mem_map]
    exact fun i member => ih i.2 i.1 (List.mem_zipIdx_iff_getElem?.mp member)
  case scalar =>
    intro chain location value is
    rw [outcomeScalar is]
    cases value with
    | object => cases is.1
    | array => cases is.2
    | null | bool | number | string => rfl

theorem documentKeyed {fields : Fields Json} (keyed : (Json.object fields).wellKeyed = true)
    (base : String) : (resolve (.object fields) base).document.wellKeyed = true :=
  outcomeKeyed keyed (.root .here)

end
end OpenApi.Resolution
