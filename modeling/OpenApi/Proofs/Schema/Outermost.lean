import OpenApi.Proofs.Schema.ReadBack
/-! Written maps as a whole. The rules look into the entries one by one and find no mark there; but the
name of an entry is a key in the map, and a schema that is given may be called like the mark. -/
namespace OpenApi.Schema

/-- In the written map the mark is the name of an entry, if it occurs, and then one of the names that
were given. -/
structure MarkedByName (map : Map) (given : List String) : Prop where
  entries : ∀ m ∈ map.entries, ¬ m.2.toJson.HasKey Reference.key
  named : map.toJson.HasKey Reference.key ↔ Reference.key ∈ map.names
  marked : map.toJson.HasKey Reference.key ↔ Reference.key ∈ given
  found : findReference? map.toJson = none ↔ Reference.key ∉ given

theorem markedByName {map : Map} {given : List String} (valid : Valid map.entries)
    (names : Reference.key ∈ map.names ↔ Reference.key ∈ given) : MarkedByName map given := by
  have entries : ∀ m ∈ map.entries, ¬ m.2.toJson.HasKey Reference.key := by
    intro m member marked
    have found := findReferenceSome.mpr marked
    simp [valid.resolved m member] at found
  have keys : Fields.keys (map.entries.map fun e => (e.1, e.2.toJson)) = map.names := by
    simp [Map.names, Fields.keys]
  have named : map.toJson.HasKey Reference.key ↔ Reference.key ∈ map.names := by
    rw [Map.toJson, Json.hasKeyObject, keys]
    refine or_iff_left ?_
    rintro ⟨member, listed, marked⟩
    obtain ⟨m, among, rfl⟩ := List.mem_map.mp listed
    exact entries m among marked
  refine ⟨entries, named, named.trans names, ?_⟩
  rw [← Option.not_isSome_iff_eq_none, findReferenceSome, named, names]

theorem reservedApart {names reserved : Names} {keys : List String}
    (ok : reserveAll names keys = .ok reserved) :
    keys.Nodup ∧ ∀ key ∈ keys, key ≠ "" ∧ key ∉ names.taken := by
  induction keys generalizing names with
  | nil => simp
  | cons key rest ih =>
    unfold reserveAll at ok
    split at ok
    · cases ok
    · rename_i named
      unfold Names.reserve? at ok
      by_cases taken : names.isTaken key = true
      · simp [taken] at ok
      · simp only [taken, Bool.false_eq_true, ↓reduceIte] at ok
        obtain ⟨distinct, others⟩ := ih ok
        refine ⟨List.nodup_cons.mpr ⟨fun again => ?_, distinct⟩, ?_⟩
        · exact (others key again).2 List.mem_cons_self
        · refine List.forall_mem_cons.mpr ⟨⟨by simpa using named, ?_⟩, fun other among => ?_⟩
          · simpa [Names.isTaken] using taken
          · exact ⟨(others other among).1, List.not_mem_of_not_mem_cons (others other among).2⟩

theorem extractNames {document : Json} {levels : Nat} {map : Map}
    (ok : extract document levels = .ok map) :
    Fields.keys ((components? document).getD []) ⊆ map.names ∧
      ∀ name ∈ map.names,
        name ∈ Fields.keys ((components? document).getD []) ∨ Coined name := by
  obtain ⟨entries, made, -, rfl⟩ := extractEntries ok
  obtain ⟨_, reserved, -⟩ := exceptBind made
  obtain ⟨distinct, others⟩ := reservedApart reserved
  have outcome := entriesNamed levels distinct fun empty => (others "" empty).1 rfl
  rw [made] at outcome
  obtain ⟨origins, built⟩ := entriesBuilt made
  rw [ofEntriesNames]
  exact ⟨built.names ▸ built.declared, outcome.coined⟩

theorem readKeys {α : Type} {read : Json → Json.Decoded α} {fields : Fields Json} {made : Fields α}
    (each : List.Forall₂ (fun f m => m.1 = f.1 ∧ read f.2 = .ok m.2) fields made) :
    Fields.keys made = Fields.keys fields := by
  induction each with
  | nil => rfl
  | cons one _ ih => exact congrArg₂ List.cons one.1 ih

theorem ofJsonNames {value : Json} {map : Map} (ok : Map.ofJson value = .ok map) :
    Valid map.entries ∧ ∃ fields, value = .object fields ∧ map.names = Fields.keys fields := by
  obtain ⟨read, valid⟩ := ofJsonOk.mp ok
  obtain ⟨fields, is, each⟩ := fieldsRead read
  exact ⟨valid, fields, is, readKeys each⟩

theorem markGivenAsName (document value : Json) (levels : Nat) :
    (∀ map, extract document levels = .ok map →
      MarkedByName map (Fields.keys ((components? document).getD []))) ∧
    ∀ map, Map.ofJson value = .ok map →
      ∃ fields, value = .object fields ∧ MarkedByName map (Fields.keys fields) := by
  constructor
  · intro map ok
    obtain ⟨declared, either⟩ := extractNames ok
    refine markedByName (extractValid ok).1 ⟨fun among => ?_, fun among => declared among⟩
    exact (either _ among).resolve_right fun coined => coinedUnmarked coined rfl
  · intro map ok
    obtain ⟨valid, fields, is, names⟩ := ofJsonNames ok
    exact ⟨fields, is, markedByName valid (by rw [names])⟩

def soleDocument (name : String) : Json :=
  .object [("components", .object [("schemas", .object [
    (name, .object [("type", .string "string")])])])]

def soleInOrder (name : String) : Json :=
  .object [(name, .array [.string name, .string "object"])]

theorem soleUnmarked :
    (∃ map back, extract (soleDocument "ref") defaultDepth = .ok map ∧ map.names = ["ref"] ∧
      Map.ofJson map.toJson = .ok back ∧ findReference? map.toJson = none ∧
      findReference? back.toJson = none) ∧
    ∃ map, Map.ofJson (soleInOrder "ref") = .ok map ∧ findReference? map.toJson = none := by
  constructor
  · have names : (extract (soleDocument "ref") defaultDepth).toOption.map Map.names =
        some ["ref"] := by decide +kernel
    obtain ⟨map, ok, named⟩ := evaluated names
    have read := mapReadBack (extractValid ok).1 (extractValid ok).2
    obtain ⟨extracted, reads⟩ := markGivenAsName (soleDocument "ref") map.toJson defaultDepth
    obtain ⟨fields, is, marks⟩ := reads _ read
    have keys : Fields.keys fields = map.names := by
      cases is
      simp [Map.names, Fields.keys]
    refine ⟨map, _, ok, named, read, (extracted map ok).found.mpr (by decide), ?_⟩
    rw [marks.found, keys, named]
    decide
  · have names : (Map.ofJson (soleInOrder "ref")).toOption.map Map.names = some ["ref"] := by
      decide +kernel
    obtain ⟨map, ok, -⟩ := evaluated names
    obtain ⟨fields, is, marks⟩ :=
      (markGivenAsName (soleDocument "ref") (soleInOrder "ref") defaultDepth).2 map ok
    cases is
    exact ⟨map, ok, marks.found.mpr (by decide)⟩

theorem soleMarked :
    ¬ ((∀ document levels map, extract document levels = .ok map →
        findReference? map.toJson = none) ∧
      ∀ value map, Map.ofJson value = .ok map → findReference? map.toJson = none) := by
  rintro ⟨all, -⟩
  have marked : (extract (soleDocument "$ref") defaultDepth).toOption.map (fun map =>
      (findReference? map.toJson).isSome) = some true := by decide +kernel
  obtain ⟨map, ok, found⟩ := evaluated marked
  simp [all _ _ map ok] at found

end OpenApi.Schema
