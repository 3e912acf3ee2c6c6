import OpenApi.Proofs.Schema.Contract
import OpenApi.Proofs.Schema.Decoding
/-! Extracted maps written and read back. All of a map comes back in its order, up to a default or an
example that is null: it is written as null, and null is read as a value that is absent. -/
namespace OpenApi.Schema

def Map.withoutNull (m : Map) : Map := ⟨m.entries.map fun e => (e.1, e.2.withoutNull)⟩

def Entry.NullFree (e : Entry) : Prop :=
  e.fallback ≠ some .null ∧ e.sample ≠ some .null ∧ ∀ p ∈ e.properties, p.2.fallback ≠ some .null
instance (e : Entry) : Decidable e.NullFree := by unfold Entry.NullFree; infer_instance

def Map.NullFree (m : Map) : Prop := ∀ e ∈ m.entries, e.2.NullFree
instance (m : Map) : Decidable m.NullFree := by unfold Map.NullFree; infer_instance

theorem fieldsSame {α : Type} {f : α → α} {holds : α → Prop} (same : ∀ a, f a = a ↔ holds a)
    (fields : Fields α) :
    (fields.map fun m => (m.1, f m.2)) = fields ↔ ∀ m ∈ fields, holds m.2 := by
  induction fields with
  | nil => simp
  | cons m rest ih =>
    rw [List.map_cons, List.cons.injEq, ih, List.forall_mem_cons, ← same, Prod.mk.injEq]
    simp

theorem propertyNullFree (p : Property) : p.withoutNull = p ↔ p.fallback ≠ some .null := by
  rw [← Json.Decode.nonNullSame]
  constructor
  · exact fun same => congrArg Property.fallback same
  · intro same
    unfold Property.withoutNull
    rw [same]

theorem entryNullFree (e : Entry) : e.withoutNull = e ↔ e.NullFree := by
  constructor
  · intro same
    have fallback := congrArg Entry.fallback same
    have sample := congrArg Entry.sample same
    have properties := congrArg Entry.properties same
    exact ⟨Json.Decode.nonNullSame.mp fallback, Json.Decode.nonNullSame.mp sample,
      (fieldsSame propertyNullFree _).mp properties⟩
  · rintro ⟨fallback, sample, properties⟩
    unfold Entry.withoutNull
    rw [Json.Decode.nonNullSame.mpr fallback, Json.Decode.nonNullSame.mpr sample,
      (fieldsSame propertyNullFree _).mpr properties]

theorem mapNullFree (m : Map) : m.withoutNull = m ↔ m.NullFree := by
  have entries : m.withoutNull.entries = m.entries ↔ m.NullFree := fieldsSame entryNullFree _
  rw [← entries]
  constructor
  · exact fun same => congrArg Map.entries same
  · exact fun same => congrArg Map.mk same

theorem nonNullCarried {value : Option Json} {v : Json}
    (among : v ∈ (Json.Decode.nonNull value).toList) : v ∈ value.toList := by
  have kept := Option.mem_toList.mp among
  exact Option.mem_toList.mpr (Option.filter_eq_some_iff.mp kept).1

theorem withoutNullCarried (e : Entry) : e.withoutNull.carried ⊆ e.carried := by
  have properties : (e.withoutNull.properties.flatMap (·.2.carried)) ⊆
      e.properties.flatMap (·.2.carried) := by
    intro value among
    obtain ⟨p', member, carried⟩ := List.mem_flatMap.mp among
    obtain ⟨p, listed, rfl⟩ := List.mem_map.mp member
    refine List.mem_flatMap.mpr ⟨p, listed, ?_⟩
    exact (List.mem_append.mp carried).elim (List.mem_append_left _)
      fun given => List.mem_append_right _ (nonNullCarried given)
  intro value among
  simp only [Entry.carried, List.mem_append] at among ⊢
  rcases among with ((listed | fallback) | sample) | property
  · exact .inl (.inl (.inl listed))
  · exact .inl (.inl (.inr (nonNullCarried fallback)))
  · exact .inl (.inr (nonNullCarried sample))
  · exact .inr (properties property)

theorem withoutNullNames (e : Entry) : e.withoutNull.names = e.names := by
  simp [Entry.names, Entry.withoutNull, List.flatMap_map, Property.withoutNull]

theorem withoutNullUnmarked {e : Entry} (unmarked : findReference? e.toJson = none) :
    findReference? e.withoutNull.toJson = none := by
  rw [← Option.not_isSome_iff_eq_none, findReferenceSome, entryMarked] at unmarked ⊢
  rintro (property | ⟨value, carried, has⟩)
  · refine unmarked (.inl ?_)
    simpa [Entry.withoutNull, Fields.keys] using property
  · exact unmarked (.inr ⟨value, withoutNullCarried e carried, has⟩)

theorem withoutNullValid {m : Map} (valid : Valid m.entries) : Valid m.withoutNull.entries := by
  have keys : Fields.keys m.withoutNull.entries = Fields.keys m.entries := by
    simp [Map.withoutNull, Fields.keys]
  constructor
  case distinct => exact keys ▸ valid.distinct
  case named =>
    intro e' member
    obtain ⟨e, among, rfl⟩ := List.mem_map.mp member
    exact valid.named e among
  case resolved =>
    intro e' member
    obtain ⟨e, among, rfl⟩ := List.mem_map.mp member
    exact withoutNullUnmarked (valid.resolved e among)
  case closed =>
    intro e' member
    obtain ⟨e, among, rfl⟩ := List.mem_map.mp member
    rw [keys, withoutNullNames]
    exact valid.closed e among

theorem fieldsRead {α : Type} {read : Json → Json.Decoded α} {value : Json} {made : Fields α}
    (ok : Json.Decode.fieldsOf read value = .ok made) :
    ∃ fields, value = .object fields ∧
      List.Forall₂ (fun f m => m.1 = f.1 ∧ read f.2 = .ok m.2) fields made := by
  obtain ⟨fields, is, each⟩ := exceptBind ok
  cases value <;> cases is
  refine ⟨fields, rfl, ?_⟩
  clear ok
  induction fields generalizing made with
  | nil =>
    cases each
    exact .nil
  | cons field rest ih =>
    rw [List.mapM_cons] at each
    obtain ⟨first, one, more⟩ := exceptBind each
    obtain ⟨value, given, is⟩ := exceptBind one
    obtain ⟨others, later, all⟩ := exceptBind more
    cases is
    cases all
    exact .cons ⟨rfl, given⟩ (ih later)

theorem ofJsonOk {value : Json} {m : Map} :
    Map.ofJson value = .ok m ↔
      Json.Decode.fieldsOf Entry.read value = .ok m.entries ∧ Valid m.entries := by
  constructor
  · intro ok
    unfold Map.ofJson at ok
    split at ok
    · cases ok
    · rename_i read
      split at ok
      · cases ok
      · rename_i passed
        cases ok
        exact ⟨read, validateOk.mp passed⟩
  · rintro ⟨read, valid⟩
    simp only [Map.ofJson, read, validateOk.mpr valid]

theorem mapReadBack {m : Map} (valid : Valid m.entries)
    (distinct : ∀ e ∈ m.entries, e.2.required.Nodup) :
    Map.ofJson m.toJson = .ok m.withoutNull :=
  ofJsonOk.mpr ⟨fieldsBack fun e member => Entry.readBack (distinct e member), withoutNullValid valid⟩

theorem extractValid {document : Json} {levels : Nat} {map : Map}
    (ok : extract document levels = .ok map) :
    Valid map.entries ∧ ∀ e ∈ map.entries, e.2.required.Nodup := by
  obtain ⟨entries, built, valid, rfl⟩ := extractEntries ok
  refine ⟨valid, fun m member => ?_⟩
  obtain ⟨origins, images⟩ := entriesBuilt built
  obtain ⟨entry, among, rfl⟩ := List.mem_map.mp member
  obtain ⟨o, -, inside, image⟩ := images.images entry among
  exact (imageCarries (insideComponents document) inside image).distinct

theorem extractReadBack {document : Json} {levels : Nat} {map : Map}
    (ok : extract document levels = .ok map) :
    Map.ofJson map.toJson = .ok map.withoutNull ∧
      (Map.ofJson map.toJson = .ok map ↔ map.NullFree) := by
  obtain ⟨valid, distinct⟩ := extractValid ok
  have back := mapReadBack valid distinct
  refine ⟨back, ?_⟩
  rw [back, ← mapNullFree]
  exact ⟨fun same => Except.ok.inj same, fun same => congrArg Except.ok same⟩

def valuedDocument : Json :=
  .object [("components", .object [("schemas", .object [
    ("Pet", .object [
      ("required", .array [.string "tag"]),
      ("example", .object [("tag", .null)]),
      ("properties", .object [
        ("tag", .object [("enum", .array [.null, .string "a"]), ("default", .array [])]),
        ("age", .object [("type", .string "integer"), ("minimum", .number (.int 0))])])]),
    ("Pets", .object [("items", .object [("$ref", .string "#/components/schemas/Pet")])])])])]

theorem valuesReadBack :
    ∃ map, extract valuedDocument defaultDepth = .ok map ∧ map.names = ["Pet", "Pets"] ∧
      Map.ofJson map.toJson = .ok map := by
  have names : (extract valuedDocument defaultDepth).toOption.map
      (fun map => (map.names, decide map.NullFree)) = some (["Pet", "Pets"], true) := by
    decide +kernel
  obtain ⟨map, ok, found⟩ := evaluated names
  simp only [Prod.mk.injEq, decide_eq_true_eq] at found
  exact ⟨map, ok, found.1, (extractReadBack ok).2.mpr found.2⟩

def nullDocument : Json :=
  .object [("components", .object [("schemas", .object [
    ("A", .object [("type", .string "string"), ("default", .null)])])])]

theorem nullDefaultLost :
    ∃ map back, extract nullDocument defaultDepth = .ok map ∧ Map.ofJson map.toJson = .ok back ∧
      (map.get? "A").map Entry.fallback = some (some .null) ∧
      (back.get? "A").map Entry.fallback = some none ∧ back ≠ map := by
  have defaults : ((extract nullDocument defaultDepth).toOption.bind fun map =>
      (Map.ofJson map.toJson).toOption.map fun back =>
        ((map.get? "A").map Entry.fallback, (back.get? "A").map Entry.fallback)) =
      some (some (some .null), some none) := by
    decide +kernel
  cases ok : extract nullDocument defaultDepth with
  | error breach => simp [ok, Except.toOption] at defaults
  | ok map =>
    cases read : Map.ofJson map.toJson with
    | error failure => simp [ok, read, Except.toOption] at defaults
    | ok back =>
      simp only [ok, read, Except.toOption, Option.bind_some, Option.map_some, Option.some.injEq,
        Prod.mk.injEq] at defaults
      refine ⟨map, back, rfl, read, defaults.1, defaults.2, ?_⟩
      rintro rfl
      simp [defaults.1] at defaults

end OpenApi.Schema
