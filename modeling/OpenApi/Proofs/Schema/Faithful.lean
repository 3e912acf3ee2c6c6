import OpenApi.Proofs.Schema.Entries
import OpenApi.Proofs.Schema.Fresh
import OpenApi.Proofs.Schema.Integrity
/-! A schema map is faithful to its document: there is a source under which every entry is the image
of a part of the document, and which gives the declared schemas and the bodies their own nodes. -/
namespace OpenApi.Schema

def BodyName (source : Source) (levels : Nat) (body : Body) (name : String) : Prop :=
  Derived body.baseName name ∧ source name ⟨body.schema, levels⟩

/-- The names of the map are exactly those with an origin, an origin is a part of the document, and
the entry of a name is the image of its origin. A name at any depth of a slot has a node of its own in
the node of the slot, which it denotes. -/
structure Faithful (document : Json) (levels : Nat) (map : Map) (source : String → Option Origin) :
    Prop where
  distinct : map.names.Nodup
  covers : ∀ name, (source name).isSome ↔ name ∈ map.names
  inside : ∀ {name origin}, source name = some origin → origin.node.Within document
  declared : ∀ m ∈ (components? document).getD [], source m.1 = some ⟨m.2, levels⟩
  bodies : ∃ names, (Fields.keys ((components? document).getD []) ++ names).Sublist map.names ∧
    List.Forall₂ (BodyName (fun name origin => source name = some origin) levels)
      (Body.collect ((components? document).getD []) document) names
  images : ∀ m ∈ map.entries, ∃ origin, source m.1 = some origin ∧
    Image ((components? document).getD []) (fun name origin => source name = some origin)
      origin.levels m.1 origin.node m.2
  slots : ∀ m ∈ map.entries, ∀ {origin part slot}, source m.1 = some origin →
    Slotted ((components? document).getD []) m.1 origin.node m.2 part slot →
    (∀ name ∈ slot.names, ∃ inner, Held part slot inner name) ∧
    ∀ {inner name}, Held part slot inner name →
      Denotes ((components? document).getD []) (fun name origin => source name = some origin) inner name

namespace Build
variable {components : Fields Json} {document : Json} {levels : Nat} {p q : Progress}

theorem imagesNames {source : Source} {origins entries}
    (images : Images components source origins entries) :
    entries.map Entry.name = Fields.keys origins := by
  induction images with
  | nil => rfl
  | cons image _ ih => exact congrArg₂ List.cons image.name ih

theorem imageOrigin {source : Source} {origins entries}
    (images : Images components source origins entries) {entry} (member : entry ∈ entries) :
    ∃ o ∈ origins, Image components source o.2.levels o.1 o.2.node entry := by
  induction images with
  | nil => cases member
  | cons image _ ih =>
    obtain rfl | later := List.mem_cons.mp member
    · exact ⟨_, List.mem_cons_self, image⟩
    · obtain ⟨o, among, found⟩ := ih later
      exact ⟨o, List.mem_cons_of_mem _ among, found⟩

theorem declaredMakes (declared : Inside document components) {fields : Fields Json}
    (inside : Inside document fields) :
    Meets (fun _ => True) (buildDeclared components levels fields) p fun entries q =>
      ∃ origins, (Fields.keys fields).Sublist (Fields.keys origins) ∧
        Traced components document p.recursive q.recursive origins entries fun source =>
          ∀ m ∈ fields, source m.1 ⟨m.2, levels⟩ := by
  induction fields generalizing p with
  | nil => exact .pure ⟨[], .slnil, .still fun _ _ => by simp⟩
  | cons field rest ih =>
    obtain ⟨name, node⟩ := field
    have ⟨first, later⟩ := List.forall_mem_cons.mp inside
    unfold buildDeclared
    refine Meets.bind (normalizeMakes declared levels first name) fun entries q made => ?_
    obtain ⟨inner, traced⟩ := made
    refine Meets.bind (ih later) fun others r ended => ?_
    obtain ⟨origins, listed, more⟩ := ended
    refine .pure ⟨_, ?_, traced.both more fun _ own others => ?_⟩
    case refine_2 => exact List.forall_mem_cons.mpr ⟨own, others⟩
    rw [Fields.keys, Fields.keys, List.map_append]
    exact (listed.trans (List.sublist_append_right _ _)).cons_cons name

theorem bodiesMakes (declared : Inside document components) {bodies : List Body}
    (inside : ∀ body ∈ bodies, body.schema.Within document) :
    Meets (fun _ => True) (buildBodies components levels bodies) p fun entries q =>
      ∃ origins names, List.Sublist names (Fields.keys origins) ∧
        Traced components document p.recursive q.recursive origins entries fun source =>
          List.Forall₂ (BodyName source levels) bodies names := by
  induction bodies generalizing p with
  | nil => exact .pure ⟨[], [], .slnil, .still fun _ _ => .nil⟩
  | cons body rest ih =>
    have ⟨first, later⟩ := List.forall_mem_cons.mp inside
    unfold buildBodies
    refine Meets.bind (allocateMeets body.baseName) fun name q allocated => ?_
    obtain ⟨fresh, rfl⟩ := allocated
    refine Meets.bind (normalizeMakes declared levels first name) fun entries r made => ?_
    obtain ⟨inner, traced⟩ := made
    refine Meets.bind (ih later) fun others s ended => ?_
    obtain ⟨origins, names, listed, more⟩ := ended
    have derived : Derived body.baseName name := fresh ▸ freshDerived _ _
    refine .pure ⟨_, name :: names, ?_,
      traced.both more fun _ own names => .cons ⟨derived, own⟩ names⟩
    rw [Fields.keys, List.map_append]
    exact (listed.trans (List.sublist_append_right _ _)).cons_cons name

theorem rootsMake (declared : Inside document components) {bodies : List Body}
    (inside : ∀ body ∈ bodies, body.schema.Within document) :
    Meets (fun _ => True) (do
        let declared ← buildDeclared components levels components
        return declared ++ (← buildBodies components levels bodies)) p fun entries q =>
      ∃ origins names, (Fields.keys components ++ names).Sublist (Fields.keys origins) ∧
        Traced components document p.recursive q.recursive origins entries fun source =>
          (∀ m ∈ components, source m.1 ⟨m.2, levels⟩) ∧
          List.Forall₂ (BodyName source levels) bodies names := by
  refine Meets.bind (declaredMakes declared declared) fun first q ended => ?_
  obtain ⟨origins, listed, traced⟩ := ended
  refine Meets.bind (bodiesMakes declared inside) fun later r ended => ?_
  obtain ⟨others, names, more, rest⟩ := ended
  refine .pure ⟨origins ++ others, names, ?_, traced.both rest fun _ => .intro⟩
  rw [Fields.keys, Fields.keys, List.map_append]
  exact listed.append more

end Build

theorem extractFaithful {document : Json} {levels : Nat} {map : Map}
    (ok : extract document levels = .ok map) : ∃ source, Faithful document levels map source := by
  obtain ⟨entries, built, rest⟩ := exceptBind ok
  obtain ⟨⟨⟩, passed, same⟩ := exceptBind rest
  cases same
  obtain ⟨reserved, -, rest⟩ := exceptBind built
  obtain ⟨⟨_, q⟩, run, same⟩ := exceptBind rest
  cases same
  have declared := insideComponents document
  obtain ⟨origins, names, listed, traced⟩ :=
    (Build.rootsMake declared fun _ => insideBodies).ended run
  have fresh (source : Source) : Build.Remembers source [] := by simp [Build.Remembers]
  -- Even a source that gives one name to several nodes has every entry under its own name.
  have named : (Map.ofEntries entries).names = Fields.keys origins := by
    obtain ⟨-, images, -⟩ := traced.holds (fun name origin => (name, origin) ∈ origins)
      (fun _ member => member) (fresh _)
    rw [← Build.imagesNames images]
    simp [Map.names, Map.ofEntries, Fields.keys]
  have distinct : (Fields.keys origins).Nodup := named ▸ (validateOk.mp passed).distinct
  obtain ⟨-, images, known, bodies⟩ := traced.holds
    (fun name origin => Fields.get? name origins = some origin)
    (fun _ member => Fields.getOfMember distinct member) (fresh _)
  have each : ∀ m ∈ (Map.ofEntries entries).entries, ∃ origin,
      Fields.get? m.1 origins = some origin ∧ Image ((components? document).getD [])
        (fun name origin => Fields.get? name origins = some origin) origin.levels m.1 origin.node
        m.2 := by
    intro m member
    obtain ⟨entry, among, rfl⟩ := List.mem_map.mp member
    obtain ⟨o, origin, image⟩ := Build.imageOrigin images among
    have found := Fields.getOfMember distinct origin
    rw [← image.name] at found image
    exact ⟨o.2, found, image⟩
  refine ⟨(Fields.get? · origins), ?_⟩
  constructor
  case distinct => exact named ▸ distinct
  case covers => exact fun name => named ▸ Fields.getSome
  case inside => exact fun found => traced.inside _ (Fields.getMember found)
  case declared => exact known
  case bodies => exact ⟨names, named ▸ listed, bodies⟩
  case images => exact each
  case slots =>
    intro m member origin part slot found slotted
    obtain ⟨_, given, image⟩ := each m member
    cases found.symm.trans given
    have slotImage := image.slotted slotted
    exact ⟨namesHeld slotImage, fun held => heldDenotes held slotImage⟩

def toPet : Json := .object [("$ref", .string "#/components/schemas/Pet")]

def petDocument : Json :=
  .object [
    ("paths", .object [("/pets", .object [("post", .object [("requestBody", .object [("content",
      .object [("application/json", .object [("schema",
        .object [("oneOf", .array [.object [("type", .string "string")], toPet])])])])])])])]),
    ("components", .object [("schemas", .object [
      ("Pet", .object [
        ("required", .array [.string "owner"]),
        ("properties", .object [
          ("owner", .object [("properties", .object [("pets", .object [("items", toPet)])])]),
          ("age", .object [("type", .string "integer"), ("minimum", .number (.int 0))])])]),
      ("Dog", .object [("allOf", .array [toPet,
        .object [("properties", .object [("tags", .object [("type", .string "object"),
          ("additionalProperties", .object [("type", .string "string")])])])]])]),
      ("Pets", .object [("items", toPet), ("description", .string "all")])])])]

def petProperties : Fields Json :=
  [("owner", .object [("type", .string "schema"), ("name", .string "PetOwner"),
      ("required", .bool true)]),
    ("age", .object [("type", .string "integer"), ("required", .bool false),
      ("constraints", .object [("minimum", .number (.int 0))])])]

def petMap : Json :=
  .object [
    ("Pet", .object [("name", .string "Pet"), ("kind", .string "object"),
      ("properties", .object petProperties), ("required", .array [.string "owner"])]),
    ("PetOwner", .object [("name", .string "PetOwner"), ("kind", .string "object"),
      ("properties", .object [("pets", .object [("type", .string "array"),
        ("items", .object [("type", .string "schema"), ("name", .string "Pet")]),
        ("required", .bool false)])])]),
    ("Dog", .object [("name", .string "Dog"), ("kind", .string "object"),
      ("properties", .object (petProperties ++ [("tags", .object [("type", .string "map"),
        ("values", .object [("type", .string "string")]), ("required", .bool false)])])),
      ("required", .array [.string "owner"])]),
    ("Pets", .object [("name", .string "Pets"), ("kind", .string "array"),
      ("items", .object [("type", .string "schema"), ("name", .string "Pet")]),
      ("description", .string "all")]),
    ("PostPetsRequestSchema", .object [("name", .string "PostPetsRequestSchema"),
      ("kind", .string "union"), ("composition", .object [("kind", .string "oneOf"),
        ("memberNames", .array [.string "PostPetsRequestSchemaOption1",
          .string "PostPetsRequestSchemaOption2"])])]),
    ("PostPetsRequestSchemaOption1", .object [("name", .string "PostPetsRequestSchemaOption1"),
      ("kind", .string "primitive"), ("dataType", .object [("type", .string "string")])]),
    ("PostPetsRequestSchemaOption2", .object [("name", .string "PostPetsRequestSchemaOption2"),
      ("kind", .string "primitive"),
      ("dataType", .object [("type", .string "schema"), ("name", .string "Pet")])])]

theorem petMapFaithful :
    ∃ map source, extract petDocument defaultDepth = .ok map ∧ map.toJson = petMap ∧
      (map.get? "Dog").map (fun e => e.properties.map fun p => (p.1, p.2.slot, p.2.required)) =
        some [("owner", .schema "PetOwner", true), ("age", .integer, false),
          ("tags", .map .string, false)] ∧
      Faithful petDocument defaultDepth map source := by
  have written : (extract petDocument defaultDepth).toOption.map Map.toJson = some petMap := by
    decide +kernel
  have properties : (extract petDocument defaultDepth).toOption.map (fun map =>
      (map.get? "Dog").map fun e => e.properties.map fun p => (p.1, p.2.slot, p.2.required)) =
      some (some [("owner", .schema "PetOwner", true), ("age", .integer, false),
        ("tags", .map .string, false)]) := by
    decide +kernel
  obtain ⟨map, ok, is⟩ := evaluated written
  obtain ⟨source, faithful⟩ := extractFaithful ok
  rw [ok] at properties
  exact ⟨map, source, ok, is, Option.some.inj properties, faithful⟩

end OpenApi.Schema
