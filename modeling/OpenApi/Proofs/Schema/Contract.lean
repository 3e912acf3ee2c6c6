import OpenApi.Proofs.Schema.Carried
import OpenApi.Proofs.Schema.Faithful
import OpenApi.Proofs.Schema.Opened
import OpenApi.Proofs.Schema.Sites
/-! An extraction keeps the rules of names by itself: it fails where a declared name is empty or a
reference is left, and nowhere else. -/
namespace OpenApi.Schema
open Resolution (HasReference)

section
variable {components : Fields Json} {source : Source} {levels : Nat} {name : String} {node : Json}

def Known (components : Fields Json) (source : Source) (name : String) : Prop :=
  name ∈ Fields.keys components ∨ ∃ origin, source name origin

theorem declaredKnown {reference target} (declares :
    declared? components reference = some (name, target)) : Known components source name :=
  .inl (Fields.getSome.mp (by rw [declaredMember declares]; rfl))

theorem slotKnown {slot} (image : SlotImage components source levels node slot) :
    ∀ name ∈ slot.names, Known components source name := by
  induction image with
  | reference is declares =>
    intro name among
    cases List.mem_singleton.mp among
    exact declaredKnown declares
  | structured plain needs deeper origin =>
    intro name among
    cases List.mem_singleton.mp among
    exact .inr ⟨_, origin⟩
  | bounded => split <;> simp [Slot.names]
  | array _ _ _ _ ih | map _ _ _ _ _ ih => exact ih
  | arrayOfAny | object => simp [Slot.names]
  | plain => simp [plainSlotUnnamed]

theorem propertiesKnown {required : List String} {declared : Fields Json}
    {properties : Fields Property}
    (images : List.Forall₂ (PropertyImage components source levels required) declared properties) :
    ∀ p ∈ properties, ∀ name ∈ p.2.slot.names, Known components source name := by
  induction images with
  | nil => simp
  | cons image _ ih =>
    exact List.forall_mem_cons.mpr ⟨slotKnown image.slot, ih⟩

theorem objectKnown {declared required entry}
    (image : ObjectImage components source levels node declared required entry) :
    ∀ name ∈ entry.names, Known components source name := by
  have values : ∀ name ∈ entry.dataType.elim [] Slot.names, Known components source name := by
    have values := image.dataType
    generalize entry.dataType = dataType at values
    cases values with
    | given _ _ image => simpa [Slot.names] using slotKnown image
    | closed => simp
  simp only [Entry.names, image.items, image.composition, Option.elim_none, List.append_nil]
  refine List.forall_mem_append.mpr ⟨?_, values⟩
  intro name among
  obtain ⟨p, member, named⟩ := List.mem_flatMap.mp among
  exact propertiesKnown image.properties p member name named

theorem optionsKnown {members names}
    (options : List.Forall₂ (fun member name => source name ⟨member, levels⟩) members names) :
    ∀ name ∈ names, Known components source name := by
  induction options with
  | nil => simp
  | cons origin _ ih => exact List.forall_mem_cons.mpr ⟨.inr ⟨_, origin⟩, ih⟩

theorem imageKnown {entry} (image : Image components source levels name node entry) :
    ∀ name ∈ entry.names, Known components source name := by
  cases image.form with
  | reference is declares holds =>
    simpa [Entry.names, holds.properties, holds.items, holds.dataType, holds.composition, Slot.names]
      using declaredKnown declares
  | merged _ _ _ object | object _ _ object => exact objectKnown object
  | union _ _ _ options holds =>
    simpa [Entry.names, holds.properties, holds.items, holds.dataType, holds.composition]
      using optionsKnown options
  | @array slot _ _ _ items holds =>
    have known : ∀ name ∈ slot.names, Known components source name := by
      cases items with
      | given _ image => exact slotKnown image
      | absent => simp [Slot.names]
    simpa [Entry.names, holds.properties, holds.items, holds.dataType, holds.composition] using known
  | primitive _ _ _ holds =>
    simp [Entry.names, holds.properties, holds.items, holds.dataType, holds.composition,
      plainSlotUnnamed]

end

theorem reservesAll {names : Names} {keys : List String} (distinct : keys.Nodup)
    (free : ∀ key ∈ keys, key ∉ names.taken) :
    reserveAll names keys =
      if "" ∈ keys then .error .emptyName else .ok ⟨keys.reverse ++ names.taken⟩ := by
  induction keys generalizing names with
  | nil => simp [reserveAll]
  | cons key rest ih =>
    obtain ⟨apart, others⟩ := List.nodup_cons.mp distinct
    have ⟨first, later⟩ := List.forall_mem_cons.mp free
    unfold reserveAll
    by_cases empty : key = ""
    · simp [empty]
    · have reserved : names.reserve? key = some (names.take key) := by
        simp [Names.reserve?, Names.isTaken, first]
      have still : ∀ other ∈ rest, other ∉ (names.take key).taken := by
        intro other among
        refine List.not_mem_cons_of_ne_of_not_mem (fun same => ?_) (later other among)
        exact apart (same ▸ among)
      simpa [empty, reserved, Names.take, Ne.symm empty] using ih others still

structure Built (components : Fields Json) (document : Json) (origins : Fields Origin)
    (entries : List Entry) : Prop where
  declared : Fields.keys components ⊆ Fields.keys origins
  names : entries.map Entry.name = Fields.keys origins
  images : ∀ entry ∈ entries, ∃ o ∈ origins, o.2.node.Within document ∧
    Image components (fun name origin => (name, origin) ∈ origins) o.2.levels o.1 o.2.node entry

section
variable {document : Json} {entries : List Entry}

theorem entriesBuilt {levels} (ok : entriesOf document levels = .ok entries) :
    ∃ origins, Built ((components? document).getD []) document origins entries := by
  obtain ⟨reserved, -, rest⟩ := exceptBind ok
  obtain ⟨⟨_, q⟩, run, same⟩ := exceptBind rest
  cases same
  obtain ⟨origins, names, listed, traced⟩ :=
    (Build.rootsMake (insideComponents document) fun _ => insideBodies).ended run
  obtain ⟨-, images, -⟩ := traced.holds (fun name origin => (name, origin) ∈ origins)
    (fun _ member => member) (by simp [Build.Remembers])
  refine ⟨origins, fun name among => ?_, Build.imagesNames images, fun entry among => ?_⟩
  · exact listed.subset (List.mem_append_left _ among)
  · obtain ⟨o, origin, image⟩ := Build.imageOrigin images among
    exact ⟨o, origin, traced.inside o origin, image⟩

theorem Build.meetsYields {α : Type} {cause : Prop} {m : Build α} {p : Progress} {post : α → Progress → Prop}
    {holds : α → Prop} (meets : Build.Meets (Blames cause) m p post)
    (ended : ∀ a q, post a q → holds a) :
    Yields cause holds (do let (a, _) ← m.run p; return a) := by
  unfold Build.Meets at meets
  cases run : m.run p with
  | ok r =>
    rw [run] at meets
    exact ended r.1 r.2 meets
  | error breach =>
    rw [run] at meets
    exact meets

theorem declaredDistinct (keyed : document.wellKeyed = true) :
    (Fields.keys ((components? document).getD [])).Nodup := by
  cases found : components? document with
  | none => simp [Fields.keys]
  | some fields =>
    exact (Json.wellKeyedObject.mp (Json.wellKeyedWithin (componentsWithin found) keyed)).1

theorem entriesUnnamed (levels : Nat)
    (distinct : (Fields.keys ((components? document).getD [])).Nodup)
    (empty : "" ∈ Fields.keys ((components? document).getD [])) :
    entriesOf document levels = .error .emptyName := by
  unfold entriesOf
  dsimp only
  rw [reservesAll distinct (by simp [Names.empty]), if_pos empty]
  rfl

theorem bodyStem {components : Fields Json} {body : Body}
    (listed : body ∈ Body.collect components document) : Stem body.baseName := by
  rw [Body.collectSites] at listed
  obtain ⟨site, -, made⟩ := List.mem_filterMap.mp listed
  unfold Body.Site.body? at made
  split at made
  · cases Option.some.inj made
    exact .body _ _ _
  · cases made

structure Apart (components : Fields Json) (entries : List Entry) : Prop where
  named : "" ∉ entries.map Entry.name
  distinct : (entries.map Entry.name).Nodup
  coined : ∀ name ∈ entries.map Entry.name, name ∈ Fields.keys components ∨ Coined name

theorem entriesNamed (levels : Nat)
    (distinct : (Fields.keys ((components? document).getD [])).Nodup)
    (named : "" ∉ Fields.keys ((components? document).getD [])) :
    Yields (HasReference document) (Apart ((components? document).getD []))
      (entriesOf document levels) := by
  unfold entriesOf
  dsimp only
  rw [reservesAll distinct (by simp [Names.empty]), if_neg named]
  generalize given : (components? document).getD [] = components at distinct named
  let start : Progress := ⟨⟨(Fields.keys components).reverse ++ Names.empty.taken⟩, [], []⟩
  have taken {name} : name ∈ start.names.taken ↔ name ∈ Fields.keys components := by
    simp [start, Names.empty]
  have orderly : Build.Orderly start :=
    ⟨fun empty => named (taken.mp empty), List.nil_subset _, List.nodup_nil⟩
  have ready : ∀ name ∈ Fields.keys components, Build.Ready start name := fun name among =>
    ⟨fun empty => named (empty ▸ among), taken.mpr among, List.not_mem_nil⟩
  refine Build.meetsYields (Build.rootsOpen (given ▸ insideComponents document)
    (fun _ => insideBodies) (fun _ => bodyStem) distinct orderly ready) fun entries q opened => ?_
  have begun : q.begun.Perm (entries.map Entry.name) := by simpa [start] using opened.begun
  constructor
  case named =>
    exact fun empty => opened.orderly.named (opened.orderly.given (begun.mem_iff.mpr empty))
  case distinct => exact begun.nodup_iff.mp opened.orderly.distinct
  case coined => simpa using opened.coined

theorem validateBuilt {origins} (apart : Apart ((components? document).getD []) entries)
    (built : Built ((components? document).getD []) document origins entries) :
    Yields (∃ entry ∈ entries, entry.toJson.HasKey Reference.key) (fun _ => True)
      (validate (Map.ofEntries entries).entries) := by
  -- Every name that an entry mentions is known by the end, so no more than a mark can be wrong.
  have keys : Fields.keys (Map.ofEntries entries).entries = entries.map Entry.name :=
    ofEntriesNames entries
  have own : ∀ m ∈ (Map.ofEntries entries).entries, m.1 = m.2.name ∧ m.1 ≠ "" := by
    intro m member
    obtain ⟨entry, listed, rfl⟩ := List.mem_map.mp member
    exact ⟨rfl, fun empty => apart.named (List.mem_map.mpr ⟨entry, listed, empty⟩)⟩
  have closed : ∀ m ∈ (Map.ofEntries entries).entries, ∀ name ∈ m.2.names,
      name ∈ Fields.keys (Map.ofEntries entries).entries := by
    intro m member name among
    obtain ⟨entry, listed, rfl⟩ := List.mem_map.mp member
    obtain ⟨o, -, -, image⟩ := built.images entry listed
    rw [keys, built.names]
    rcases imageKnown image name among with declared | ⟨origin, known⟩
    · exact built.declared declared
    · exact List.mem_map.mpr ⟨_, known, rfl⟩
  unfold validate
  split
  · rename_i breach broke
    obtain ⟨m, member, reference, rfl, found⟩ :=
      firstBreachMark own (keys ▸ apart.distinct) (fun _ _ => List.not_mem_nil) closed broke
    obtain ⟨entry, listed, rfl⟩ := List.mem_map.mp member
    exact ⟨⟨_, _, rfl⟩, entry, listed, findReferenceSome.mp (by rw [found]; rfl)⟩
  · trivial

theorem builtMarked {origins}
    (built : Built ((components? document).getD []) document origins entries)
    (marked : ∃ entry ∈ entries, entry.toJson.HasKey Reference.key) :
    document.HasKey Reference.key := by
  obtain ⟨entry, listed, mark⟩ := marked
  obtain ⟨o, -, inside, image⟩ := built.images entry listed
  exact imageMarked (insideComponents document) inside image mark

theorem extractUnnamed (levels : Nat)
    (distinct : (Fields.keys ((components? document).getD [])).Nodup)
    (empty : "" ∈ Fields.keys ((components? document).getD [])) :
    extract document levels = .error .emptyName := by
  unfold extract
  rw [entriesUnnamed levels distinct empty]
  rfl

theorem extractNamed (levels : Nat)
    (distinct : (Fields.keys ((components? document).getD [])).Nodup)
    (named : "" ∉ Fields.keys ((components? document).getD [])) :
    Yields (document.HasKey Reference.key) (fun _ => True) (extract document levels) := by
  unfold extract
  have outcome := (entriesNamed levels distinct named).imp HasReference.marked
  cases made : entriesOf document levels with
  | error breach => rwa [made] at outcome
  | ok entries =>
    rw [made] at outcome
    obtain ⟨origins, built⟩ := entriesBuilt made
    exact ((validateBuilt outcome built).imp (builtMarked built)).bind
      fun _ _ => trivial

theorem extractSucceeds {levels : Nat}
    (distinct : (Fields.keys ((components? document).getD [])).Nodup)
    (named : "" ∉ Fields.keys ((components? document).getD [])) :
    (∃ map, extract document levels = .ok map) ↔
      ∃ entries, entriesOf document levels = .ok entries ∧
        ∀ entry ∈ entries, ¬ entry.toJson.HasKey Reference.key := by
  constructor
  · rintro ⟨map, made⟩
    obtain ⟨entries, built, rest⟩ := exceptBind made
    obtain ⟨_, valid, -⟩ := exceptBind rest
    refine ⟨entries, built, fun entry listed marked => ?_⟩
    have resolved := (validateOk.mp valid).resolved (entry.name, entry)
      (List.mem_map.mpr ⟨entry, listed, rfl⟩)
    have found := findReferenceSome.mpr marked
    simp [resolved] at found
  · rintro ⟨entries, made, unmarked⟩
    have outcome := entriesNamed levels distinct named
    obtain ⟨origins, built⟩ := entriesBuilt made
    rw [made] at outcome
    have checked := validateBuilt outcome built
    refine ⟨Map.ofEntries entries, ?_⟩
    simp only [extract, made]
    cases valid : validate (Map.ofEntries entries).entries with
    | ok => simp [bind, Except.bind, valid, pure, Except.pure]
    | error breach =>
      rw [valid] at checked
      obtain ⟨-, entry, listed, marked⟩ := checked
      exact absurd marked (unmarked entry listed)

end

structure NamesKept (document : Json) (levels : Nat) : Prop where
  distinct : ∀ name, extract document levels ≠ .error (.duplicateName name)
  matched : ∀ key name, extract document levels ≠ .error (.keyMismatch key name)
  closed : ∀ owner target, extract document levels ≠ .error (.danglingName owner target)
  named : extract document levels = .error .emptyName ↔
    "" ∈ Fields.keys ((components? document).getD [])
  resolved : ∀ name reference, extract document levels = .error (.residualReference name reference) →
    document.HasKey Reference.key
  complete : ¬ document.HasKey Reference.key → "" ∉ Fields.keys ((components? document).getD []) →
    ∃ map, extract document levels = .ok map

theorem extractKeepsNames {document : Json} (keyed : document.wellKeyed = true) (levels : Nat) :
    NamesKept document levels := by
  have distinct := declaredDistinct keyed
  by_cases empty : "" ∈ Fields.keys ((components? document).getD [])
  · have broke := extractUnnamed levels distinct empty
    constructor
    case named => exact ⟨fun _ => empty, fun _ => broke⟩
    case complete => exact fun _ named => absurd empty named
    all_goals simp [broke]
  · have outcome := extractNamed levels distinct empty
    cases made : extract document levels with
    | ok map =>
      constructor
      case named => simp [made, empty]
      case complete => exact fun _ _ => ⟨map, made⟩
      all_goals simp [made]
    | error breach =>
      rw [made] at outcome
      obtain ⟨⟨owner, reference, rfl⟩, marked⟩ := outcome
      constructor
      case named => simp [made, empty]
      case resolved => exact fun _ _ _ => marked
      case complete => exact fun unmarked => absurd marked unmarked
      all_goals simp [made]

def crowdedDocument : Json :=
  .object [("components", .object [("schemas", .object [
    ("Pet", .object [("properties", .object [
      ("owner", .object [("properties", .object [("name", .object [])])])])]),
    ("PetOwner", .object [("oneOf", .array [.object [("type", .string "string")]])])])])]

theorem crowdedNamesKept :
    crowdedDocument.wellKeyed = true ∧ NamesKept crowdedDocument 1 ∧
      (extract crowdedDocument 1).toOption.map Map.names =
        some ["Pet", "PetOwner2", "PetOwner", "PetOwnerOption1"] :=
  ⟨by decide, extractKeepsNames (by decide) 1, by decide +kernel⟩

end OpenApi.Schema
