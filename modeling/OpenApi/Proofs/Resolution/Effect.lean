import OpenApi.Proofs.Resolution.Unfolding
/-! What a resolution changes, with problems or without: the outermost references whose targets come
to an end, and nothing else. Whether they do is said of the given document alone; the count is the
number of the references that gave way. -/
namespace OpenApi.Resolution

inductive Chained (root : Json) (base : String) : Json → List String → Json → Prop where
  | stop {value} (plain : Reference.of? value = none) : Chained root base value [] value
  | step {node reference pointer target pointers value} (is : Reference.of? node = some reference)
      (here : Reference.localPointer? reference base = some pointer)
      (found : Pointer.lookup? root (Pointer.segments pointer) = some target)
      (rest : Chained root base target pointers value) :
      Chained root base node (pointer :: pointers) value

def Lands (root : Json) (base : String) (chain : List String) (node : Json) : Prop :=
  ∃ pointers value, Chained root base node pointers value ∧ (chain ++ pointers).Nodup

mutual
/-- `Effect root base chain given result replaced`: under the pointers of `chain` the outermost
references of `given` that land give way to what their last targets become, and the others stay;
`replaced` of them gave way. -/
inductive Effect (root : Json) (base : String) : List String → Json → Json → Nat → Prop where
  | replaced {chain node reference pointers value result inner}
      (is : Reference.of? node = some reference) (chained : Chained root base node pointers value)
      (distinct : (chain ++ pointers).Nodup)
      (becomes : Effect root base (chain ++ pointers) value result inner)
      (plain : Reference.of? result = none) : Effect root base chain node result 1
  | kept {chain node reference} (is : Reference.of? node = some reference)
      (stuck : ¬ Lands root base chain node) : Effect root base chain node node 0
  | object {chain fields results replaced} (plain : Reference.of? (.object fields) = none)
      (members : FieldsEffect root base chain fields results replaced) :
      Effect root base chain (.object fields) (.object results) replaced
  | array {chain items results replaced}
      (members : ItemsEffect root base chain items results replaced) :
      Effect root base chain (.array items) (.array results) replaced
  | scalar {chain value} (scalar : Scalar value) : Effect root base chain value value 0
inductive ItemsEffect (root : Json) (base : String) :
    List String → List Json → List Json → Nat → Prop where
  | nil {chain} : ItemsEffect root base chain [] [] 0
  | cons {chain item result count items results replaced}
      (first : Effect root base chain item result count)
      (rest : ItemsEffect root base chain items results replaced) :
      ItemsEffect root base chain (item :: items) (result :: results) (count + replaced)
inductive FieldsEffect (root : Json) (base : String) :
    List String → Fields Json → Fields Json → Nat → Prop where
  | nil {chain} : FieldsEffect root base chain [] [] 0
  | cons {chain key value result count fields results replaced}
      (first : Effect root base chain value result count)
      (rest : FieldsEffect root base chain fields results replaced) :
      FieldsEffect root base chain ((key, value) :: fields) ((key, result) :: results)
        (count + replaced)
end

section
variable {root : Json} {base : String} {chain location : List String}

/-! Whether a reference lands. -/

theorem plainLands {value} (plain : Reference.of? value = none) (distinct : chain.Nodup) :
    Lands root base chain value :=
  ⟨[], value, .stop plain, by rwa [List.append_nil]⟩

theorem sightsStuck {node reference sighting} (is : Reference.of? node = some reference)
    (sights : Sights root base chain location reference sighting) :
    ¬ Lands root base chain node := by
  rintro ⟨pointers, value, chained, distinct⟩
  cases chained with
  | stop plain => simp [plain] at is
  | step is' here found rest =>
    cases Option.some.inj (is.symm.trans is')
    refine sights.notEnters ⟨here, fun held => ?_, found⟩
    exact (List.nodup_append.mp distinct).2.2 _ held _ List.mem_cons_self rfl

theorem entersLands {node reference pointer target} (is : Reference.of? node = some reference)
    (enters : Enters root base chain reference pointer target) :
    Lands root base chain node ↔ Lands root base (chain ++ [pointer]) target := by
  constructor
  · rintro ⟨pointers, value, chained, distinct⟩
    cases chained with
    | stop plain => simp [plain] at is
    | step is' here found rest =>
      cases Option.some.inj (is.symm.trans is')
      cases Option.some.inj (here.symm.trans enters.here)
      cases Option.some.inj (found.symm.trans enters.found)
      exact ⟨_, value, rest, by simpa using distinct⟩
  · rintro ⟨pointers, value, chained, distinct⟩
    exact ⟨pointer :: pointers, value, .step is enters.here enters.found chained,
      by simpa using distinct⟩

/-! An effect changes neither keys nor their order, so what was no reference has become none. -/

theorem FieldsEffect.keys {fields results replaced}
    (effect : FieldsEffect root base chain fields results replaced) :
    Fields.keys results = Fields.keys fields := by
  induction fields generalizing results replaced with
  | nil => cases effect; rfl
  | cons field rest ih =>
    cases effect with
    | cons first members => exact congrArg₂ List.cons rfl (ih members)

theorem plainUnmarked {fields} (texts : textMarks (.object fields) = true)
    (plain : Reference.of? (.object fields) = none) : Reference.key ∉ Fields.keys fields := by
  intro among
  obtain ⟨mark, marked⟩ := Option.isSome_iff_exists.mp (Fields.getSome.mpr among)
  obtain ⟨text, rfl⟩ := (textMarksField (by simpa only [textMarks] using texts) _
    (Fields.getMember marked)).1 rfl
  simp [Reference.ofSome.mpr marked] at plain

theorem unmarkedPlain {fields : Fields Json} (unmarked : Reference.key ∉ Fields.keys fields) :
    Reference.of? (.object fields) = none := by
  refine Option.eq_none_iff_forall_not_mem.mpr fun reference is => unmarked ?_
  exact Fields.getSome.mp (by rw [Reference.ofSome.mp is]; rfl)

theorem Effect.landed {given result replaced} (texts : textMarks given = true)
    (distinct : chain.Nodup) (effect : Effect root base chain given result replaced) :
    Reference.of? result = none ↔ Lands root base chain given := by
  cases effect with
  | replaced is chained distinct becomes plain =>
    exact ⟨fun _ => ⟨_, _, chained, distinct⟩, fun _ => plain⟩
  | kept is stuck => simp [is, stuck]
  | object plain members =>
    have unmarked := plainUnmarked texts plain
    rw [← members.keys] at unmarked
    exact ⟨fun _ => plainLands plain distinct, fun _ => unmarkedPlain unmarked⟩
  | array members => exact ⟨fun _ => plainLands rfl distinct, fun _ => rfl⟩
  | scalar scalar => exact ⟨fun _ => plainLands scalar.plain distinct, fun _ => scalar.plain⟩

theorem effectEntered {node reference pointer target result replaced}
    (is : Reference.of? node = some reference)
    (enters : Enters root base chain reference pointer target)
    (distinct : (chain ++ [pointer]).Nodup) (plain : Reference.of? result = none)
    (effect : Effect root base (chain ++ [pointer]) target result replaced) :
    Effect root base chain node result 1 := by
  have ended (notRef : Reference.of? target = none) : Effect root base chain node result 1 :=
    .replaced is (.step is enters.here enters.found (.stop notRef)) distinct effect plain
  cases effect with
  | replaced _ chained apart becomes _ =>
    rw [List.append_assoc, List.singleton_append] at apart becomes
    exact .replaced is (.step is enters.here enters.found chained) apart becomes plain
  | kept still => simp [still] at plain
  | object notRef => exact ended notRef
  | array => exact ended rfl
  | scalar scalar => exact ended scalar.plain

/-! A walk has this effect on each part that it visits. -/

theorem walkItemsEffect {follow : Follow} {index items}
    (each : ∀ (offset : Nat) item, items[offset]? = some item →
      let noted := walk follow (location ++ [toString (index + offset)]) item
      Effect root base chain item noted.value noted.replaced) :
    let noted := walkItems follow location index items
    ItemsEffect root base chain items noted.value noted.replaced := by
  induction items generalizing index with
  | nil => exact .nil
  | cons item rest ih =>
    refine .cons (each 0 item rfl) (ih fun offset item member => ?_)
    have later := each (offset + 1) item member
    rwa [← Nat.add_assoc, Nat.add_right_comm] at later

theorem walkFieldsEffect {follow : Follow} {fields}
    (each : ∀ m ∈ fields, let noted := walk follow (location ++ [m.1]) m.2
      Effect root base chain m.2 noted.value noted.replaced) :
    let noted := walkFields follow location fields
    FieldsEffect root base chain fields noted.value noted.replaced := by
  induction fields with
  | nil => exact .nil
  | cons field rest ih =>
    have ⟨first, later⟩ := List.forall_mem_cons.mp each
    exact .cons first (ih later)

theorem visitEffect (texts : textMarks root = true) {part}
    (visit : Visits root base chain location part) :
    let noted := walk (follow root base (room root base chain) chain) location part
    Effect root base chain part noted.value noted.replaced := by
  refine visitInduction (motive := fun chain location part =>
    let noted := walk (follow root base (room root base chain) chain) location part
    Effect root base chain part noted.value noted.replaced)
    ?sighted ?reference ?object ?array ?scalar visit
  case sighted =>
    intro chain location node reference sighting visit is sights
    rw [walkReference _ _ is, followSights sights]
    exact .kept is (sightsStuck is sights)
  case reference =>
    intro chain location node reference pointer target visit is enters effect
    have entered := visit.target is enters
    have landed := effect.landed (textMarksWithin entered.within texts) entered.chainNodup
    rw [walkReference _ _ is, roomEnter visit is enters, followEnters enters, targetWalk]
    dsimp only at landed ⊢
    cases still : Reference.of? (walk (follow root base (room root base (chain ++ [pointer]))
      (chain ++ [pointer])) (Pointer.segments pointer) target).value with
    | some left =>
      refine .kept is fun lands => ?_
      simpa [still] using landed.mpr ((entersLands is enters).mp lands)
    | none => exact effectEntered is enters entered.chainNodup still effect
  case object =>
    intro chain location fields visit plain each
    rw [walkPlain _ _ plain]
    exact .object plain (walkFieldsEffect each)
  case array =>
    intro chain location items visit each
    rw [walkArray]
    exact .array (walkItemsEffect fun offset item member => by simpa using each offset item member)
  case scalar =>
    intro chain location value scalar
    cases value with
    | object => cases scalar.1
    | array => cases scalar.2
    | null | bool | number | string => exact .scalar scalar

end

theorem resolutionEffect {fields : Fields Json} {base : String}
    (texts : textMarks (.object fields) = true) :
    Effect (.object fields) base [] (.object fields) (resolve (.object fields) base).document
      (resolve (.object fields) base).resolved :=
  visitEffect texts (.root .here)

def tangledFields : Fields Json :=
  [("a", .object [("$ref", .string "#/b"), ("title", .string "A")]),
    ("b", .object [("$ref", .string "#/c/0")]),
    ("c", .array [.object [("type", .string "string")], .object [("$ref", .string "#/d")]]),
    ("d", .object [("$ref", .string "#/c/1"), ("title", .string "D")]),
    ("e", .object [("$ref", .string "other.yaml#/x")]), ("f", .object [("$ref", .string "#/x")])]

def tangledResult : Fields Json :=
  [("a", .object [("type", .string "string")]), ("b", .object [("type", .string "string")]),
    ("c", .array [.object [("type", .string "string")], .object [("$ref", .string "#/d")]]),
    ("d", .object [("$ref", .string "#/c/1"), ("title", .string "D")]),
    ("e", .object [("$ref", .string "other.yaml#/x")]), ("f", .object [("$ref", .string "#/x")])]

theorem tangledEffect :
    textMarks (.object tangledFields) = true ∧
      (resolve (.object tangledFields) "openapi.yaml").isClean = false ∧
      Effect (.object tangledFields) "openapi.yaml" [] (.object tangledFields)
        (.object tangledResult) 2 := by
  have texts : textMarks (.object tangledFields) = true := by decide +kernel
  have effect : Effect (.object tangledFields) "openapi.yaml" [] (.object tangledFields)
      (resolve (.object tangledFields) "openapi.yaml").document
      (resolve (.object tangledFields) "openapi.yaml").resolved := resolutionEffect texts
  have document : (resolve (.object tangledFields) "openapi.yaml").document =
      .object tangledResult := by decide +kernel
  have replaced : (resolve (.object tangledFields) "openapi.yaml").resolved = 2 := by
    decide +kernel
  rw [document, replaced] at effect
  exact ⟨texts, by decide +kernel, effect⟩

end OpenApi.Resolution
