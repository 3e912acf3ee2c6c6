import OpenApi.Proofs.Pointer
import OpenApi.Proofs.Resolution.Sound
/-! Broken references: those that lead out of the document, and those that lead nowhere in it. Each is
reported once, for the location at which it stands, however often it is met. -/
namespace OpenApi

def Sighting.location : Sighting → List String
  | .outside _ location => location
  | .missing _ location _ => location
  | .circle _ location _ _ => location

def Sighting.isBroken : Sighting → Bool
  | .outside _ _ => true
  | .missing _ _ _ => true
  | .circle _ _ _ _ => false

def Problem.isBroken (p : Problem) : Bool := p.kind = .invalid || p.kind = .missing

namespace Resolution

/-- A live reference that cannot be followed, wherever it is met from. -/
inductive Broken (root : Json) (base : String) : Sighting → Prop where
  | outside {location reference} (live : Live root base location reference)
      (away : Reference.localPointer? reference base = none) :
      Broken root base (.outside reference location)
  | missing {location reference pointer} (live : Live root base location reference)
      (here : Reference.localPointer? reference base = some pointer)
      (lost : Pointer.lookup? root (Pointer.segments pointer) = none) :
      Broken root base (.missing reference location pointer)

section
variable {root : Json} {base : String}

theorem brokenSighted {sighting} :
    sighting ∈ (walk (follow root base (room root base []) []) [] root).sightings ∧
      sighting.isBroken = true ↔ Broken root base sighting := by
  rw [sightingsOfVisits]
  constructor
  · rintro ⟨⟨chain, location, node, reference, visit, is, sights⟩, broken⟩
    have live : Live root base location reference := ⟨node, walkedOfVisit visit, is⟩
    cases sights with
    | outside away => exact .outside live away
    | missing here fresh lost => exact .missing live here lost
    | circle => cases broken
  · intro broken
    cases broken with
    | outside live away =>
      obtain ⟨node, walked, is⟩ := live
      obtain ⟨chain, visit⟩ := visitOfWalked walked
      exact ⟨⟨chain, _, node, _, visit, is, .outside away⟩, rfl⟩
    | @missing _ _ pointer live here lost =>
      obtain ⟨node, walked, is⟩ := live
      obtain ⟨chain, visit⟩ := visitOfWalked walked
      have fresh : pointer ∉ chain := fun held => by
        obtain ⟨_, target, found, -⟩ := visit.held held
        simp [lost] at found
      exact ⟨⟨chain, _, node, _, visit, is, .missing here fresh lost⟩, rfl⟩

theorem metStands {location part} (met : Met root location part) :
    Pointer.Stands root location part := by
  induction met with
  | here => exact .here
  | item member _ ih => exact .item (.inl rfl) member ih
  | field _ member _ ih => exact .field member ih

theorem walkedStands {location part} (walked : Walked root base location part) :
    Pointer.Stands root location part := by
  cases walked with
  | root met => exact metStands met
  | target _ _ _ found met => exact (Pointer.lookupStands found).trans (metStands met)

theorem liveUnique (keyed : root.wellKeyed = true) {location reference other}
    (one : Live root base location reference) (again : Live root base location other) :
    reference = other := by
  obtain ⟨node, walked, is⟩ := one
  obtain ⟨node', walked', is'⟩ := again
  cases (walkedStands walked).unique keyed (walkedStands walked')
  exact Option.some.inj (is.symm.trans is')

theorem brokenUnique (keyed : root.wellKeyed = true) {one other}
    (broken : Broken root base one) (again : Broken root base other)
    (same : one.location = other.location) : one = other := by
  cases broken with
  | outside live away =>
    cases again with
    | outside live' =>
      cases same
      rw [liveUnique keyed live live']
    | missing live' here =>
      cases same
      cases liveUnique keyed live live'
      cases away.symm.trans here
  | missing live here =>
    cases again with
    | outside live' away =>
      cases same
      cases liveUnique keyed live live'
      cases here.symm.trans away
    | missing live' here' =>
      cases same
      cases liveUnique keyed live live'
      cases Option.some.inj (here.symm.trans here')
      rfl

theorem brokenRepeats {one other} (broken : Broken root base one) (again : Broken root base other)
    (repeats : (one.problem base).repeats (other.problem base) = true) : one = other := by
  simp only [Problem.repeats, Bool.and_eq_true, decide_eq_true_eq] at repeats
  obtain ⟨⟨kind, reference⟩, path⟩ := repeats
  cases broken with
  | outside live away =>
    cases again with
    | outside =>
      cases reference
      rw [Pointer.renderInjective path]
    | missing => cases kind
  | missing live here =>
    cases again with
    | outside => cases kind
    | missing live' here' =>
      cases reference
      cases Option.some.inj (here.symm.trans here')
      rw [Pointer.renderInjective path]

theorem problemBroken (sighting : Sighting) :
    (sighting.problem base).isBroken = sighting.isBroken := by
  cases sighting <;> rfl

theorem repeatsSelf (p : Problem) : p.repeats p = true := by simp [Problem.repeats]

def Tells (base : String) (report : Report) (told : List Sighting) : Prop :=
  report.problems.filter Problem.isBroken = told.map (Sighting.problem base)

theorem noteTells {report : Report} {told} (tells : Tells base report told) {sighting : Sighting}
    (is : sighting.isBroken = true) (broken : Broken root base sighting)
    (known : ∀ other ∈ told, Broken root base other) :
    Tells base (report.note (sighting.problem base)) (addNew told sighting) := by
  have isBroken : (sighting.problem base).isBroken = true := (problemBroken sighting).trans is
  have repeated : report.problems.any (sighting.problem base).repeats = true ↔ sighting ∈ told := by
    rw [List.any_eq_true]
    constructor
    · rintro ⟨problem, member, repeats⟩
      have same : problem.kind = (sighting.problem base).kind := by
        simp only [Problem.repeats, Bool.and_eq_true, decide_eq_true_eq] at repeats
        exact repeats.1.1.symm
      have listed : problem ∈ report.problems.filter Problem.isBroken :=
        List.mem_filter.mpr ⟨member, by simpa [Problem.isBroken, same] using isBroken⟩
      rw [tells] at listed
      obtain ⟨other, among, rfl⟩ := List.mem_map.mp listed
      exact brokenRepeats broken (known other among) repeats ▸ among
    · intro among
      have listed : sighting.problem base ∈ report.problems.filter Problem.isBroken := by
        rw [tells]
        exact List.mem_map.mpr ⟨sighting, among, rfl⟩
      exact ⟨_, (List.mem_filter.mp listed).1, repeatsSelf _⟩
  unfold Report.note addNew
  by_cases among : sighting ∈ told
  · rw [if_pos (repeated.mpr among), if_pos (by simpa using among)]
    exact tells
  · rw [if_neg (fun any => among (repeated.mp any)), if_neg (by simpa using among)]
    simp only [Tells, List.filter_append, List.map_append]
    rw [tells]
    simp [isBroken]

theorem noteOther {report : Report} {problem : Problem} (other : problem.isBroken = false) :
    (report.note problem).problems.filter Problem.isBroken =
      report.problems.filter Problem.isBroken := by
  unfold Report.note
  split
  · rfl
  · simp [other]

theorem addTells {report : Report} {told} (tells : Tells base report told) {sighting : Sighting}
    (broken : sighting.isBroken = true → Broken root base sighting)
    (known : ∀ other ∈ told, Broken root base other) :
    Tells base (Report.add base report sighting)
      (([sighting].filter Sighting.isBroken).foldl addNew told) := by
  cases sighting with
  | outside | missing => exact noteTells tells rfl (broken rfl) known
  | circle reference location chain pointer =>
    change Tells base (Report.add base report _) told
    unfold Report.add
    split
    · split
      · exact tells
      · exact (noteOther rfl).trans tells
    · rename_i none
      exact absurd rfl (none reference location chain pointer)

theorem foldTells {report : Report} {told} (tells : Tells base report told)
    {sightings : List Sighting}
    (broken : ∀ sighting ∈ sightings, sighting.isBroken = true → Broken root base sighting)
    (known : ∀ other ∈ told, Broken root base other) :
    Tells base (sightings.foldl (Report.add base) report)
      ((sightings.filter Sighting.isBroken).foldl addNew told) := by
  induction sightings generalizing report told with
  | nil => exact tells
  | cons sighting rest ih =>
    have ⟨first, later⟩ := List.forall_mem_cons.mp broken
    have next := addTells tells first known
    have still : ∀ other ∈ ([sighting].filter Sighting.isBroken).foldl addNew told,
        Broken root base other := by
      intro other among
      rcases addAllMember.mp among with earlier | new
      · exact known other earlier
      · obtain ⟨member, is⟩ := List.mem_filter.mp new
        cases List.mem_singleton.mp member
        exact first is
    have split : (sighting :: rest).filter Sighting.isBroken =
        [sighting].filter Sighting.isBroken ++ rest.filter Sighting.isBroken := by
      rw [← List.filter_append, List.singleton_append]
    rw [List.foldl_cons, split, List.foldl_append]
    exact ih next later still

end

theorem brokenReportedOnce {fields : Fields Json} (keyed : (Json.object fields).wellKeyed = true)
    (base : String) :
    ∃ broken : List Sighting, (broken.map Sighting.location).Nodup ∧
      (∀ sighting, sighting ∈ broken ↔ Broken (.object fields) base sighting) ∧
      (resolve (.object fields) base).problems.filter Problem.isBroken =
        broken.map (Sighting.problem base) := by
  let root := Json.object fields
  let sightings := (walk (follow root base (localPointers root base).length []) [] root).sightings
  let broken := (sightings.filter Sighting.isBroken).foldl addNew []
  have exactly (sighting : Sighting) : sighting ∈ broken ↔ Broken root base sighting := by
    rw [← brokenSighted]
    simp [broken, addAllMember, sightings, room]
  have each : ∀ sighting ∈ sightings, sighting.isBroken = true → Broken root base sighting :=
    fun sighting noted is => brokenSighted.mp ⟨noted, is⟩
  have told : Tells base (Report.ofSightings base sightings) broken :=
    foldTells (by rfl) each (by simp)
  have distinct : broken.Nodup := addAllNodup _ List.nodup_nil
  refine ⟨broken, ?_, exactly, told⟩
  refine List.pairwise_map.mpr (distinct.imp_of_mem fun one other differ same => differ ?_)
  exact brokenUnique keyed ((exactly _).mp one) ((exactly _).mp other) same

def brokenFields : Fields Json :=
  [("a", .object [("$ref", .string "#/c")]), ("b", .object [("$ref", .string "#/c")]),
    ("c", .object [("gone", .object [("$ref", .string "#/gone")]),
      ("away", .array [.object [("$ref", .string "other.yaml#/Pet")]]),
      ("again", .object [("$ref", .string "#/a")])])]

theorem brokenFieldsReported :
    (Json.object brokenFields).wellKeyed = true ∧
      (∃ broken : List Sighting, (broken.map Sighting.location).Nodup ∧
        (∀ sighting, sighting ∈ broken ↔ Broken (.object brokenFields) "openapi.yaml" sighting) ∧
        (resolve (.object brokenFields) "openapi.yaml").problems.filter Problem.isBroken =
          broken.map (Sighting.problem "openapi.yaml")) ∧
      ((resolve (.object brokenFields) "openapi.yaml").problems.map fun p =>
        (p.kind, p.reference, p.path)) =
        [(.missing, "#/gone", "#/c/gone"), (.invalid, "other.yaml#/Pet", "#/c/away/0"),
          (.circular, "#/c", "#/a")] :=
  ⟨by decide, brokenReportedOnce (by decide) "openapi.yaml", by decide +kernel⟩

end Resolution
end OpenApi
