import Mathlib.Algebra.Order.Ring.Nat
import OpenApi.Proofs.Json.Reordering
import OpenApi.Proofs.Resolution.Broken
import OpenApi.Proofs.Resolution.Outcome
/-! Resolution and the order of members. Two documents that differ in that order alone are visited in
different orders, but at the same places and under the same chains; so what is put in place, what is
counted and what is broken are the same. -/
namespace OpenApi.Resolution
open Json (Member Reordered)

section
variable {root root' : Json} {base : String} {chain location : List String}

theorem metReordered {whole whole' part} (same : Reordered whole whole')
    (keyed : whole.wellKeyed = true) (met : Met whole location part) :
    ∃ part', Met whole' location part' ∧ Reordered part part' := by
  induction met generalizing whole' with
  | here => exact ⟨whole', .here, same⟩
  | item member _ ih =>
    cases same with
    | scalar _ noItems => cases noItems
    | array each =>
      obtain ⟨item', member', items⟩ := Json.relatedAt each member
      have inner := Json.wellKeyedArray.mp keyed _ (List.mem_of_getElem? member)
      obtain ⟨part', met', parts⟩ := ih items inner
      exact ⟨part', .item member' met', parts⟩
  | @field fields m _ _ plain member _ ih =>
    obtain ⟨distinct, inner⟩ := Json.wellKeyedObject.mp keyed
    have plain' := (same.reference keyed).symm.trans plain
    have found := Fields.getOfMember distinct member
    cases same with
    | scalar noFields => cases noFields
    | object each order =>
      obtain ⟨value, found', values⟩ := (Reordered.object each order).get keyed found
      obtain ⟨part', met', parts⟩ := ih values (inner m member)
      exact ⟨part', metMember plain' found' met', parts⟩

variable (same : Reordered root root') (keyed : root.wellKeyed = true)
include same keyed

theorem entersReordered {reference pointer target}
    (enters : Enters root base chain reference pointer target) :
    ∃ target', Enters root' base chain reference pointer target' ∧ Reordered target target' := by
  obtain ⟨target', found, targets⟩ := same.lookup keyed enters.found
  exact ⟨target', ⟨enters.here, enters.fresh, found⟩, targets⟩

theorem visitReordered {part} (visit : Visits root base chain location part) :
    ∃ part', Visits root' base chain location part' ∧ Reordered part part' := by
  induction visit with
  | root met =>
    obtain ⟨part', met', parts⟩ := metReordered same keyed met
    exact ⟨part', .root met', parts⟩
  | enter visit is enters met ih =>
    obtain ⟨node', visit', nodes⟩ := ih
    obtain ⟨target', enters', targets⟩ := entersReordered same keyed enters
    have is' := (nodes.reference (Json.wellKeyedWithin visit.within keyed)).symm.trans is
    have within := Json.wellKeyedWithin (Json.lookupWithin enters.found) keyed
    obtain ⟨part', met', parts⟩ := metReordered targets within met
    exact ⟨part', .enter visit' is' enters' met', parts⟩

theorem liveReordered {reference} (live : Live root base location reference) :
    Live root' base location reference := by
  obtain ⟨node, walked, is⟩ := live
  obtain ⟨chain, visit⟩ := visitOfWalked walked
  obtain ⟨node', visit', nodes⟩ := visitReordered same keyed visit
  have within := Json.wellKeyedWithin visit.within keyed
  exact ⟨node', walkedOfVisit visit', (nodes.reference within).symm.trans is⟩

theorem brokenReordered {sighting} (broken : Broken root base sighting) :
    Broken root' base sighting := by
  cases broken with
  | outside live away => exact .outside (liveReordered same keyed live) away
  | missing live here lost =>
    refine .missing (liveReordered same keyed live) here ?_
    refine Option.eq_none_iff_forall_ne_some.mpr fun target found => ?_
    obtain ⟨_, found', -⟩ := same.symm.lookup (same.keyed keyed) found
    simp [lost] at found'

theorem clearReordered (clear : Clear root base) : Clear root' base := by
  intro chain location node reference visit is
  have keyed' := same.keyed keyed
  obtain ⟨node', visit', nodes⟩ := visitReordered same.symm keyed' visit
  have within := Json.wellKeyedWithin visit.within keyed'
  obtain ⟨pointer, target, enters⟩ :=
    clear _ _ _ _ visit' ((nodes.reference within).symm.trans is)
  obtain ⟨target', enters', -⟩ := entersReordered same keyed enters
  exact ⟨pointer, target', enters'⟩

end

/-! Counts and values along a walk. -/

structure Parallel (a b : Noted Json) : Prop where
  value : Reordered a.value b.value
  replaced : a.replaced = b.replaced

section
variable {follow follow' : Follow} {location : List String}

theorem walkFieldsReplaced (fields : Fields Json) :
    (walkFields follow location fields).replaced =
      (fields.map fun m => (walk follow (location ++ [m.1]) m.2).replaced).sum := by
  induction fields with
  | nil => rfl
  | cons m rest ih => simp [walkFields, Noted.both, ih]

theorem walkItemsParallel {items others : List Json} {index : Nat}
    (each : List.Forall₂ Reordered items others)
    (next : ∀ (offset : Nat) item other, items[offset]? = some item → others[offset]? = some other →
      Reordered item other → Parallel (walk follow (location ++ [toString (index + offset)]) item)
        (walk follow' (location ++ [toString (index + offset)]) other)) :
    Parallel ((walkItems follow location index items).map .array)
      ((walkItems follow' location index others).map .array) := by
  suffices both : List.Forall₂ Reordered (walkItems follow location index items).value
      (walkItems follow' location index others).value ∧
      (walkItems follow location index items).replaced =
        (walkItems follow' location index others).replaced from ⟨.array both.1, both.2⟩
  induction each generalizing index with
  | nil => exact ⟨.nil, rfl⟩
  | cons pair _ ih =>
    have first := next 0 _ _ rfl rfl pair
    have later := @ih (index + 1) fun offset item other listed listed' pair => by
      have parallel := next (offset + 1) item other listed listed' pair
      rwa [← Nat.add_assoc, Nat.add_right_comm] at parallel
    exact ⟨.cons first.value later.1, congrArg₂ (· + ·) first.replaced later.2⟩

theorem walkFieldsParallel {fields paired others : Fields Json}
    (each : List.Forall₂ (Member Reordered) fields paired) (order : paired.Perm others)
    (next : ∀ m ∈ fields, ∀ n ∈ others, Member Reordered m n →
      Parallel (walk follow (location ++ [m.1]) m.2) (walk follow' (location ++ [n.1]) n.2)) :
    Parallel ((walkFields follow location fields).map .object)
      ((walkFields follow' location others).map .object) := by
  constructor
  case value =>
    simp only [Noted.map, walkFieldsValue]
    refine .object (Json.pairedMap each fun m listed n among pair => ?_)
      (order.map fun n => (n.1, (walk follow' (location ++ [n.1]) n.2).value))
    exact (next m listed n (order.mem_iff.mp among) pair).value
  case replaced =>
    have counts : fields.map (fun m => (walk follow (location ++ [m.1]) m.2).replaced) =
        paired.map fun n => (walk follow' (location ++ [n.1]) n.2).replaced := by
      rw [← List.forall₂_eq_eq_eq, List.forall₂_map_left_iff, List.forall₂_map_right_iff]
      exact Json.relatedImp each fun m listed n among pair =>
        (next m listed n (order.mem_iff.mp among) pair).replaced
    simp only [Noted.map, walkFieldsReplaced, counts]
    exact (order.map _).sum_nat

end

section
variable {root root' : Json} {base : String} {chain location : List String}

theorem visitParallel (same : Reordered root root') (keyed : root.wellKeyed = true) {part part'}
    (visit : Visits root base chain location part) (parts : Reordered part part')
    (visit' : Visits root' base chain location part') :
    Parallel (walk (follow root base (room root base chain) chain) location part)
      (walk (follow root' base (room root' base chain) chain) location part') := by
  refine visitInduction (motive := fun chain location part => ∀ part', Reordered part part' →
    Visits root' base chain location part' →
    Parallel (walk (follow root base (room root base chain) chain) location part)
      (walk (follow root' base (room root' base chain) chain) location part'))
    ?sighted ?reference ?object ?array ?scalar visit part' parts visit'
  case sighted =>
    intro chain location node reference sighting visit is sights node' nodes visit'
    have is' := (nodes.reference (Json.wellKeyedWithin visit.within keyed)).symm.trans is
    rcases sightsOrEnters root' base chain location reference with
      ⟨sighting', sights'⟩ | ⟨pointer, target', enters'⟩
    · rw [walkReference _ _ is, walkReference _ _ is', followSights sights, followSights sights']
      exact ⟨nodes, rfl⟩
    · obtain ⟨target, enters, -⟩ := entersReordered same.symm (same.keyed keyed) enters'
      exact absurd enters sights.notEnters
  case reference =>
    intro chain location node reference pointer target visit is enters ih node' nodes visit'
    have is' := (nodes.reference (Json.wellKeyedWithin visit.within keyed)).symm.trans is
    obtain ⟨target', enters', targets⟩ := entersReordered same keyed enters
    have expanded := ih target' targets (visit'.target is' enters')
    have left := expanded.value.reference (outcomeKeyed keyed (visit.target is enters))
    rw [walkReference _ _ is, walkReference _ _ is', roomEnter visit is enters,
      roomEnter visit' is' enters', followEnters enters, followEnters enters']
    dsimp only [targetWalk]
    rw [← left]
    split
    · exact ⟨nodes, rfl⟩
    · exact ⟨expanded.value, rfl⟩
  case object =>
    intro chain location fields visit plain ih part' parts visit'
    have plain' := (parts.reference (Json.wellKeyedWithin visit.within keyed)).symm.trans plain
    cases parts with
    | scalar noFields => cases noFields
    | object each order =>
      rw [walkPlain _ _ plain, walkPlain _ _ plain']
      refine walkFieldsParallel each order fun m listed n among pair => ?_
      cases pair with
      | @of key _ value values =>
        have met : Met _ [key] value := .field (m := (key, value)) plain' among .here
        exact ih _ listed value values (visit'.deeper met)
  case array =>
    intro chain location items visit ih part' parts visit'
    cases parts with
    | scalar _ noItems => cases noItems
    | array each =>
      refine walkItemsParallel each fun offset item other listed listed' pair => ?_
      rw [Nat.zero_add]
      exact ih offset item listed other pair (visit'.deeper (.item listed' .here))
  case scalar =>
    intro chain location value scalar part' parts visit'
    cases parts with
    | scalar =>
      cases value with
      | object => cases scalar.1
      | array => cases scalar.2
      | null | bool | number | string => exact ⟨.scalar rfl rfl, rfl⟩
    | array => cases scalar.2
    | object => cases scalar.1

theorem brokenTold (fields : Fields Json) (base : String) (problem : Problem) :
    problem ∈ (resolve (.object fields) base).problems ∧ problem.isBroken = true ↔
      ∃ sighting, Broken (.object fields) base sighting ∧ sighting.problem base = problem := by
  let sightings :=
    (walk (follow (.object fields) base (room (.object fields) base []) []) [] (.object fields)).sightings
  have each : ∀ sighting ∈ sightings, sighting.isBroken = true →
      Broken (.object fields) base sighting :=
    fun sighting noted is => brokenSighted.mp ⟨noted, is⟩
  have told : Tells base (Report.ofSightings base sightings)
      ((sightings.filter Sighting.isBroken).foldl addNew []) := foldTells (by rfl) each (by simp)
  change problem ∈ (Report.ofSightings base sightings).problems ∧ _ ↔ _
  rw [← List.mem_filter, told, List.mem_map]
  simp only [addAllMember, List.not_mem_nil, false_or, List.mem_filter, ← brokenSighted]
  rfl

end

structure SameResult (a b : Resolution) : Prop where
  document : Reordered a.document b.document
  resolved : a.resolved = b.resolved
  clean : a.isClean = b.isClean
  broken : ∀ problem : Problem, problem.isBroken = true →
    (problem ∈ a.problems ↔ problem ∈ b.problems)

theorem resolutionReordered {fields others : Fields Json}
    (keyed : (Json.object fields).wellKeyed = true)
    (same : Reordered (.object fields) (.object others)) (base : String) :
    SameResult (resolve (.object fields) base) (resolve (.object others) base) := by
  have back := same.symm
  have keyed' := same.keyed keyed
  have visit {root : Json} : Visits root base [] [] root := .root .here
  have parallel := visitParallel same keyed visit same visit
  constructor
  case document => exact parallel.value
  case resolved => exact parallel.replaced
  case clean =>
    rw [Bool.eq_iff_iff, cleanClear, cleanClear]
    exact ⟨clearReordered same keyed, clearReordered back keyed'⟩
  case broken =>
    intro problem is
    have told := brokenTold fields base problem
    have told' := brokenTold others base problem
    simp only [is, and_true] at told told'
    rw [told, told']
    constructor
    · rintro ⟨sighting, broken, tells⟩
      exact ⟨sighting, brokenReordered same keyed broken, tells⟩
    · rintro ⟨sighting, broken, tells⟩
      exact ⟨sighting, brokenReordered back keyed' broken, tells⟩

def pairFields : Fields Json :=
  [("owner", .object [("pet", .object [("$ref", .string "#/pet")])]),
    ("pet", .object [("owner", .object [("$ref", .string "#/owner")]),
      ("tag", .object [("$ref", .string "#/tag")])])]

def pairReordered : Fields Json :=
  [("pet", .object [("tag", .object [("$ref", .string "#/tag")]),
      ("owner", .object [("$ref", .string "#/owner")])]),
    ("owner", .object [("pet", .object [("$ref", .string "#/pet")])])]

theorem pairSameResult :
    (Json.object pairFields).wellKeyed = true ∧
      Reordered (.object pairFields) (.object pairReordered) ∧
      SameResult (resolve (.object pairFields) "openapi.yaml")
        (resolve (.object pairReordered) "openapi.yaml") ∧
      ((resolve (.object pairFields) "openapi.yaml").problems.map fun p => (p.kind, p.path)) =
        [(.circular, "#/owner/pet"), (.missing, "#/pet/tag")] ∧
      ((resolve (.object pairReordered) "openapi.yaml").problems.map fun p => (p.kind, p.path)) =
        [(.missing, "#/pet/tag"), (.circular, "#/pet/owner")] := by
  have keyed : (Json.object pairFields).wellKeyed = true := by decide
  have same : Reordered (.object pairFields) (.object pairReordered) :=
    .object (.cons (.of (.refl _)) (.cons (.of (.ofPerm (.swap _ _ _))) .nil)) (.swap _ _ _)
  exact ⟨keyed, same, resolutionReordered keyed same "openapi.yaml", by decide +kernel,
    by decide +kernel⟩

end OpenApi.Resolution
