import Mathlib.Logic.ExistsUnique
import Mathlib.Logic.Relation
import OpenApi.Proofs.Json.Size
import OpenApi.Proofs.Resolution.Sighting
/-! The recursion of a resolution. From a reference it goes to a target that may be larger than the
value at hand and may contain it, but each time a pointer of the document joins the chain that was
not there. So the recursion comes to an end, and it is the same without a budget. -/
namespace OpenApi.Resolution

structure Stage where
  chain : List String
  location : List String
  value : Json

inductive Calls (root : Json) (base : String) : Stage → Stage → Prop where
  | item {chain location} {items : List Json} {index : Nat} {item}
      (member : items[index]? = some item) :
      Calls root base ⟨chain, location, .array items⟩ ⟨chain, location ++ [toString index], item⟩
  | field {chain location fields m} (plain : Reference.of? (.object fields) = none)
      (member : m ∈ fields) :
      Calls root base ⟨chain, location, .object fields⟩ ⟨chain, location ++ [m.1], m.2⟩
  | target {chain location node reference pointer target}
      (is : Reference.of? node = some reference)
      (enters : Enters root base chain reference pointer target) :
      Calls root base ⟨chain, location, node⟩ ⟨chain ++ [pointer], Pointer.segments pointer, target⟩

def Reached (root : Json) (base : String) (stage : Stage) : Prop :=
  Relation.ReflTransGen (Calls root base) ⟨[], [], root⟩ stage

def Authored (root : Json) (base pointer : String) : Prop :=
  ∃ node reference, Json.Within node root ∧ Reference.of? node = some reference ∧
    Reference.localPointer? reference base = some pointer

section
variable {root : Json} {base : String}

/-! The stages that are reached are the visits of the resolution. -/

theorem metCalls {chain location whole inner part} (met : Met whole inner part) :
    Relation.ReflTransGen (Calls root base) ⟨chain, location, whole⟩
      ⟨chain, location ++ inner, part⟩ := by
  induction met generalizing location with
  | here => rw [List.append_nil]
  | item member _ ih =>
    rw [List.append_cons]
    exact .head (.item member) ih
  | field plain member _ ih =>
    rw [List.append_cons]
    exact .head (.field plain member) ih

theorem reachedVisits {stage : Stage} :
    Reached root base stage ↔ Visits root base stage.chain stage.location stage.value := by
  constructor
  · intro reached
    induction reached with
    | refl => exact .root .here
    | tail _ calls ih =>
      cases calls with
      | item member => exact ih.deeper (.item member .here)
      | field plain member => exact ih.deeper (.field plain member .here)
      | target is enters => exact ih.target is enters
  · intro visit
    obtain ⟨chain, location, part⟩ := stage
    dsimp only at visit
    induction visit with
    | root met => exact metCalls met
    | enter _ is enters met ih => exact (ih.tail (.target is enters)).trans (metCalls met)

/-! The chain of a stage. -/

theorem chainAuthored {chain location part} (visit : Visits root base chain location part) :
    ∀ pointer ∈ chain, Authored root base pointer := by
  induction visit with
  | root met => simp
  | enter visit is enters met ih =>
    intro pointer among
    rcases List.mem_append.mp among with earlier | newest
    · exact ih pointer earlier
    · cases List.mem_singleton.mp newest
      exact ⟨_, _, visit.within, is, enters.here⟩

theorem withinReference {reference whole} (among : reference ∈ references whole) :
    ∃ node, Json.Within node whole ∧ Reference.of? node = some reference := by
  induction whole using Json.ofParts with
  | null | bool | number | string => simp [references] at among
  | array items ih =>
    obtain ⟨item, member, inner⟩ := itemsReference.mp among
    obtain ⟨node, within, is⟩ := ih item member inner
    exact ⟨node, .item member within, is⟩
  | object fields ih =>
    rcases List.mem_append.mp among with own | inner
    · exact ⟨_, .refl, Option.mem_toList.mp own⟩
    · obtain ⟨m, member, inner⟩ := fieldsReference.mp inner
      obtain ⟨node, within, is⟩ := ih m member inner
      exact ⟨node, .field member within, is⟩

theorem pointersAuthored {pointer} :
    pointer ∈ localPointers root base ↔ Authored root base pointer := by
  constructor
  · intro among
    have new := (addAllMember.mp among).resolve_left List.not_mem_nil
    obtain ⟨reference, written, here⟩ := List.mem_filterMap.mp new
    obtain ⟨node, within, is⟩ := withinReference written
    exact ⟨node, reference, within, is, here⟩
  · rintro ⟨node, reference, within, is, here⟩
    exact pointerWithin within is here

theorem pointersNodup : (localPointers root base).Nodup := addAllNodup _ List.nodup_nil

/-! What decreases: the pointers that can still join the chain, and then the size of the value. -/

def waiting (root : Json) (base : String) (chain : List String) : List String :=
  (localPointers root base).filter (· ∉ chain)

theorem waitingNone (root : Json) (base : String) :
    waiting root base [] = localPointers root base := by simp [waiting]

theorem waitingEnter (chain : List String) (pointer : String) :
    waiting root base (chain ++ [pointer]) = (waiting root base chain).filter (· ≠ pointer) := by
  simp [waiting, List.filter_filter, and_comm]

theorem waitingShorter (chain : List String) (pointer : String) :
    (waiting root base (chain ++ [pointer])).length ≤ (waiting root base chain).length := by
  rw [waitingEnter]
  exact List.length_filter_le _ _

theorem waitingLess {chain reference pointer target} {node : Json} (inside : node.Within root)
    (is : Reference.of? node = some reference)
    (enters : Enters root base chain reference pointer target) :
    (waiting root base (chain ++ [pointer])).length < (waiting root base chain).length := by
  have held : pointer ∈ waiting root base chain := by
    simpa [waiting, enters.fresh] using pointerWithin inside is enters.here
  rw [waitingEnter, List.length_filter_lt_length_iff_exists]
  exact ⟨pointer, held, by simp⟩

open Classical in
noncomputable def Stage.spare (root : Json) (base : String) (stage : Stage) : Nat :=
  (waiting root base stage.chain).length + if stage.value.Within root then 0 else 1

theorem partSpare {chain location inner} {part whole : Json}
    (within : part.Within whole) :
    Stage.spare root base ⟨chain, inner, part⟩ ≤ Stage.spare root base ⟨chain, location, whole⟩ := by
  unfold Stage.spare
  dsimp only
  by_cases inside : whole.Within root
  · exact Nat.le_of_eq (by rw [if_pos inside, if_pos (within.trans inside)])
  · rw [if_neg inside]
    split <;> omega

theorem targetSpare {chain location node reference pointer target}
    (is : Reference.of? node = some reference)
    (enters : Enters root base chain reference pointer target) :
    Stage.spare root base ⟨chain ++ [pointer], Pointer.segments pointer, target⟩ <
      Stage.spare root base ⟨chain, location, node⟩ := by
  unfold Stage.spare
  dsimp only
  rw [if_pos (Json.lookupWithin enters.found)]
  by_cases inside : node.Within root
  · rw [if_pos inside]
    exact waitingLess inside is enters
  · rw [if_neg inside]
    exact Nat.lt_succ_of_le (waitingShorter chain pointer)

theorem callsWellFounded : WellFounded fun next stage => Calls root base stage next := by
  have order : WellFounded (Prod.Lex Nat.lt Nat.lt) := (Prod.lex Nat.lt_wfRel Nat.lt_wfRel).wf
  refine Subrelation.wf (fun {next stage} calls => ?_)
    (InvImage.wf (fun stage => (Stage.spare root base stage, stage.value.size)) order)
  cases calls with
  | item member =>
    have among := List.mem_of_getElem? member
    exact Prod.Lex.right' _ (partSpare (.item among .refl)) (Json.itemSmaller among)
  | field plain member =>
    exact Prod.Lex.right' _ (partSpare (.field member .refl)) (Json.fieldSmaller member)
  | target is enters => exact Prod.Lex.left _ _ (targetSpare is enters)

end

/-! The recursion without a budget. -/

def replacement (walked : Noted Json) : Noted (Option Json) :=
  if (Reference.of? walked.value).isSome then ⟨none, 0, walked.sightings⟩
  else ⟨some walked.value, 1, walked.sightings⟩

structure Follows (root : Json) (base : String) (step : Nat → List String → Follow) : Prop where
  sighted (budget : Nat) {chain location reference sighting}
    (sights : Sights root base chain location reference sighting) :
    step budget chain reference location = ⟨none, 0, [sighting]⟩
  entered (budget : Nat) {chain location reference pointer target}
    (enters : Enters root base chain reference pointer target) :
    step (budget + 1) chain reference location =
      replacement (walk (step budget (chain ++ [pointer])) (Pointer.segments pointer) target)

def Solves (root : Json) (base : String) (expand : List String → Follow) : Prop :=
  Follows root base fun _ => expand

section
variable {root : Json} {base : String}

theorem followFollows : Follows root base (follow root base) where
  sighted _ := followSights
  entered _ := followEnters

section
variable {one other : Nat → List String → Follow} (first : Follows root base one)
  (second : Follows root base other)
include first second

theorem followsAgree {budget more : Nat} {chain location reference} {node : Json}
    (inside : node.Within root) (is : Reference.of? node = some reference)
    (enough : (waiting root base chain).length ≤ budget)
    (enough' : (waiting root base chain).length ≤ more) :
    one budget chain reference location = other more chain reference location := by
  induction budget generalizing more chain location reference node with
  | zero =>
    rcases sightsOrEnters root base chain location reference with ⟨_, sights⟩ | ⟨_, _, enters⟩
    · rw [first.sighted _ sights, second.sighted _ sights]
    · have less := waitingLess inside is enters
      omega
  | succ budget ih =>
    rcases sightsOrEnters root base chain location reference with
      ⟨_, sights⟩ | ⟨pointer, target, enters⟩
    · rw [first.sighted _ sights, second.sighted _ sights]
    · have less := waitingLess inside is enters
      cases more with
      | zero => omega
      | succ more =>
        rw [first.entered _ enters, second.entered _ enters]
        refine congrArg replacement (walkCongr _ fun inner node reference met refers => ?_)
        have deeper := met.within.trans (Json.lookupWithin enters.found)
        exact ih deeper refers (by omega) (by omega)

theorem walksAgree {budget more : Nat} {chain : List String} {value : Json}
    (location : List String) (inside : value.Within root)
    (enough : (waiting root base chain).length ≤ budget)
    (enough' : (waiting root base chain).length ≤ more) :
    walk (one budget chain) location value = walk (other more chain) location value :=
  walkCongr location fun _ _ _ met is =>
    followsAgree first second (met.within.trans inside) is enough enough'

end

theorem solutionExists :
    Solves root base fun chain => follow root base ((waiting root base chain).length + 1) chain where
  sighted _ := followSights
  entered _ chain location reference pointer target enters := by
    have shorter : (waiting root base (chain ++ [pointer])).length ≤
        (waiting root base chain).length := waitingShorter chain pointer
    rw [followFollows.entered _ enters, walksAgree followFollows followFollows _
      (Json.lookupWithin enters.found) shorter (Nat.le_succ _)]

theorem solutionUnique {one other : List String → Follow} (first : Solves root base one)
    (second : Solves root base other) : one = other := by
  funext chain reference location
  rcases sightsOrEnters root base chain location reference with
    ⟨_, sights⟩ | ⟨pointer, target, enters⟩
  · exact (first.sighted 0 sights).trans (second.sighted 0 sights).symm
  · have same : walk (one (chain ++ [pointer])) (Pointer.segments pointer) target =
        walk (other (chain ++ [pointer])) (Pointer.segments pointer) target :=
      walksAgree first second _ (Json.lookupWithin enters.found) (Nat.le_refl _) (Nat.le_refl _)
    calc one chain reference location
      _ = replacement (walk (one (chain ++ [pointer])) (Pointer.segments pointer) target) :=
        first.entered 0 enters
      _ = replacement (walk (other (chain ++ [pointer])) (Pointer.segments pointer) target) := by
        rw [same]
      _ = other chain reference location := (second.entered 0 enters).symm

theorem resolveSolved {fields : Fields Json} {expand : List String → Follow}
    (solves : Solves (.object fields) base expand) :
    resolve (.object fields) base =
      let walked := walk (expand []) [] (.object fields)
      ⟨walked.value, walked.replaced, (Report.ofSightings base walked.sightings).problems⟩ := by
  have enough := congrArg List.length (waitingNone (.object fields) base)
  have same := walksAgree followFollows solves [] .refl (Nat.le_of_eq enough) (Nat.le_refl _)
  simp only [resolve, same]

end

/-- The recursion of a resolution comes to an end. Every call goes down in a well-founded order; the
chain never holds a pointer twice, and none but those that references of the document lead to and
that are found in it, so it is never longer than there are such pointers. References are followed in
one way only, which needs no budget, and a resolution does it. -/
structure Terminates (root : Json) (base : String) : Prop where
  wellFounded : WellFounded fun next stage => Calls root base stage next
  distinct : ∀ stage, Reached root base stage → stage.chain.Nodup
  authored : ∀ stage, Reached root base stage → ∀ pointer ∈ stage.chain, Authored root base pointer
  found : ∀ stage, Reached root base stage → ∀ pointer ∈ stage.chain,
    ∃ target, Pointer.lookup? root (Pointer.segments pointer) = some target
  pointers : (localPointers root base).Nodup ∧
    ∀ pointer, pointer ∈ localPointers root base ↔ Authored root base pointer
  bounded : ∀ stage, Reached root base stage →
    stage.chain.length ≤ (localPointers root base).length
  solution : ∃! expand, Solves root base expand
  resolved : ∀ fields, root = .object fields → ∀ expand, Solves root base expand →
    resolve root base =
      let walked := walk (expand []) [] root
      ⟨walked.value, walked.replaced, (Report.ofSightings base walked.sightings).problems⟩

theorem resolutionTerminates (root : Json) (base : String) : Terminates root base where
  wellFounded := callsWellFounded
  distinct stage reached := (reachedVisits.mp reached).chainNodup
  authored stage reached := chainAuthored (reachedVisits.mp reached)
  found stage reached pointer among := by
    obtain ⟨_, target, found, -⟩ := (reachedVisits.mp reached).held among
    exact ⟨target, found⟩
  pointers := ⟨pointersNodup, fun _ => pointersAuthored⟩
  bounded stage reached := by
    have visit := reachedVisits.mp reached
    exact visit.chainNodup.length_le_of_subset visit.chainWithin
  solution := ⟨_, solutionExists, fun _ other => solutionUnique other solutionExists⟩
  resolved fields object expand solves := by
    subst object
    exact resolveSolved solves

end OpenApi.Resolution
