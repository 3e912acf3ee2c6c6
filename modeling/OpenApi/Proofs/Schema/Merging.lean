import OpenApi.Proofs.Json.Keys
import OpenApi.Proofs.Schema.Nodes
/-! What a merge keeps. It absorbs parts of the document and nothing else, so what every absorption
keeps holds of the outcome; and it breaks off only at a reference. -/
namespace OpenApi.Schema
open Resolution (HasReference)

def Blames (cause : Prop) (breach : Breach) : Prop :=
  (∃ owner reference, breach = .residualReference owner reference) ∧ cause

theorem blames {document node : Json} {reference owner} (inside : node.Within document)
    (is : Reference.of? node = some reference) :
    Blames (HasReference document) (.residualReference owner reference) :=
  ⟨⟨owner, reference, rfl⟩, node, reference, inside, is⟩

def Yields {α : Type} (cause : Prop) (holds : α → Prop) : Except Breach α → Prop
  | .ok a => holds a
  | .error breach => Blames cause breach

theorem Yields.bind {α β : Type} {cause : Prop} {mid : α → Prop} {last : β → Prop}
    {x : Except Breach α} {f : α → Except Breach β} (first : Yields cause mid x)
    (next : ∀ a, mid a → Yields cause last (f a)) : Yields cause last (x >>= f) := by
  cases x with
  | error breach => exact first
  | ok a => exact next a first

theorem Yields.imp {α : Type} {cause wider : Prop} {holds : α → Prop} {x : Except Breach α}
    (yields : Yields cause holds x) (widen : cause → wider) : Yields wider holds x := by
  cases x with
  | error breach => exact ⟨yields.1, widen yields.2⟩
  | ok a => exact yields

theorem Yields.succeeds {α : Type} {cause : Prop} {holds : α → Prop} {x : Except Breach α}
    (yields : Yields cause holds x) (none : ¬ cause) : ∃ a, x = .ok a := by
  cases x with
  | error breach => exact absurd yields.2 none
  | ok a => exact ⟨a, rfl⟩

namespace Merge

def Keeps (document : Json) (holds : Merged → Prop) (step : Step) : Prop :=
  ∀ m, holds m.merged → Yields (HasReference document) (fun next : Merge => holds next.merged) (step m)

section
variable {document : Json} {holds : Merged → Prop} {follow : String → Step}

theorem addMembersKeeps {members : List Json}
    (each : ∀ member ∈ members, Keeps document holds (addMember follow member)) :
    Keeps document holds (addMembers follow members) := by
  induction members with
  | nil => exact fun _ before => before
  | cons member rest ih =>
    have ⟨one, others⟩ := List.forall_mem_cons.mp each
    exact fun m before => (one m before).bind (ih others)

theorem addNestedItems (follow : String → Step) (fields : Fields Json) (m : Merge) :
    addNested follow fields m =
      match (Json.object fields).getItems? "allOf" with
      | some members => addMembers follow members m
      | none => .ok m := by
  induction fields with
  | nil => rfl
  | cons field rest ih =>
    simp only [Json.getItems?, Json.get?] at ih ⊢
    unfold addNested Fields.get?
    split
    · cases field.2 <;> rfl
    · exact ih

variable (absorbs : ∀ merged node, node.Within document → holds merged →
  holds (merged.absorb node))
include absorbs

theorem addMemberKeeps
    (follows : HasReference document → ∀ reference, Keeps document holds (follow reference))
    (node : Json) (inside : node.Within document) :
    Keeps document holds (addMember follow node) := by
  induction node using Json.ofMembers with
  | other value noObject =>
    intro m before
    cases value with
    | object => cases noObject
    | null | bool | number | string | array => exact before
  | object fields ih =>
    intro m before
    simp only [addMember]
    split
    · rename_i reference is
      exact follows ⟨_, _, inside, is⟩ reference m before
    · have nested : Yields (HasReference document) (fun next : Merge => holds next.merged)
          (addNested follow fields m) := by
        rw [addNestedItems]
        split
        · rename_i members listed
          refine addMembersKeeps (fun member among => ?_) m before
          exact ih _ members listed member among ((Json.withinItems listed among).trans inside)
        · exact before
      exact nested.bind fun next after => absorbs _ _ inside after

theorem followKeeps {components : Fields Json} (declared : Inside document components)
    (left : HasReference document) (owner : String) (budget : Nat) (reference : String) :
    Keeps document holds (Merge.follow components owner budget reference) := by
  induction budget generalizing reference with
  | zero =>
    intro m before
    unfold Merge.follow
    split
    · exact ⟨⟨_, _, rfl⟩, left⟩
    · split <;> exact before
  | succ budget ih =>
    intro m before
    unfold Merge.follow
    split
    · exact ⟨⟨_, _, rfl⟩, left⟩
    · rename_i name target found
      have inside := declared _ (Fields.getMember (declaredMember found))
      split
      · exact before
      · exact addMemberKeeps absorbs (fun _ => ih) target inside
          ⟨m.merged, name :: m.entered⟩ before

end
end Merge

theorem mergeKeeps {document : Json} (holds : Merged → Prop)
    (absorbs : ∀ merged node, node.Within document → holds merged → holds (merged.absorb node))
    (empty : holds .empty) {components : Fields Json}
    (declared : HasReference document → Inside document components) (owner : String)
    {members : List Json} (each : ∀ member ∈ members, member.Within document) :
    Yields (HasReference document) holds (mergeAll components owner members) := by
  have follows := fun left => Merge.followKeeps absorbs (declared left) left owner components.length
  have added := Merge.addMembersKeeps fun member among =>
    Merge.addMemberKeeps absorbs follows member (each member among)
  exact (added .empty empty).bind fun m ended => ended

theorem insideMerge {document : Json} {components : Fields Json}
    (declared : Inside document components) {owner members merged}
    (each : ∀ member ∈ members, Json.Within member document)
    (merges : mergeAll components owner members = .ok merged) :
    Inside document merged.properties := by
  have kept := mergeKeeps (fun merged => Inside document merged.properties)
    (fun _ _ inside gathered => insideAbsorb gathered inside) (by simp [Inside, Merged.empty])
    (fun _ => declared) owner each
  rw [merges] at kept
  exact kept

end OpenApi.Schema
