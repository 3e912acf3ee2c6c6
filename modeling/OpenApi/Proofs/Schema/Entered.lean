import OpenApi.Proofs.Schema.Merging
/-! A merge enters a declared schema at most once, however its members refer to one another. So the
budget of a merge only has to cover the declared schemas, and a larger one makes no difference. -/
namespace OpenApi.Schema

structure Agree {α : Type} (holds : α → Prop) (x y : Except Breach α) : Prop where
  same : x = y
  result : ∀ a, x = .ok a → holds a

namespace Agree
variable {α β : Type} {x y : Except Breach α} {holds other : α → Prop}

theorem ok {a : α} (done : holds a) : Agree holds (.ok a) (.ok a) :=
  ⟨rfl, fun _ is => by cases is; exact done⟩

theorem error {breach : Breach} : Agree holds (.error breach) (.error breach) :=
  ⟨rfl, fun _ is => by cases is⟩

theorem bind {f g : α → Except Breach β} {last : β → Prop} (agree : Agree holds x y)
    (next : ∀ a, holds a → Agree last (f a) (g a)) : Agree last (x >>= f) (y >>= g) := by
  obtain ⟨rfl, result⟩ := agree
  cases x with
  | error breach => exact error
  | ok a => exact next a (result a rfl)

theorem imp (agree : Agree holds x y) (weaken : ∀ a, holds a → other a) : Agree other x y :=
  ⟨agree.same, fun a ok => weaken a (agree.result a ok)⟩

end Agree

namespace Merge

def unentered (components : Fields Json) (entered : List String) : Fields Json :=
  components.filter (·.1 ∉ entered)

section
variable {components : Fields Json} {entered next : List String}

theorem unenteredRest (more : entered ⊆ next) :
    unentered components next = (unentered components entered).filter (·.1 ∉ next) := by
  unfold unentered
  rw [List.filter_filter]
  refine List.filter_congr fun m _ => ?_
  by_cases old : m.1 ∈ entered
  · simp [old, more old]
  · simp [old]

theorem unenteredFewer (components : Fields Json) (more : entered ⊆ next) :
    (unentered components next).length ≤ (unentered components entered).length := by
  rw [unenteredRest more]
  exact List.length_filter_le _ _

theorem unenteredLess {reference name target}
    (declares : declared? components reference = some (name, target)) (fresh : name ∉ entered) :
    (unentered components (name :: entered)).length < (unentered components entered).length := by
  have among := Fields.getMember (declaredMember declares)
  rw [unenteredRest (List.subset_cons_self _ _), List.length_filter_lt_length_iff_exists]
  exact ⟨(name, target), List.mem_filter.mpr ⟨among, by simpa using fresh⟩, by simp⟩

def StepsAgree (step step' : Step) (entered : List String) : Prop :=
  ∀ m : Merge, entered ⊆ m.entered →
    Agree (fun next : Merge => m.entered ⊆ next.entered) (step m) (step' m)

variable {follow follow' : String → Step}

theorem addMembersAgree {members : List Json}
    (each : ∀ member ∈ members, StepsAgree (addMember follow member) (addMember follow' member)
      entered) : StepsAgree (addMembers follow members) (addMembers follow' members) entered := by
  induction members with
  | nil => exact fun m _ => .ok (List.Subset.refl m.entered)
  | cons member rest ih =>
    have ⟨one, others⟩ := List.forall_mem_cons.mp each
    intro m before
    refine (one m before).bind fun next more => ?_
    exact (ih others next (List.Subset.trans before more)).imp fun _ => List.Subset.trans more

theorem addMemberAgree (follows : ∀ reference, StepsAgree (follow reference) (follow' reference)
    entered) (node : Json) : StepsAgree (addMember follow node) (addMember follow' node) entered := by
  induction node using Json.ofMembers with
  | other value noObject =>
    intro m _
    cases value with
    | object => cases noObject
    | null | bool | number | string | array => exact .ok (List.Subset.refl m.entered)
  | object fields ih =>
    intro m before
    simp only [addMember]
    split
    · exact follows _ m before
    · have nested : Agree (fun next : Merge => m.entered ⊆ next.entered)
          (addNested follow fields m) (addNested follow' fields m) := by
        rw [addNestedItems, addNestedItems]
        split
        · rename_i members listed
          exact addMembersAgree (ih _ members listed) m before
        · exact .ok (List.Subset.refl m.entered)
      exact nested.bind fun next more => .ok more

theorem followAgree (owner : String) {budget budget' : Nat}
    (enough : (unentered components entered).length ≤ budget)
    (enough' : (unentered components entered).length ≤ budget') (reference : String) :
    StepsAgree (Merge.follow components owner budget reference)
      (Merge.follow components owner budget' reference) entered := by
  -- Each schema is entered once, so a budget for those that are not entered is never used up.
  induction left : (unentered components entered).length using Nat.strongRecOn
    generalizing entered budget budget' reference with
  | ind left ih =>
    intro m before
    unfold Merge.follow
    split
    · exact .error
    · rename_i name target declares
      by_cases known : name ∈ m.entered
      · simp only [known, ↓reduceIte]
        exact .ok (List.Subset.refl m.entered)
      · have fewer := unenteredFewer components before
        have less := unenteredLess declares known
        obtain ⟨rest, rfl⟩ : ∃ rest, budget = rest + 1 := ⟨budget - 1, by omega⟩
        obtain ⟨rest', rfl⟩ : ∃ rest, budget' = rest + 1 := ⟨budget' - 1, by omega⟩
        simp only [known, ↓reduceIte]
        have follows : ∀ reference, StepsAgree (Merge.follow components owner rest reference)
            (Merge.follow components owner rest' reference) (name :: m.entered) :=
          fun reference => ih _ (by omega) (by omega) (by omega) reference rfl
        refine (addMemberAgree follows target _ (List.Subset.refl _)).imp fun next more => ?_
        exact List.Subset.trans (List.subset_cons_self _ _) more

end
end Merge

theorem mergeSettled {components : Fields Json} {budget : Nat} (enough : components.length ≤ budget)
    (owner : String) (members : List Json) :
    Merge.addMembers (Merge.follow components owner budget) members .empty =
      Merge.addMembers (Merge.follow components owner components.length) members .empty := by
  have all : (Merge.unentered components []).length ≤ components.length := List.length_filter_le _ _
  have follows := Merge.followAgree owner (Nat.le_trans all enough) all
  exact (Merge.addMembersAgree (fun member _ => Merge.addMemberAgree follows member) .empty
    (List.Subset.refl _)).same

end OpenApi.Schema
