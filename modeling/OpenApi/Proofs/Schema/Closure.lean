import OpenApi.Proofs.Schema.Tour
/-! The outcome of a merge. It absorbs what its members inherit in the order of the tour, and then the
node itself; it breaks off where the tour comes to a reference that nothing is declared for. -/
namespace OpenApi.Schema

namespace Node

def declaredProperties (node : Json) : Fields Json := (node.getFields? "properties").getD []

end Node

structure Gathered (nodes : List Json) (merged : Merged) : Prop where
  names : ∀ name, name ∈ Fields.keys merged.properties ↔
    ∃ node ∈ nodes, name ∈ Fields.keys (Node.declaredProperties node)
  distinct : (Fields.keys merged.properties).Nodup
  schemas : ∀ name, Fields.get? name merged.properties =
    nodes.reverse.findSome? fun node => Fields.get? name (Node.declaredProperties node).reverse
  required : ∀ name, name ∈ merged.required ↔ ∃ node ∈ nodes, name ∈ Node.requiredNames node
  requiredDistinct : merged.required.Nodup
  description : merged.description = nodes.reverse.findSome? (·.getText? "description")

theorem absorbNames (merged : Merged) (node : Json) (name : String) :
    name ∈ Fields.keys (merged.absorb node).properties ↔
      name ∈ Fields.keys merged.properties ∨ name ∈ Fields.keys (Node.declaredProperties node) := by
  have back : Fields.keys (Node.declaredProperties node).reverse =
      (Fields.keys (Node.declaredProperties node)).reverse := List.map_reverse
  rw [← Fields.getSome, Merged.absorb, Fields.getSetAll, Option.isSome_or, Bool.or_eq_true,
    ← Node.declaredProperties, Fields.getSome, Fields.getSome, back, List.mem_reverse, or_comm]

theorem lastFound {α β : Type} (f : α → Option β) (list : List α) (a : α) :
    (list ++ [a]).reverse.findSome? f = (f a).or (list.reverse.findSome? f) := by
  rw [List.reverse_append, List.reverse_singleton, List.singleton_append, List.findSome?_cons]
  cases f a <;> rfl

theorem Gathered.absorb {nodes : List Json} {merged : Merged} (gathered : Gathered nodes merged)
    (node : Json) : Gathered (nodes ++ [node]) (merged.absorb node) := by
  constructor
  case names =>
    intro name
    rw [absorbNames, gathered.names]
    simp [or_and_right, exists_or]
  case distinct => exact Fields.setAllKeys _ gathered.distinct
  case schemas =>
    intro name
    rw [lastFound, Merged.absorb, Fields.getSetAll, gathered.schemas, Node.declaredProperties]
  case required =>
    intro name
    rw [Merged.absorb, addAllMember, gathered.required]
    simp [or_and_right, exists_or]
  case requiredDistinct => exact addAllNodup _ gathered.requiredDistinct
  case description => rw [lastFound, Merged.absorb, gathered.description]

theorem absorbOther {node : Json} (noObject : node.fields? = none) (merged : Merged) :
    merged.absorb node = merged := by
  cases node with
  | object => cases noObject
  | null | bool | number | string | array => rfl

namespace Merge

def take (owner : String) (merged : Merged) (node : Json) : Except Breach Merged :=
  match Reference.of? node with
  | some reference => .error (.residualReference owner reference)
  | none => .ok (merged.absorb node)

section
variable {components : Fields Json} {owner : String} {entered : List String} {members : List Json}

def Follows (components : Fields Json) (owner : String) (entered : List String) (members : List Json)
    (step : Step) : Prop :=
  ∃ visited after, Tours components entered members visited after ∧
    ∀ merged, step ⟨merged, entered⟩ =
      (fun last => ⟨last, after⟩) <$> visited.foldlM (take owner) merged

theorem Follows.done : Follows components owner entered [] .ok :=
  ⟨[], entered, .done, fun _ => rfl⟩

variable {follow : String → Step}

theorem addMembersFollows
    (each : ∀ member ∈ members, ∀ next, entered ⊆ next →
      Follows components owner next [member] (addMember follow member))
    (next : List String) (more : entered ⊆ next) :
    Follows components owner next members (addMembers follow members) := by
  induction members generalizing next with
  | nil => exact .done
  | cons member rest ih =>
    have ⟨one, others⟩ := List.forall_mem_cons.mp each
    obtain ⟨visited, between, first, runs⟩ := one next more
    obtain ⟨later, after, tours, ends⟩ := ih others between (List.Subset.trans more (toursGrow first))
    refine ⟨visited ++ later, after, first.cons tours, fun merged => ?_⟩
    rw [List.foldlM_append, addMembers, runs]
    cases visited.foldlM (take owner) merged with
    | error breach => rfl
    | ok taken => exact ends taken

theorem addMemberFollows
    (follows : ∀ node reference, Reference.of? node = some reference → ∀ next, entered ⊆ next →
      Follows components owner next [node] (follow reference)) (node : Json) :
    ∀ next, entered ⊆ next → Follows components owner next [node] (addMember follow node) := by
  induction node using Json.ofMembers with
  | other value noObject =>
    intro next more
    have plain : Reference.of? value = none := by
      cases value with
      | object => cases noObject
      | null | bool | number | string | array => rfl
    have orphan : Node.parents value = [] := by
      cases value with
      | object => cases noObject
      | null | bool | number | string | array => rfl
    have nested : Tours components next (Node.parents value) [] next := by
      rw [orphan]
      exact .done
    refine ⟨[value], next, .plain plain nested .done, fun merged => ?_⟩
    rw [List.foldlM_cons, take, plain]
    simp only [absorbOther noObject]
    cases value with
    | object => cases noObject
    | null | bool | number | string | array => rfl
  | object fields ih =>
    intro next more
    cases is : Reference.of? (.object fields) with
    | some reference =>
      have step : addMember follow (.object fields) = follow reference := by
        funext m
        simp only [addMember, is]
      rw [step]
      exact follows _ reference is next more
    | none =>
      have nested : Follows components owner next (Node.parents (.object fields))
          (addNested follow fields) := by
        have step := funext (addNestedItems follow fields)
        rw [step, Node.parents]
        cases listed : (Json.object fields).getItems? "allOf" with
        | none => exact .done
        | some items => exact addMembersFollows (ih _ items listed) next more
      obtain ⟨visited, after, tours, runs⟩ := nested
      refine ⟨visited ++ [.object fields] ++ [], after, .plain is tours .done, fun merged => ?_⟩
      simp only [addMember, is, runs, List.append_nil, List.foldlM_append]
      cases visited.foldlM (take owner) merged with
      | error breach => rfl
      | ok taken =>
        simp only [List.foldlM_cons, take, is]
        rfl

theorem followFollows (owner : String) {budget : Nat}
    (enough : (unentered components entered).length ≤ budget) (node : Json) (reference : String)
    (is : Reference.of? node = some reference) (next : List String) (more : entered ⊆ next) :
    Follows components owner next [node] (Merge.follow components owner budget reference) := by
  -- Each schema that is entered leaves fewer to enter, so the budget lasts for the whole tour.
  induction left : (unentered components entered).length using Nat.strongRecOn
    generalizing entered budget node reference next with
  | ind left ih =>
    cases declares : declared? components reference with
    | none =>
      refine ⟨[node] ++ [], next, .undeclared is declares .done, fun merged => ?_⟩
      simp only [Merge.follow, declares, List.append_nil, List.foldlM_cons, take, is]
      rfl
    | some declared =>
      obtain ⟨name, target⟩ := declared
      by_cases known : name ∈ next
      · refine ⟨[], next, .known is declares known .done, fun merged => ?_⟩
        unfold Merge.follow
        simp only [declares, known, ↓reduceIte]
        rfl
      · have fewer := unenteredFewer components more
        have less := unenteredLess declares known
        obtain ⟨rest, rfl⟩ : ∃ rest, budget = rest + 1 := ⟨budget - 1, by omega⟩
        have follows : ∀ node reference, Reference.of? node = some reference → ∀ deeper,
            name :: next ⊆ deeper →
            Follows components owner deeper [node] (Merge.follow components owner rest reference) :=
          fun node reference is deeper more =>
            ih _ (by omega) (by omega) node reference is deeper more rfl
        obtain ⟨visited, after, tours, runs⟩ :=
          addMemberFollows follows target _ (List.Subset.refl _)
        refine ⟨visited ++ [], after, .enters is declares known tours .done, fun merged => ?_⟩
        simp only [Merge.follow, declares, known, ↓reduceIte, runs, List.append_nil]

end
end Merge

theorem mergeFollows (components : Fields Json) (owner : String) (members : List Json) :
    Merge.Follows components owner [] members
      (Merge.addMembers (Merge.follow components owner components.length) members) := by
  have enough : (Merge.unentered components []).length ≤ components.length := List.length_filter_le _ _
  exact Merge.addMembersFollows (fun member _ =>
    Merge.addMemberFollows (Merge.followFollows owner enough) member) [] (List.Subset.refl _)

theorem mergeTakes (components : Fields Json) (owner : String) (members : List Json) :
    ∃ visited entered, Merge.Tours components [] members visited entered ∧
      mergeAll components owner members = visited.foldlM (Merge.take owner) .empty ∧
      Merge.addMembers (Merge.follow components owner components.length) members .empty =
        (fun merged => ⟨merged, entered⟩) <$> mergeAll components owner members := by
  obtain ⟨visited, entered, tour, runs⟩ := mergeFollows components owner members
  have ended := runs .empty
  have taken : mergeAll components owner members = visited.foldlM (Merge.take owner) .empty := by
    unfold mergeAll Merge.empty
    rw [ended]
    cases visited.foldlM (Merge.take owner) .empty <;> rfl
  exact ⟨visited, entered, tour, taken, taken ▸ ended⟩

def heir (above property : String) : Json :=
  .object [
    ("allOf", .array [.object [("$ref", .string ("#/components/schemas/" ++ above))]]),
    ("properties", .object [(property, .object [])])]

example :
    (mergeAll [("A", heir "B" "a"), ("B", heir "A" "b")] "C" (Node.parents (heir "A" "c"))).toOption.map
      (fun merged => Fields.keys (merged.absorb (heir "A" "c")).properties) =
        some ["b", "a", "c"] := by
  decide +kernel

end OpenApi.Schema
