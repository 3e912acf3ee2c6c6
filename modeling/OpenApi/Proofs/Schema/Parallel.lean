import OpenApi.Proofs.Schema.Entered
import OpenApi.Proofs.Schema.Entries
/-! Builds that run in parallel. Two runs that agree step by step agree as a whole. Here they take
structures out by different makers, which only have to agree on the structures they are given. -/
namespace OpenApi.Schema.Build

def Parallel {α : Type} (m k : Build α) (p : Progress) : Prop :=
  Agree (fun r : α × Progress => p.recursive ⊆ r.2.recursive) (m.run p) (k.run p)

namespace Parallel
variable {α β : Type} {p : Progress}

theorem run {m k : Build α} (parallel : Parallel m k p) : m.run p = k.run p := parallel.same

theorem pure {a : α} : Parallel (pure a) (pure a) p :=
  Agree.ok (List.Subset.refl p.recursive)

theorem bind {m k : Build α} {f g : α → Build β} (first : Parallel m k p)
    (next : ∀ a q, p.recursive ⊆ q.recursive → Parallel (f a) (g a) q) :
    Parallel (m >>= f) (k >>= g) p := by
  unfold Parallel
  rw [StateT.run_bind, StateT.run_bind]
  exact Agree.bind first fun r more => (next r.1 r.2 more).imp fun _ => List.Subset.trans more

theorem read {f g : Progress → Build β} (next : Parallel (f p) (g p) p) :
    Parallel (get >>= f) (get >>= g) p :=
  next

theorem modify {change : Progress → Progress} {f g : Unit → Build β}
    (more : p.recursive ⊆ (change p).recursive) (next : Parallel (f ()) (g ()) (change p)) :
    Parallel (modify change >>= f) (modify change >>= g) p :=
  Agree.imp next fun _ => List.Subset.trans more

theorem ofMeets {m : Build α}
    (grows : Meets (fun _ => True) m p fun _ q => p.recursive ⊆ q.recursive) : Parallel m m p :=
  ⟨rfl, fun _ ok => grows.ended ok⟩

theorem bindLift {x : Except Breach α} {f g : α → Build β}
    (next : ∀ a, x = .ok a → Parallel (f a) (g a) p) :
    Parallel (liftM x >>= f) (liftM x >>= g) p := by
  cases x with
  | ok a => exact next a rfl
  | error breach => exact Agree.error

end Parallel

section
variable {components : Fields Json} {memo : List (Json × String)} {p : Progress}

theorem allocateParallel (base : String) : Parallel (allocate base) (allocate base) p :=
  .ofMeets (List.Subset.refl p.recursive)

theorem startParallel (name : String) : Parallel (start name) (start name) p := by
  unfold start
  split
  · exact .ofMeets (.throw trivial)
  · refine .ofMeets (.read ?_)
    split
    · exact .throw trivial
    · exact .modify (List.Subset.refl _)

theorem namedSlotParallel (owner reference : String) :
    Parallel (namedSlot components owner reference) (namedSlot components owner reference) p := by
  unfold namedSlot
  split
  · exact .pure
  · exact .ofMeets (.throw trivial)

def MakeParallel (make make' : Maker) (memo : List (Json × String)) (node : Json) : Prop :=
  ∀ name p, memo ⊆ p.recursive → Parallel (make node name) (make' node name) p

def HoistParallel (make make' : Maker) (memo : List (Json × String)) (node : Json) : Prop :=
  ∀ part, part.Within node → ∀ base p, memo ⊆ p.recursive →
    Parallel (hoist make part base) (hoist make' part base) p

theorem HoistParallel.inward {make make' : Maker} {node part : Json}
    (hoists : HoistParallel make make' memo node) (inside : part.Within node) :
    HoistParallel make make' memo part :=
  fun inner within => hoists inner (within.trans inside)

theorem HoistParallel.later {make make' : Maker} {node : Json} {next : List (Json × String)}
    (hoists : HoistParallel make make' memo node) (more : memo ⊆ next) :
    HoistParallel make make' next node :=
  fun part inside base p most => hoists part inside base p (List.Subset.trans more most)

theorem hoistParallel {make make' : Maker} {node : Json} {base : String}
    (plain : ¬ (findReference? node).isSome → MakeParallel make make' p.recursive node)
    (marked : (findReference? node).isSome → p.recursive.lookup node = none →
      ∀ name, MakeParallel make make' ((node, name) :: p.recursive) node) :
    Parallel (hoist make node base) (hoist make' node base) p := by
  -- A structure with a reference is only made where it was not noted, and it is noted before.
  unfold hoist
  refine .read ?_
  cases recurs : (findReference? node).isSome with
  | false =>
    refine (allocateParallel base).bind fun name q more => ?_
    exact (plain (by simp [recurs]) name q more).bind fun _ _ _ => .pure
  | true =>
    cases given : p.recursive.lookup node with
    | some name => exact .pure
    | none =>
      refine (allocateParallel base).bind fun name q more => ?_
      refine .modify (List.subset_cons_self _ _) ?_
      exact (marked recurs given name name _ (List.cons_subset_cons _ more)).bind fun _ _ _ => .pure

variable {make make' : Maker}

theorem slotAtParallel {key fields base}
    (each : ∀ value, (Json.object fields).get? key = some value →
      Parallel (slot components (some make) value base) (slot components (some make') value base)
        p) :
    Parallel (slotAt components (some make) key fields base)
      (slotAt components (some make') key fields base) p := by
  rw [slotAtGet, slotAtGet]
  cases given : (Json.object fields).get? key with
  | none => exact .pure
  | some value => exact (each value given).bind fun _ _ _ => .pure

theorem flatSlotParallel {fields base} (flat : Flat (.object fields))
    (part : ∀ {key base}, Parallel (slotAt components (some make) key fields base)
      (slotAt components (some make') key fields base) p) :
    Parallel (slot components (some make) (.object fields) base)
      (slot components (some make') (.object fields) base) p := by
  cases isArray : Node.isArray (.object fields) with
  | true =>
    rw [slotArray flat isArray, slotArray flat isArray]
    exact part.bind fun _ _ _ => .pure
  | false =>
    cases isObject : Node.isObject (.object fields) with
    | false =>
      rw [slotPlain flat isArray isObject, slotPlain flat isArray isObject]
      exact .pure
    | true =>
      cases given : Node.additionalProperties? (.object fields) with
      | none =>
        rw [slotObject flat isArray isObject given, slotObject flat isArray isObject given]
        exact .pure
      | some values =>
        rw [slotMap flat isArray isObject given, slotMap flat isArray isObject given]
        exact part.bind fun _ _ _ => .pure

theorem slotParallel {node : Json} (hoists : HoistParallel make make' p.recursive node)
    (base : String) :
    Parallel (slot components (some make) node base) (slot components (some make') node base)
      p := by
  induction node using Json.ofParts generalizing base p with
  | null | bool | number | string | array => exact .pure
  | object fields ih =>
    have part {key base} : Parallel (slotAt components (some make) key fields base)
        (slotAt components (some make') key fields base) p :=
      slotAtParallel fun value given =>
        ih _ (Fields.getMember given) (hoists.inward (Json.withinGet given)) base
    cases is : Reference.of? (.object fields) with
    | some reference =>
      unfold slot
      simp only [is]
      exact (namedSlotParallel base reference).bind fun _ _ _ => .pure
    | none =>
      by_cases needs : Node.needsEntry (.object fields) = true
      · unfold slot
        simp only [is, needs, ↓reduceIte]
        exact hoists _ .refl base p (List.Subset.refl _)
      · exact flatSlotParallel ⟨is, Bool.eq_false_iff.mpr needs⟩ part

theorem propertiesParallel {owner required} {declared : Fields Json}
    (hoists : ∀ m ∈ declared, HoistParallel make make' p.recursive m.2) :
    Parallel (properties components (some make) owner required declared)
      (properties components (some make') owner required declared) p := by
  induction declared generalizing p with
  | nil => exact .pure
  | cons field rest ih =>
    have ⟨first, others⟩ := List.forall_mem_cons.mp hoists
    unfold properties
    refine (slotParallel first _).bind fun slot q more => ?_
    exact (ih fun m among => (others m among).later more).bind fun _ _ _ => .pure

def MembersParallel (make make' : Maker) (memo : List (Json × String)) (node : Json) : Prop :=
  ∀ key member, node.get? key = some member → HoistParallel make make' memo member

theorem objectParallel {node : Json} {name required} {declared : Fields Json}
    (members : MembersParallel make make' p.recursive node)
    (parts : ∀ m ∈ declared, HoistParallel make make' p.recursive m.2) :
    Parallel (objectEntry components (some make) node name declared required)
      (objectEntry components (some make') node name declared required) p := by
  unfold objectEntry
  split
  · rename_i values given
    exact (slotParallel (members _ _ (Node.additionalGiven given)) _).bind fun _ _ _ => .pure
  · exact (propertiesParallel parts).bind fun _ _ _ => .pure

theorem arrayParallel {node : Json} {name} (members : MembersParallel make make' p.recursive node) :
    Parallel (arrayEntry components (some make) node name)
      (arrayEntry components (some make') node name) p := by
  unfold arrayEntry
  split
  · rename_i items given
    exact (slotParallel (members _ _ given) _).bind fun _ _ _ => .pure
  · exact .pure

theorem optionsParallel {owner : String} {index : Nat} {members : List Json}
    (each : ∀ member ∈ members, MakeParallel make make' p.recursive member) :
    Parallel (optionsFrom components (some make) owner index members)
      (optionsFrom components (some make') owner index members) p := by
  induction members generalizing index p with
  | nil => exact .pure
  | cons member rest ih =>
    have ⟨one, others⟩ := List.forall_mem_cons.mp each
    rw [optionsMember, optionsMember]
    refine (allocateParallel _).bind fun name q more => ?_
    refine (one name q more).bind fun entries r most => ?_
    have onward := List.Subset.trans more most
    refine (ih fun member among name s last => ?_).bind fun _ _ _ => .pure
    exact others member among name s (List.Subset.trans onward last)

structure PartsParallel (components : Fields Json) (make make' : Maker)
    (memo : List (Json × String)) (node : Json) : Prop where
  own : MembersParallel make make' memo node
  merged : ∀ {owner members merged}, Node.composition? node = some (.allOf, members) →
    mergeAll components owner members = .ok merged →
    ∀ m ∈ (merged.absorb node).properties, HoistParallel make make' memo m.2
  options : ∀ {kind members}, Node.composition? node = some (kind, members) →
    ∀ member ∈ members, MakeParallel make make' memo member

theorem PartsParallel.later {node : Json} {next : List (Json × String)}
    (parts : PartsParallel components make make' memo node) (more : memo ⊆ next) :
    PartsParallel components make make' next node where
  own key member given := (parts.own key member given).later more
  merged composed merges m among := (parts.merged composed merges m among).later more
  options composed member among name p most :=
    parts.options composed member among name p (List.Subset.trans more most)

theorem entryParallel {node : Json} {name : String}
    {options options' : Composition.Kind → Build (List String × List Entry)}
    (parts : PartsParallel components make make' p.recursive node)
    (offers : ∀ {kind members}, Node.composition? node = some (kind, members) →
      Parallel (options kind) (options' kind) p) :
    Parallel (entryOf components (some make) options node name)
      (entryOf components (some make') options' node name) p := by
  unfold entryOf
  split
  · exact (namedSlotParallel name _).bind fun _ _ _ => .pure
  · rename_i members plain composed
    refine .bindLift fun merged merges => ?_
    exact (objectParallel parts.own (parts.merged composed merges)).bind fun _ _ _ => .pure
  · rename_i kind members choice plain composed
    exact (offers composed).bind fun _ _ _ => .pure
  · split
    · refine (objectParallel parts.own fun m among => ?_).bind fun _ _ _ => .pure
      cases given : node.getFields? "properties" with
      | none => simp [given] at among
      | some fields =>
        rw [given] at among
        exact (parts.own _ _ (Json.getFieldsObject.mp given)).inward (.field among .refl)
    · split
      · exact (arrayParallel parts.own).bind fun _ _ _ => .pure
      · exact .pure

theorem entriesParallel {node : Json} (parts : PartsParallel components make make' p.recursive node)
    (name : String) :
    Parallel (entriesOf components (some make) node name)
      (entriesOf components (some make') node name) p := by
  cases node with
  | object fields =>
    unfold entriesOf
    refine (startParallel name).bind fun _ q more => ?_
    refine (entryParallel (parts.later more) fun composed => ?_).bind fun _ _ _ => .pure
    rw [optionsAtItems, optionsAtItems, Node.compositionItems composed]
    exact optionsParallel ((parts.later more).options composed)
  | null | bool | number | string | array =>
    unfold entriesOf
    refine (startParallel name).bind fun _ q more => ?_
    refine (entryParallel (parts.later more) fun composed => ?_).bind fun _ _ _ => .pure
    cases composed

end
end OpenApi.Schema.Build
