import Mathlib.Data.List.Perm.Basic
import OpenApi.Proofs.Json.Keys
/-! Values that differ in nothing but the order of the members of their objects. What is found in one
of them, under a key or along segments, is found in the other up to that order. -/
namespace OpenApi

theorem Fields.getPerm {α : Type} {fields others : Fields α} (distinct : (keys fields).Nodup)
    (order : fields.Perm others) (key : String) : get? key fields = get? key others := by
  have distinct' : (keys others).Nodup := (order.map Prod.fst).nodup_iff.mp distinct
  refine Option.ext fun value => ⟨fun found => ?_, fun found => ?_⟩
  · exact getOfMember distinct' (order.mem_iff.mp (getMember found))
  · exact getOfMember distinct (order.mem_iff.mpr (getMember found))

namespace Json

inductive Member (alike : Json → Json → Prop) : String × Json → String × Json → Prop where
  | of {key a b} (values : alike a b) : Member alike (key, a) (key, b)

/-- The values are equal up to the order of members, at every depth. -/
inductive Reordered : Json → Json → Prop where
  | scalar {value} (noFields : value.fields? = none) (noItems : value.items? = none) :
      Reordered value value
  | array {items others} (each : List.Forall₂ Reordered items others) :
      Reordered (.array items) (.array others)
  | object {fields paired others : List (String × Json)}
      (each : List.Forall₂ (Member Reordered) fields paired) (order : paired.Perm others) :
      Reordered (.object fields) (.object others)

section
variable {α β : Type} {related other : α → β → Prop} {as : List α} {bs : List β}

theorem relatedFrom (each : List.Forall₂ related as bs) {b} (among : b ∈ bs) :
    ∃ a ∈ as, related a b := by
  induction each with
  | nil => cases among
  | cons first _ ih =>
    obtain rfl | later := List.mem_cons.mp among
    · exact ⟨_, List.mem_cons_self, first⟩
    · obtain ⟨a, listed, pair⟩ := ih later
      exact ⟨a, List.mem_cons_of_mem _ listed, pair⟩

theorem relatedImp (each : List.Forall₂ related as bs)
    (next : ∀ a ∈ as, ∀ b ∈ bs, related a b → other a b) : List.Forall₂ other as bs := by
  induction each with
  | nil => exact .nil
  | cons first _ ih =>
    refine .cons (next _ List.mem_cons_self _ List.mem_cons_self first) (ih ?_)
    exact fun a listed b among => next a (List.mem_cons_of_mem _ listed) b
      (List.mem_cons_of_mem _ among)

theorem relatedCongr (same : ∀ a ∈ as, ∀ b ∈ bs, related a b ↔ other a b) :
    List.Forall₂ related as bs ↔ List.Forall₂ other as bs :=
  ⟨fun each => relatedImp each fun a listed b among => (same a listed b among).mp,
    fun each => relatedImp each fun a listed b among => (same a listed b among).mpr⟩

theorem relatedAt (each : List.Forall₂ related as bs) {index : Nat} {a}
    (listed : as[index]? = some a) : ∃ b, bs[index]? = some b ∧ related a b := by
  obtain ⟨inside, rfl⟩ := List.getElem?_eq_some_iff.mp listed
  have inside' : index < bs.length := each.length_eq ▸ inside
  exact ⟨bs[index], List.getElem?_eq_getElem inside', each.get inside inside'⟩

end

section
variable {alike : Json → Json → Prop} {fields paired : Fields Json}

theorem pairedKeys (each : List.Forall₂ (Member alike) fields paired) :
    Fields.keys paired = Fields.keys fields := by
  induction each with
  | nil => rfl
  | cons pair _ ih =>
    cases pair
    exact congrArg₂ List.cons rfl ih

theorem pairedGet (each : List.Forall₂ (Member alike) fields paired) {key value}
    (found : Fields.get? key fields = some value) :
    ∃ value', Fields.get? key paired = some value' ∧ alike value value' := by
  induction each with
  | nil => cases found
  | cons pair _ ih =>
    cases pair with
    | of values =>
      unfold Fields.get? at found ⊢
      split at found
      · rename_i same
        cases Option.some.inj found
        exact ⟨_, if_pos same, values⟩
      · rename_i differ
        rw [if_neg differ]
        exact ih found

theorem pairedBack {alike' : Json → Json → Prop} {others : Fields Json}
    (back : ∀ m ∈ fields, ∀ value, alike m.2 value → alike' value m.2)
    (each : List.Forall₂ (Member alike) fields paired) (order : paired.Perm others) :
    ∃ paired', List.Forall₂ (Member alike') others paired' ∧ paired'.Perm fields := by
  have flipped : List.Forall₂ (fun m n => Member alike' n m) fields paired := by
    refine relatedImp each fun m listed n _ pair => ?_
    cases pair with
    | of values => exact .of (back _ listed _ values)
  exact List.perm_comp_forall₂ order.symm flipped.flip

theorem pairedMap {alike' : Json → Json → Prop} {f g : String × Json → Json}
    (each : List.Forall₂ (Member alike) fields paired)
    (next : ∀ m ∈ fields, ∀ n ∈ paired, Member alike m n → alike' (f m) (g n)) :
    List.Forall₂ (Member alike') (fields.map fun m => (m.1, f m))
      (paired.map fun n => (n.1, g n)) := by
  refine List.forall₂_map_left_iff.mpr (List.forall₂_map_right_iff.mpr ?_)
  refine relatedImp each fun m listed n among pair => ?_
  have values := next m listed n among pair
  cases pair
  exact .of values

end

namespace Reordered
variable {a b : Json}

theorem refl (a : Json) : Reordered a a := by
  induction a using ofParts with
  | null | bool | number | string => exact .scalar rfl rfl
  | array items ih => exact .array (List.forall₂_same.mpr ih)
  | object fields ih =>
    exact .object (List.forall₂_same.mpr fun m listed => .of (ih m listed)) (.refl _)

theorem ofPerm {fields others : Fields Json} (order : fields.Perm others) :
    Reordered (.object fields) (.object others) :=
  .object (List.forall₂_same.mpr fun m _ => .of (.refl m.2)) order

theorem symm (same : Reordered a b) : Reordered b a := by
  induction a using ofParts generalizing b with
  | null | bool | number | string =>
    cases same
    exact .scalar rfl rfl
  | array items ih =>
    cases same with
    | scalar _ noItems => cases noItems
    | array each => exact .array (relatedImp each fun item listed _ _ => ih item listed).flip
  | object fields ih =>
    cases same with
    | scalar noFields => cases noFields
    | object each order =>
      obtain ⟨paired', each', order'⟩ := pairedBack (fun m listed _ => ih m listed) each order
      exact .object each' order'

theorem keyed (same : Reordered a b) (one : a.wellKeyed = true) : b.wellKeyed = true := by
  induction a using ofParts generalizing b with
  | null | bool | number | string =>
    cases same
    exact one
  | array items ih =>
    cases same with
    | scalar _ noItems => cases noItems
    | array each =>
      refine wellKeyedArray.mpr fun other among => ?_
      obtain ⟨item, listed, pair⟩ := relatedFrom each among
      exact ih item listed pair (wellKeyedArray.mp one item listed)
  | object fields ih =>
    obtain ⟨distinct, inner⟩ := wellKeyedObject.mp one
    cases same with
    | scalar noFields => cases noFields
    | @object _ paired others each order =>
      refine wellKeyedObject.mpr ⟨?_, fun n among => ?_⟩
      · rw [← pairedKeys each] at distinct
        exact (order.map Prod.fst).nodup_iff.mp distinct
      · obtain ⟨m, listed, pair⟩ := relatedFrom each (order.mem_iff.mpr among)
        cases pair with
        | of values => exact ih _ listed values (inner _ listed)

theorem get {fields others : Fields Json} (same : Reordered (.object fields) (.object others))
    (keyed : (Json.object fields).wellKeyed = true) {key value}
    (found : Fields.get? key fields = some value) :
    ∃ value', Fields.get? key others = some value' ∧ Reordered value value' := by
  cases same with
  | scalar noFields => cases noFields
  | object each order =>
    obtain ⟨value', found', values⟩ := pairedGet each found
    have distinct := (wellKeyedObject.mp keyed).1
    rw [← pairedKeys each] at distinct
    exact ⟨value', Fields.getPerm distinct order key ▸ found', values⟩

theorem step (same : Reordered a b) (keyed : a.wellKeyed = true) {segment child}
    (found : Pointer.step? a segment = some child) :
    ∃ child', Pointer.step? b segment = some child' ∧ Reordered child child' := by
  cases same with
  | scalar noFields noItems =>
    cases a with
    | object => cases noFields
    | array => cases noItems
    | null | bool | number | string => cases found
  | array each =>
    obtain ⟨index, numbered, listed⟩ := Option.bind_eq_some_iff.mp found
    obtain ⟨child', listed', children⟩ := relatedAt each listed
    exact ⟨child', Option.bind_eq_some_iff.mpr ⟨index, numbered, listed'⟩, children⟩
  | object each order => exact (object each order).get keyed found

theorem lookup (same : Reordered a b) (keyed : a.wellKeyed = true) {segments target}
    (found : Pointer.lookup? a segments = some target) :
    ∃ target', Pointer.lookup? b segments = some target' ∧ Reordered target target' := by
  induction segments generalizing a b with
  | nil =>
    cases Option.some.inj found
    exact ⟨b, rfl, same⟩
  | cons segment rest ih =>
    obtain ⟨child, first, deeper⟩ := Option.bind_eq_some_iff.mp found
    obtain ⟨child', first', children⟩ := same.step keyed first
    obtain ⟨target', deeper', targets⟩ :=
      ih children (wellKeyedWithin (stepWithin first) keyed) deeper
    exact ⟨target', Option.bind_eq_some_iff.mpr ⟨child', first', deeper'⟩, targets⟩

theorem reference (same : Reordered a b) (keyed : a.wellKeyed = true) :
    Reference.of? a = Reference.of? b := by
  have marked {a b : Json} (same : Reordered a b) (keyed : a.wellKeyed = true) {reference}
      (is : Reference.of? a = some reference) : Reference.of? b = some reference := by
    cases same with
    | scalar => exact is
    | array => exact is
    | object each order =>
      obtain ⟨mark, found, texts⟩ := (object each order).get keyed (Reference.ofSome.mp is)
      cases texts
      exact Reference.ofSome.mpr found
  exact Option.ext fun reference => ⟨marked same keyed, marked same.symm (same.keyed keyed)⟩

end Reordered
end Json
end OpenApi
