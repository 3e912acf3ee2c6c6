import Mathlib.Data.List.Nodup
import OpenApi.Json.Equality
import OpenApi.Proofs.Json.Reordering
/-! Equality of values, as a relation: the members of two objects are paired off, in whatever order
they stand. The programs that compare values look the members of one side up in the other and count
them. As no name comes twice, that comes to the same, and to the same from either side. -/
namespace OpenApi.Json

/-- `Matches wild a b`: the values are equal, but what is `wild` matches whatever it faces. -/
inductive Matches (wild : Json → Prop) : Json → Json → Prop where
  | wild {a b} (either : wild a ∨ wild b) : Matches wild a b
  | scalar {value} (noFields : value.fields? = none) (noItems : value.items? = none) :
      Matches wild value value
  | zeros {a b : UInt64} (first : a <<< 1 = 0) (second : b <<< 1 = 0) :
      Matches wild (.number (.float a)) (.number (.float b))
  | array {items others} (each : List.Forall₂ (Matches wild) items others) :
      Matches wild (.array items) (.array others)
  | object {fields paired others : List (String × Json)}
      (each : List.Forall₂ (Member (Matches wild)) fields paired) (order : paired.Perm others) :
      Matches wild (.object fields) (.object others)

def Equal : Json → Json → Prop := Matches fun _ => False

section
variable {alike : Json → Json → Prop} {fields others : Fields Json}

theorem partnersFound
    (found : ∀ m ∈ fields, ∃ value, Fields.get? m.1 others = some value ∧ alike m.2 value) :
    ∃ paired, List.Forall₂ (Member alike) fields paired ∧ paired ⊆ others := by
  induction fields with
  | nil => exact ⟨[], .nil, List.nil_subset _⟩
  | cons m rest ih =>
    obtain ⟨⟨value, given, values⟩, later⟩ := List.forall_mem_cons.mp found
    obtain ⟨paired, each, among⟩ := ih later
    exact ⟨(m.1, value) :: paired, .cons (.of values) each,
      List.cons_subset.mpr ⟨Fields.getMember given, among⟩⟩

theorem membersPaired (distinct : (Fields.keys fields).Nodup) :
    (fields.length = others.length ∧
      ∀ m ∈ fields, ∃ value, Fields.get? m.1 others = some value ∧ alike m.2 value) ↔
      ∃ paired, List.Forall₂ (Member alike) fields paired ∧ paired.Perm others := by
  -- The partners bear the distinct names of the first side, so there are as many of them as there
  -- are members on the second, and none of those is left over.
  constructor
  · rintro ⟨length, found⟩
    obtain ⟨paired, each, among⟩ := partnersFound found
    rw [← pairedKeys each] at distinct
    have apart : paired.Nodup := List.Nodup.of_map Prod.fst distinct
    have fits : others.length ≤ paired.length :=
      Nat.le_of_eq (length.symm.trans each.length_eq)
    exact ⟨paired, each, (List.subperm_of_subset apart among).perm_of_length_le fits⟩
  · rintro ⟨paired, each, order⟩
    refine ⟨each.length_eq.trans order.length_eq, fun m listed => ?_⟩
    obtain ⟨value, given, values⟩ := pairedGet each (Fields.getOfMember distinct listed)
    rw [← pairedKeys each] at distinct
    exact ⟨value, Fields.getPerm distinct order m.1 ▸ given, values⟩

end

section
variable {m n : Number} {a b : Json}

theorem sameNumber : m.same n = true ↔
    m = n ∨ ∃ x y : UInt64, m = .float x ∧ n = .float y ∧ x <<< 1 = 0 ∧ y <<< 1 = 0 := by
  cases m <;> cases n <;> simp [Number.same]

theorem sameSelf (noFields : a.fields? = none) (noItems : a.items? = none) : same a a = true := by
  cases a with
  | object => cases noFields
  | array => cases noItems
  | number => exact sameNumber.mpr (.inl rfl)
  | null | bool | string => simp [same]

theorem sameArray {items others : List Json} : same (.array items) (.array others) = true ↔
    List.Forall₂ (fun a b => same a b = true) items others := by
  rw [same]
  induction items generalizing others with
  | nil => cases others <;> simp [sameItems]
  | cons item rest ih => cases others <;> simp [sameItems, ih]

theorem sameObject {fields others : Fields Json} : same (.object fields) (.object others) = true ↔
    fields.length = others.length ∧
      ∀ m ∈ fields, ∃ value, Fields.get? m.1 others = some value ∧ same m.2 value = true := by
  have members : sameFields fields others = true ↔
      ∀ m ∈ fields, ∃ value, Fields.get? m.1 others = some value ∧ same m.2 value = true := by
    induction fields with
    | nil => simp [sameFields]
    | cons m rest ih =>
      rw [List.forall_mem_cons, ← ih, sameFields, Bool.and_eq_true]
      cases Fields.get? m.1 others <;> simp
  rw [same, Bool.and_eq_true, decide_eq_true_iff, members]

end

section
variable {wild : Json → Prop} {a b : Json}

theorem Matches.refl (a : Json) : Matches wild a a := by
  induction a using ofParts with
  | null | bool | number | string => exact .scalar rfl rfl
  | array items ih => exact .array (List.forall₂_same.mpr ih)
  | object fields ih =>
    exact .object (List.forall₂_same.mpr fun m listed => .of (ih m listed)) (.refl _)

theorem Matches.symm (found : Matches wild a b) : Matches wild b a := by
  induction a using ofParts generalizing b with
  | null | bool | string =>
    cases found with
    | wild either => exact .wild either.symm
    | scalar => exact .scalar rfl rfl
  | number =>
    cases found with
    | wild either => exact .wild either.symm
    | scalar => exact .scalar rfl rfl
    | zeros first second => exact .zeros second first
  | array items ih =>
    cases found with
    | wild either => exact .wild either.symm
    | scalar _ noItems => cases noItems
    | array each => exact .array (relatedImp each fun item listed _ _ => ih item listed).flip
  | object fields ih =>
    cases found with
    | wild either => exact .wild either.symm
    | scalar noFields => cases noFields
    | object each order =>
      obtain ⟨paired', each', order'⟩ := pairedBack (fun m listed _ => ih m listed) each order
      exact .object each' order'

theorem Matches.imp {wild' : Json → Prop} (found : Matches wild a b)
    (next : ∀ part, part.Within a ∨ part.Within b → wild part → wild' part) :
    Matches wild' a b := by
  induction a using ofParts generalizing b with
  | null | bool | string =>
    cases found with
    | wild either => exact .wild (either.imp (next _ (.inl .refl)) (next _ (.inr .refl)))
    | scalar => exact .scalar rfl rfl
  | number =>
    cases found with
    | wild either => exact .wild (either.imp (next _ (.inl .refl)) (next _ (.inr .refl)))
    | scalar => exact .scalar rfl rfl
    | zeros first second => exact .zeros first second
  | array items ih =>
    cases found with
    | wild either => exact .wild (either.imp (next _ (.inl .refl)) (next _ (.inr .refl)))
    | scalar _ noItems => cases noItems
    | array each =>
      refine .array (relatedImp each fun item listed other among values => ?_)
      exact ih item listed values fun part inside =>
        next part (inside.imp (.item listed) (.item among))
  | object fields ih =>
    cases found with
    | wild either => exact .wild (either.imp (next _ (.inl .refl)) (next _ (.inr .refl)))
    | scalar noFields => cases noFields
    | object each order =>
      refine .object (relatedImp each fun m listed n among pair => ?_) order
      cases pair with
      | of values =>
        have held := order.mem_iff.mp among
        exact .of (ih _ listed values fun part inside =>
          next part (inside.imp (.field listed) (.field held)))

/-! What is wild on neither side matches by its own shape. -/

theorem matchesArray {items others : List Json}
    (plain : ¬ (wild (.array items) ∨ wild (.array others))) :
    Matches wild (.array items) (.array others) ↔ List.Forall₂ (Matches wild) items others := by
  refine ⟨fun found => ?_, .array⟩
  cases found with
  | wild either => exact absurd either plain
  | scalar _ noItems => cases noItems
  | array each => exact each

theorem matchesObject {fields others : Fields Json} (distinct : (Fields.keys fields).Nodup)
    (plain : ¬ (wild (.object fields) ∨ wild (.object others))) :
    Matches wild (.object fields) (.object others) ↔ fields.length = others.length ∧
      ∀ m ∈ fields, ∃ value, Fields.get? m.1 others = some value ∧ Matches wild m.2 value := by
  rw [membersPaired distinct]
  refine ⟨fun found => ?_, fun ⟨_, each, order⟩ => .object each order⟩
  cases found with
  | wild either => exact absurd either plain
  | scalar noFields => cases noFields
  | object each order => exact ⟨_, each, order⟩

theorem matchesScalar (noFields : a.fields? = none) (noItems : a.items? = none)
    (plain : ¬ (wild a ∨ wild b)) : Matches wild a b ↔ same a b = true := by
  constructor
  · intro found
    cases found with
    | wild either => exact absurd either plain
    | scalar => exact sameSelf noFields noItems
    | zeros first second => simp [same, Number.same, first, second]
    | array => cases noItems
    | object => cases noFields
  · intro equal
    cases a with
    | object => cases noFields
    | array => cases noItems
    | number m =>
      cases b with
      | number n =>
        rw [same] at equal
        rcases sameNumber.mp equal with rfl | ⟨x, y, rfl, rfl, first, second⟩
        · exact .scalar rfl rfl
        · exact .zeros first second
      | null | bool | string | array | object => cases equal
    | null =>
      cases b <;> cases equal
      exact .scalar rfl rfl
    | bool | string =>
      cases b <;> simp only [same, decide_eq_true_eq, Bool.false_eq_true] at equal
      rw [equal]
      exact .scalar rfl rfl

end
end OpenApi.Json
