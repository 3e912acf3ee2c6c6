import Mathlib.Data.List.Forall2
import OpenApi.Proofs.Json.Equality
import OpenApi.Proofs.Resolution.Outcome
import OpenApi.Schema.Body
/-! Resemblance of bodies and declared schemas. It is equality of values but for the references,
which stand for anything on either side. Two expansions of one node may break off at different
references, so they resemble each other. -/
namespace OpenApi.Schema
open Resolution

section
variable {a b : Json}

theorem resemblesReference (either : isReference a = true ∨ isReference b = true) :
    resembles a b = true := by
  rcases either with first | second
  · cases a with
    | object fields => simp [resembles, first]
    | null | bool | number | string | array => cases first
  · cases a <;> simp [resembles, second]

theorem resemblesArray {as bs : List Json} :
    resembles (.array as) (.array bs) = true ↔
      List.Forall₂ (fun a b => resembles a b = true) as bs := by
  have both : resemblesItems as bs = true ↔
      List.Forall₂ (fun a b => resembles a b = true) as bs := by
    induction as generalizing bs with
    | nil => cases bs <;> simp [resemblesItems]
    | cons a as ih => cases bs <;> simp [resemblesItems, ih]
  rw [← both]
  simp [resembles, isReference, Reference.of?, Json.get?]

theorem resemblesMembers {fields others : Fields Json} :
    resemblesFields fields others = true ↔
      ∀ m ∈ fields, ∃ value, Fields.get? m.1 others = some value ∧ resembles m.2 value = true := by
  induction fields with
  | nil => simp [resemblesFields]
  | cons m rest ih =>
    rw [List.forall_mem_cons, ← ih, resemblesFields, Bool.and_eq_true]
    cases Fields.get? m.1 others <;> simp

theorem resemblesObject {fields others : Fields Json} (length : fields.length = others.length)
    (members : ∀ m ∈ fields, ∃ value, Fields.get? m.1 others = some value ∧
      resembles m.2 value = true) :
    resembles (.object fields) (.object others) = true := by
  simp [resembles, length, resemblesMembers.mpr members]

theorem resemblesPlain {fields others : Fields Json}
    (plain : isReference (.object fields) = false) (plain' : isReference (.object others) = false) :
    resembles (.object fields) (.object others) = true ↔ fields.length = others.length ∧
      ∀ m ∈ fields, ∃ value, Fields.get? m.1 others = some value ∧ resembles m.2 value = true := by
  simp [resembles, plain, plain', resemblesMembers]

theorem resemblesScalar {value : Json} (scalar : Scalar value) : resembles value value = true := by
  have equal := Json.sameSelf scalar.1 scalar.2
  cases value with
  | object fields => simp [Scalar, Json.fields?] at scalar
  | array items => simp [Scalar, Json.items?] at scalar
  | null | bool | number | string => simp [resembles, equal]

theorem referenceIs {node reference} (is : Reference.of? node = some reference) :
    isReference node = true := by
  simp [isReference, is]

theorem unreferred (none : ¬ HasReference a) : isReference a = false := by
  cases is : Reference.of? a with
  | none => simp [isReference, is]
  | some reference => exact absurd ⟨a, reference, .refl, is⟩ none

theorem resemblesMatches (keyed : a.wellKeyed = true) :
    resembles a b = true ↔ Json.Matches (isReference · = true) a b := by
  have referred {a b : Json} (either : isReference a = true ∨ isReference b = true) :
      resembles a b = true ↔ Json.Matches (isReference · = true) a b :=
    iff_of_true (resemblesReference either) (.wild either)
  -- a reference settles both sides at whatever depth it is met; else the shapes are compared
  induction a using Json.ofParts generalizing b with
  | null | bool | number | string =>
    by_cases left : isReference b = true
    · exact referred (.inr left)
    · rw [Json.matchesScalar rfl rfl (not_or.mpr ⟨Bool.false_ne_true, left⟩)]
      simp [resembles, left]
  | array items ih =>
    by_cases either : isReference (.array items) = true ∨ isReference b = true
    · exact referred either
    · cases b with
      | array others =>
        have inner := Json.wellKeyedArray.mp keyed
        rw [resemblesArray, Json.matchesArray either]
        exact Json.relatedCongr fun item listed _ _ => ih item listed (inner item listed)
      | null | bool | number | string | object =>
        refine iff_of_false (by simp [resembles, (not_or.mp either).2]) fun found => ?_
        cases found with
        | wild reference => exact either reference
  | object fields ih =>
    by_cases either : isReference (.object fields) = true ∨ isReference b = true
    · exact referred either
    · obtain ⟨plain, plain'⟩ := not_or.mp either
      rw [Bool.not_eq_true] at plain plain'
      cases b with
      | object others =>
        obtain ⟨distinct, inner⟩ := Json.wellKeyedObject.mp keyed
        rw [resemblesPlain plain plain', Json.matchesObject distinct either]
        refine and_congr_right fun _ => forall₂_congr fun m listed => exists_congr fun value => ?_
        exact and_congr_right fun _ => ih m listed (inner m listed)
      | null | bool | number | string | array =>
        refine iff_of_false (by simp [resembles, plain, plain']) fun found => ?_
        cases found with
        | wild reference => exact either reference

theorem resemblesSame (none : ¬ HasReference a) (none' : ¬ HasReference b) :
    resembles a b = Json.same a b := by
  induction a using Json.ofParts generalizing b with
  | null | bool | number | string => simp [resembles, unreferred none']
  | array items ih =>
    cases b with
    | array others =>
      rw [Bool.eq_iff_iff, resemblesArray, Json.sameArray]
      refine Json.relatedCongr fun item listed other among => ?_
      have bare : ¬ HasReference item := fun has => none (has.outward (.item listed .refl))
      have bare' : ¬ HasReference other := fun has => none' (has.outward (.item among .refl))
      rw [ih item listed bare bare']
    | null | bool | number | string | object => simp [resembles, unreferred none', Json.same]
  | object fields ih =>
    have plain := unreferred none
    have plain' := unreferred none'
    cases b with
    | object others =>
      rw [Bool.eq_iff_iff, resemblesPlain plain plain', Json.sameObject]
      refine and_congr_right fun _ => forall₂_congr fun m listed => exists_congr fun value => ?_
      refine and_congr_right fun found => ?_
      have bare : ¬ HasReference m.2 := fun has => none (has.outward (.field listed .refl))
      have bare' : ¬ HasReference value := fun has =>
        none' (has.outward (.field (Fields.getMember found) .refl))
      rw [ih m listed bare bare']
    | null | bool | number | string | array => simp [resembles, plain, plain', Json.same]

theorem matchesEqual (none : ¬ HasReference a) (none' : ¬ HasReference b) :
    Json.Matches (isReference · = true) a b ↔ Json.Equal a b := by
  constructor
  · intro found
    refine found.imp fun part inside is => ?_
    have bare : ¬ HasReference part := fun has =>
      inside.elim (fun within => none (has.outward within)) fun within => none' (has.outward within)
    exact Bool.false_ne_true ((unreferred bare).symm.trans is)
  · exact fun found => found.imp fun _ _ => False.elim

end

theorem resemblesEquality {a b : Json} (keyed : a.wellKeyed = true) (keyed' : b.wellKeyed = true) :
    resembles a a = true ∧ resembles a b = resembles b a ∧
      (¬ HasReference a → ¬ HasReference b →
        (resembles a b = true ↔ Json.Equal a b) ∧ resembles a b = Json.same a b) := by
  -- The members of one side are looked up in the other and counted; they pair off with those of the
  -- other side all the same, down to the references, and so it does not matter which side is which.
  refine ⟨(resemblesMatches keyed).mpr (.refl a), ?_, fun none none' => ⟨?_, ?_⟩⟩
  · rw [Bool.eq_iff_iff, resemblesMatches keyed, resemblesMatches keyed']
    exact ⟨.symm, .symm⟩
  · exact (resemblesMatches keyed).trans (matchesEqual none none')
  · exact resemblesSame none none'

def plainRange : Json :=
  .object [("type", .string "number"),
    ("default", .object [("$ref", .null), ("low", .number (.float 0))]),
    ("enum", .array [.object [], .number (.int 0)])]

def turnedRange : Json :=
  .object [("enum", .array [.object [], .number (.int 0)]),
    ("default", .object [("low", .number (.float 0x8000000000000000)), ("$ref", .null)]),
    ("type", .string "number")]

theorem turnedRangeEqual :
    plainRange.wellKeyed = true ∧ turnedRange.wellKeyed = true ∧
      ¬ HasReference plainRange ∧ ¬ HasReference turnedRange ∧
      resembles plainRange plainRange = true ∧
      resembles plainRange turnedRange = resembles turnedRange plainRange ∧
      (resembles plainRange turnedRange = true ↔ Json.Equal plainRange turnedRange) ∧
      resembles plainRange turnedRange = Json.same plainRange turnedRange ∧
      resembles plainRange turnedRange = true := by
  have none : ¬ HasReference plainRange := by
    rintro ⟨node, reference, inside, is⟩
    exact List.not_mem_nil (referenceWithin inside is)
  have none' : ¬ HasReference turnedRange := by
    rintro ⟨node, reference, inside, is⟩
    exact List.not_mem_nil (referenceWithin inside is)
  have keyed : plainRange.wellKeyed = true := by decide
  have keyed' : turnedRange.wellKeyed = true := by decide
  obtain ⟨self, either, bare⟩ := resemblesEquality keyed keyed'
  obtain ⟨equal, same⟩ := bare none none'
  exact ⟨keyed, keyed', none, none', self, either, equal, same, by decide +kernel⟩

section
variable {root : Json} {base : String} {chain chain' location location' : List String} {part : Json}

theorem expansionReference {node reference pointer target}
    (visit : Visits root base chain location node) (is : Reference.of? node = some reference)
    (enters : Enters root base chain reference pointer target) :
    isReference (outcome root base chain location node) = true ∨
      outcome root base chain location node =
        outcome root base (chain ++ [pointer]) (Pointer.segments pointer) target := by
  rw [outcomeReference visit is enters]
  dsimp only
  split
  · exact .inl (referenceIs is)
  · exact .inr rfl

theorem expansionsResemble (keyed : root.wellKeyed = true)
    (visit : Visits root base chain location part) (again : Visits root base chain' location' part) :
    resembles (outcome root base chain location part)
      (outcome root base chain' location' part) = true := by
  refine visitInduction (motive := fun chain location part => ∀ chain' location',
    Visits root base chain' location' part → resembles (outcome root base chain location part)
      (outcome root base chain' location' part) = true)
    ?sighted ?reference ?object ?array ?scalar visit chain' location' again
  case sighted =>
    intro chain location node reference sighting visit is sights chain' location' again
    rw [outcomeSighted is sights]
    exact resemblesReference (.inl (referenceIs is))
  case reference =>
    intro chain location node reference pointer target visit is enters ih chain' location' again
    rcases sightsOrEnters root base chain' location' reference with
      ⟨sighting, sights⟩ | ⟨pointer', target', enters'⟩
    · rw [outcomeSighted is sights]
      exact resemblesReference (.inr (referenceIs is))
    · cases Option.some.inj (enters.here.symm.trans enters'.here)
      cases Option.some.inj (enters.found.symm.trans enters'.found)
      have targets := ih _ _ (again.target is enters')
      rcases expansionReference visit is enters with left | expanded
      · exact resemblesReference (.inl left)
      · rcases expansionReference again is enters' with left | expanded'
        · exact resemblesReference (.inr left)
        · rw [expanded, expanded']
          exact targets
  case object =>
    intro chain location fields visit plain ih chain' location' again
    obtain ⟨distinct, -⟩ := Json.wellKeyedObject.mp (Json.wellKeyedWithin visit.within keyed)
    rw [outcomeObject plain, outcomeObject plain]
    refine resemblesObject (by simp) fun m' member => ?_
    obtain ⟨m, among, rfl⟩ := List.mem_map.mp member
    refine ⟨outcome root base chain' (location' ++ [m.1]) m.2, ?_, ?_⟩
    · rw [Fields.getMap, Fields.getOfMember distinct among]
      rfl
    · exact ih m among _ _ (again.deeper (.field plain among .here))
  case array =>
    intro chain location items visit ih chain' location' again
    rw [outcomeArray, outcomeArray]
    refine resemblesArray.mpr (List.forall₂_map_left_iff.mpr (List.forall₂_map_right_iff.mpr ?_))
    refine List.forall₂_same.mpr fun i member => ?_
    have listed := List.mem_zipIdx_iff_getElem?.mp member
    exact ih i.2 i.1 listed _ _ (again.deeper (.item listed .here))
  case scalar =>
    intro chain location value scalar chain' location' again
    rw [outcomeScalar scalar, outcomeScalar scalar]
    exact resemblesScalar scalar

end
end OpenApi.Schema
