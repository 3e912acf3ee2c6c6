import OpenApi.Json.Equality
import OpenApi.Proofs.Resolution.Outcome
import OpenApi.Proofs.Resolution.Sound
/-! References that remain in the document of a clean resolution. An object whose mark is itself a
reference is ordinary data to the walk. Where that inner reference ends at a text, the text takes
its place and the object has become a reference. Nothing else leaves a reference behind. -/
namespace OpenApi.Resolution

inductive Ends (root : Json) (base : String) : Json → Json → Prop where
  | stop {value} (plain : Reference.of? value = none) : Ends root base value value
  | step {node reference pointer target value} (is : Reference.of? node = some reference)
      (here : Reference.localPointer? reference base = some pointer)
      (found : Pointer.lookup? root (Pointer.segments pointer) = some target)
      (rest : Ends root base target value) : Ends root base node value

/-- An object that is no reference, but whose mark gives way to a text. -/
inductive Masked (root : Json) (base : String) : Json → Prop where
  | object {fields mark text} (plain : Reference.of? (.object fields) = none)
      (marked : Fields.get? Reference.key fields = some mark)
      (ends : Ends root base mark (.string text)) : Masked root base (.object fields)

section
variable {root : Json} {base : String} {chain location : List String} {part : Json}

theorem endsOfOutcome (clear : Clear root base) (visit : Visits root base chain location part)
    {text} (became : outcome root base chain location part = .string text) :
    Ends root base part (.string text) := by
  refine clearInduction clear (motive := fun chain location part =>
    outcome root base chain location part = .string text → Ends root base part (.string text))
    ?reference ?object ?array ?scalar visit became
  case reference =>
    intro chain location node reference pointer target visit is enters ih became
    rw [outcomeReference visit is enters] at became
    obtain ⟨fields, rfl⟩ := Reference.ofObject is
    dsimp only at became
    split at became
    · cases became
    · exact .step is enters.here enters.found (ih became)
  case object =>
    intro chain location fields visit plain _ became
    rw [outcomeObject plain] at became
    cases became
  case array =>
    intro chain location items visit _ became
    rw [outcomeArray] at became
    cases became
  case scalar =>
    intro chain location value scalar became
    rw [outcomeScalar scalar] at became
    subst became
    exact .stop rfl

theorem outcomeOfEnds (clear : Clear root base) {text} (ends : Ends root base part (.string text))
    (visit : Visits root base chain location part) :
    outcome root base chain location part = .string text := by
  generalize value : Json.string text = last at ends
  induction ends generalizing chain location with
  | stop plain => subst value; exact outcomeScalar ⟨rfl, rfl⟩
  | step is here found _ ih =>
    have enters := clear.enters visit is here found
    subst value
    rw [outcomeReference visit is enters, ih (visit.target is enters) rfl]
    rfl

theorem maskedOfOutcome (clear : Clear root base) {fields}
    (visit : Visits root base chain location (.object fields))
    (plain : Reference.of? (.object fields) = none) {reference}
    (became : Reference.of? (outcome root base chain location (.object fields)) = some reference) :
    Masked root base (.object fields) := by
  rw [outcomeObject plain, Reference.ofSome,
    Fields.getMap (fun m => outcome root base chain (location ++ [m.1]) m.2)] at became
  obtain ⟨mark, marked, text⟩ := Option.map_eq_some_iff.mp became
  have deeper := visit.deeper (.field plain (Fields.getMember marked) .here)
  exact .object plain marked (endsOfOutcome clear deeper text)

theorem outcomeOfMasked (clear : Clear root base) (masked : Masked root base part)
    (visit : Visits root base chain location part) :
    HasReference (outcome root base chain location part) := by
  cases masked with
  | @object fields mark text plain marked ends =>
    have deeper := visit.deeper (.field plain (Fields.getMember marked) .here)
    refine ⟨_, text, .refl, ?_⟩
    rw [outcomeObject plain, Reference.ofSome,
      Fields.getMap (fun m => outcome root base chain (location ++ [m.1]) m.2), marked]
    exact congrArg some (outcomeOfEnds clear ends deeper)

theorem maskedBelow (clear : Clear root base) (visit : Visits root base chain location part)
    (has : HasReference (outcome root base chain location part)) :
    ∃ location node, Walked root base location node ∧ Masked root base node := by
  refine clearInduction clear (motive := fun chain location part =>
    HasReference (outcome root base chain location part) →
      ∃ location node, Walked root base location node ∧ Masked root base node)
    ?reference ?object ?array ?scalar visit has
  case reference =>
    intro chain location node reference pointer target visit is enters ih has
    apply ih
    rw [outcomeReference visit is enters] at has
    dsimp only at has
    split at has
    · rename_i still
      obtain ⟨left, leftIs⟩ := Option.isSome_iff_exists.mp still
      exact ⟨_, left, .refl, leftIs⟩
    · exact has
  case object =>
    rintro chain location fields visit plain ih ⟨node, reference, within, is⟩
    rw [outcomeObject plain] at within
    cases within with
    | refl =>
      rw [← outcomeObject plain] at is
      exact ⟨_, _, walkedOfVisit visit, maskedOfOutcome clear visit plain is⟩
    | field member inside =>
      obtain ⟨m, old, rfl⟩ := List.mem_map.mp member
      exact ih m old ⟨node, reference, inside, is⟩
  case array =>
    rintro chain location items visit ih ⟨node, reference, within, is⟩
    rw [outcomeArray] at within
    cases within with
    | refl => cases is
    | item member inside =>
      obtain ⟨⟨item, index⟩, old, rfl⟩ := List.mem_map.mp member
      exact ih index item (List.mem_zipIdx_iff_getElem?.mp old) ⟨node, reference, inside, is⟩
  case scalar =>
    rintro chain location value scalar ⟨node, reference, within, is⟩
    rw [outcomeScalar scalar] at within
    cases within with
    | refl => simp [scalar.plain] at is
    | item => simp [Scalar, Json.items?] at scalar
    | field => simp [Scalar, Json.fields?] at scalar

theorem remainsAbove (visit : Visits root base chain location part)
    (has : HasReference (outcome root base chain location part)) :
    HasReference (outcome root base [] [] root) := by
  induction visit with
  | root met => exact has.outward (walkedPart met [])
  | @enter chain location node reference pointer target inner part visit is enters met ih =>
    apply ih
    have expanded : HasReference
        (outcome root base (chain ++ [pointer]) (Pointer.segments pointer) target) :=
      has.outward (walkedPart met _)
    rw [outcomeReference visit is enters]
    dsimp only
    split
    · exact ⟨node, reference, .refl, is⟩
    · exact expanded

end

theorem referenceRemainsIffMasked {fields : Fields Json} {base : String}
    (clean : (resolve (.object fields) base).isClean = true) :
    HasReference (resolve (.object fields) base).document ↔
      ∃ location node, Walked (.object fields) base location node ∧
        Masked (.object fields) base node := by
  have clear := cleanClear.mp clean
  rw [documentOutcome]
  constructor
  · exact maskedBelow clear (.root .here)
  · rintro ⟨location, node, walked, masked⟩
    obtain ⟨chain, visit⟩ := visitOfWalked walked
    exact remainsAbove visit (outcomeOfMasked clear masked visit)

def maskedFields : Fields Json :=
  [("a", .object [("$ref", .object [("$ref", .string "#/x")])]), ("x", .string "hello")]

theorem maskedResolved :
    (resolve (.object maskedFields) "openapi.yaml").isClean = true ∧
      HasReference (resolve (.object maskedFields) "openapi.yaml").document := by
  have document : (resolve (.object maskedFields) "openapi.yaml").document =
      .object [("a", .object [("$ref", .string "hello")]), ("x", .string "hello")] := by
    decide +kernel
  refine ⟨by decide +kernel, .object [("$ref", .string "hello")], "hello", ?_, rfl⟩
  rw [document]
  exact .field List.mem_cons_self .refl

theorem cleanWithReference :
    ¬ ∀ (fields : Fields Json) (base : String), (resolve (.object fields) base).isClean = true →
      ¬ HasReference (resolve (.object fields) base).document :=
  fun all => all maskedFields "openapi.yaml" maskedResolved.1 maskedResolved.2

theorem maskedFieldsWalked :
    (resolve (.object maskedFields) "openapi.yaml").isClean = true ∧
      ∃ location node, Walked (.object maskedFields) "openapi.yaml" location node ∧
        Masked (.object maskedFields) "openapi.yaml" node :=
  ⟨maskedResolved.1, (referenceRemainsIffMasked maskedResolved.1).mp maskedResolved.2⟩

end OpenApi.Resolution
