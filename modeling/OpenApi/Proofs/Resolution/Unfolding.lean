import OpenApi.Proofs.Resolution.Remainder
/-! The full unfolding of a document: every reference gives way to the unfolding of what it
designates in the given document. It is said without chains, locations or an order of steps, and it
is what a clean resolution puts out. -/
namespace OpenApi.Resolution

mutual
def textMarks : Json → Bool
  | .object fields => textMarksOfFields fields
  | .array items => textMarksOfItems items
  | _ => true
def textMarksOfItems : List Json → Bool
  | [] => true
  | item :: rest => textMarks item && textMarksOfItems rest
def textMarksOfFields : List (String × Json) → Bool
  | [] => true
  | (key, value) :: rest =>
    (key ≠ Reference.key || value.string?.isSome) && textMarks value && textMarksOfFields rest
end

theorem textMarksItem {items} (texts : textMarksOfItems items = true) :
    ∀ item ∈ items, textMarks item = true := by
  induction items with
  | nil => simp
  | cons item rest ih =>
    simp only [textMarksOfItems, Bool.and_eq_true] at texts
    exact List.forall_mem_cons.mpr ⟨texts.1, ih texts.2⟩

theorem textMarksField {fields} (texts : textMarksOfFields fields = true) :
    ∀ m ∈ fields, (m.1 = Reference.key → ∃ text, m.2 = .string text) ∧ textMarks m.2 = true := by
  induction fields with
  | nil => simp
  | cons m rest ih =>
    simp only [textMarksOfFields, Bool.and_eq_true] at texts
    obtain ⟨⟨mark, inside⟩, others⟩ := texts
    refine List.forall_mem_cons.mpr ⟨⟨fun isKey => ?_, inside⟩, ih others⟩
    simp only [isKey, ne_eq, not_true_eq_false, decide_false, Bool.false_or] at mark
    cases value : m.2 <;> simp [value, Json.string?] at mark
    exact ⟨_, rfl⟩

theorem textMarksWithin {part whole} (inside : Json.Within part whole)
    (texts : textMarks whole = true) : textMarks part = true := by
  induction inside with
  | refl => exact texts
  | item member _ ih => exact ih (textMarksItem (by simpa only [textMarks] using texts) _ member)
  | field member _ ih =>
    exact ih (textMarksField (by simpa only [textMarks] using texts) _ member).2

/-- `Unfolds root base value unfolded`: references within `value` give way to the unfoldings of
their targets in `root`, and nothing else changes. -/
inductive Unfolds (root : Json) (base : String) : Json → Json → Prop where
  | reference {node reference pointer target value} (is : Reference.of? node = some reference)
      (here : Reference.localPointer? reference base = some pointer)
      (found : Pointer.lookup? root (Pointer.segments pointer) = some target)
      (rest : Unfolds root base target value) : Unfolds root base node value
  | object {fields} {unfold : Json → Json} (plain : Reference.of? (.object fields) = none)
      (members : ∀ m ∈ fields, Unfolds root base m.2 (unfold m.2)) :
      Unfolds root base (.object fields) (.object (fields.map fun m => (m.1, unfold m.2)))
  | array {items} {unfold : Json → Json}
      (members : ∀ item ∈ items, Unfolds root base item (unfold item)) :
      Unfolds root base (.array items) (.array (items.map unfold))
  | scalar {value} (scalar : Scalar value) : Unfolds root base value value

section
variable {root : Json} {base : String} {chain location : List String} {part : Json}

theorem unfoldsUnique {value left right} (one : Unfolds root base value left)
    (other : Unfolds root base value right) : left = right := by
  induction one generalizing right with
  | reference is here found _ ih =>
    cases other with
    | reference is' here' found' rest =>
      cases Option.some.inj (is.symm.trans is')
      cases Option.some.inj (here.symm.trans here')
      cases Option.some.inj (found.symm.trans found')
      exact ih rest
    | object plain => simp [plain] at is
    | array => cases is
    | scalar scalar => simp [scalar.plain] at is
  | object plain _ ih =>
    cases other with
    | reference is => simp [plain] at is
    | object _ members =>
      refine congrArg Json.object (List.map_congr_left fun m member => ?_)
      rw [ih m member (members m member)]
    | scalar scalar => simp [Scalar, Json.fields?] at scalar
  | array _ ih =>
    cases other with
    | reference is => cases is
    | array members =>
      exact congrArg Json.array (List.map_congr_left fun item member =>
        ih item member (members item member))
    | scalar scalar => simp [Scalar, Json.items?] at scalar
  | scalar scalar =>
    cases other with
    | reference is => simp [scalar.plain] at is
    | object => simp [Scalar, Json.fields?] at scalar
    | array => simp [Scalar, Json.items?] at scalar
    | scalar => rfl

theorem unfoldFunction (root : Json) (base : String) :
    ∃ unfold : Json → Json, ∀ value unfolded, Unfolds root base value unfolded →
      unfold value = unfolded := by
  have each (value : Json) :
      ∃ result, ∀ unfolded, Unfolds root base value unfolded → result = unfolded := by
    by_cases unfoldable : ∃ unfolded, Unfolds root base value unfolded
    · obtain ⟨result, known⟩ := unfoldable
      exact ⟨result, fun unfolded other => unfoldsUnique known other⟩
    · exact ⟨value, fun unfolded known => absurd ⟨unfolded, known⟩ unfoldable⟩
  exact Classical.axiomOfChoice each

theorem walkedWithin {location part} (walked : Walked root base location part) :
    Json.Within part root := by
  cases walked with
  | root met => exact met.within
  | target _ _ _ found met => exact met.within.trans (Json.lookupWithin found)

theorem notMasked (texts : textMarks root = true) {location node}
    (walked : Walked root base location node) : ¬ Masked root base node := by
  intro masked
  cases masked with
  | object plain marked ends =>
    have inside := textMarksWithin (walkedWithin walked) texts
    obtain ⟨text, rfl⟩ := (textMarksField (by simpa only [textMarks] using inside) _
      (Fields.getMember marked)).1 rfl
    simp [Reference.ofSome.mpr marked] at plain

theorem noReferenceRemains (texts : textMarks root = true) (clear : Clear root base)
    (visit : Visits root base chain location part) :
    Reference.of? (outcome root base chain location part) = none := by
  refine Option.eq_none_iff_forall_not_mem.mpr fun reference is => ?_
  obtain ⟨_, _, walked, masked⟩ := maskedBelow clear visit ⟨_, reference, .refl, is⟩
  exact notMasked texts walked masked

theorem outcomeUnfolds (texts : textMarks root = true) (clear : Clear root base)
    (visit : Visits root base chain location part) :
    Unfolds root base part (outcome root base chain location part) := by
  refine clearInduction clear (motive := fun chain location part =>
    Unfolds root base part (outcome root base chain location part))
    ?reference ?object ?array ?scalar visit
  case reference =>
    intro chain location node reference pointer target visit is enters ih
    rw [outcomeReference visit is enters]
    simp only [noReferenceRemains texts clear (visit.target is enters)]
    exact .reference is enters.here enters.found ih
  case object =>
    intro chain location fields visit plain ih
    obtain ⟨unfold, known⟩ := unfoldFunction root base
    have same : (fields.map fun m => (m.1, outcome root base chain (location ++ [m.1]) m.2)) =
        fields.map fun m => (m.1, unfold m.2) :=
      List.map_congr_left fun m member => by rw [known _ _ (ih m member)]
    rw [outcomeObject plain, same]
    exact .object plain fun m member => known _ _ (ih m member) ▸ ih m member
  case array =>
    intro chain location items visit ih
    obtain ⟨unfold, known⟩ := unfoldFunction root base
    have same :=
      calc (items.zipIdx 0).map (fun i => outcome root base chain (location ++ [toString i.2]) i.1)
        _ = (items.zipIdx 0).map (unfold ∘ Prod.fst) :=
          List.map_congr_left fun i member =>
            (known _ _ (ih i.2 i.1 (List.mem_zipIdx_iff_getElem?.mp member))).symm
        _ = items.map unfold := by rw [← List.map_map, List.zipIdx_map_fst]
    rw [outcomeArray, same]
    refine .array fun item member => ?_
    obtain ⟨index, listed⟩ := List.mem_iff_getElem?.mp member
    exact known _ _ (ih index item listed) ▸ ih index item listed
  case scalar =>
    intro chain location value scalar
    rw [outcomeScalar scalar]
    exact .scalar scalar

end

theorem documentIsUnfolding {fields : Fields Json} {base : String}
    (texts : textMarks (.object fields) = true)
    (clean : (resolve (.object fields) base).isClean = true) :
    (∀ value, Unfolds (.object fields) base (.object fields) value ↔
      value = (resolve (.object fields) base).document) ∧
    ∀ location reference, Live (.object fields) base location reference →
      ∃ pointer target value, Reference.localPointer? reference base = some pointer ∧
        Pointer.lookup? (.object fields) (Pointer.segments pointer) = some target ∧
        Unfolds (.object fields) base target value ∧
        ∀ chain location node, Visits (.object fields) base chain location node →
          Reference.of? node = some reference →
          (follow (.object fields) base (room (.object fields) base chain) chain reference
            location).value = some value := by
  have clear := cleanClear.mp clean
  have whole := outcomeUnfolds texts clear (.root .here)
  rw [← documentOutcome] at whole
  refine ⟨fun value => ⟨fun other => unfoldsUnique other whole, fun same => same ▸ whole⟩, ?_⟩
  rintro location reference ⟨node, walked, is⟩
  obtain ⟨chain, visit⟩ := visitOfWalked walked
  obtain ⟨pointer, target, enters⟩ := clear _ _ _ _ visit is
  have unfolds := outcomeUnfolds texts clear (visit.target is enters)
  refine ⟨pointer, target, _, enters.here, enters.found, unfolds, ?_⟩
  intro chain' location' node' visit' is'
  have enters' := clear.enters visit' is' enters.here enters.found
  have entered := visit'.target is' enters'
  rw [unfoldsUnique unfolds (outcomeUnfolds texts clear entered), followOutcome visit' is' enters']
  simp only [noReferenceRemains texts clear entered]
  rfl

def chainedFields : Fields Json :=
  [("a", .object [("$ref", .string "#/b")]), ("b", .object [("$ref", .string "#/c/0")]),
    ("c", .array [.object [("type", .string "string")]])]

theorem chainedUnfolding :
    textMarks (.object chainedFields) = true ∧
      (resolve (.object chainedFields) "openapi.yaml").isClean = true ∧
      Unfolds (.object chainedFields) "openapi.yaml" (.object chainedFields)
        (.object [("a", .object [("type", .string "string")]),
          ("b", .object [("type", .string "string")]),
          ("c", .array [.object [("type", .string "string")]])]) := by
  have texts : textMarks (.object chainedFields) = true := by decide +kernel
  have clean : (resolve (.object chainedFields) "openapi.yaml").isClean = true := by decide +kernel
  exact ⟨texts, clean, ((documentIsUnfolding texts clean).1 _).mpr (by decide +kernel)⟩

end OpenApi.Resolution
