import OpenApi.Proofs.Schema.Trace
/-! Slots leave the images of their nodes. A structure in a slot is taken out by a maker, of which
it is only known that its entries are traced. -/
namespace OpenApi.Schema.Build

theorem slotAtGet (components : Fields Json) (deeper : Option Maker) (key : String)
    (fields : Fields Json) (base : String) :
    slotAt components deeper key fields base =
      match (Json.object fields).get? key with
      | some value => do
        let (slot, entries) ← slot components deeper value base
        return (some slot, entries)
      | none => return (none, []) := by
  simp only [Json.get?]
  induction fields with
  | nil => rfl
  | cons field rest ih =>
    unfold slotAt Fields.get?
    split
    · rfl
    · exact ih

section
variable {components : Fields Json} {deeper : Option Maker} {fields : Fields Json} {base : String}
  (flat : Flat (.object fields))
include flat

theorem slotArray (isArray : Node.isArray (.object fields) = true) :
    slot components deeper (.object fields) base = do
      let (items, entries) ← slotAt components deeper "items" fields (base ++ "Item")
      return (.array (items.getD .any), entries) := by
  unfold slot
  simp only [flat.plain, flat.loose, isArray, ↓reduceIte, Bool.false_eq_true]

theorem slotMap (noArray : Node.isArray (.object fields) = false)
    (isObject : Node.isObject (.object fields) = true) {values}
    (given : Node.additionalProperties? (.object fields) = some values) :
    slot components deeper (.object fields) base = do
      let (values, entries) ←
        slotAt components deeper "additionalProperties" fields (base ++ "Value")
      return (.map (values.getD .any), entries) := by
  unfold slot
  simp only [flat.plain, flat.loose, noArray, isObject, given, ↓reduceIte, Bool.false_eq_true,
    Option.isSome_some]

theorem slotObject (noArray : Node.isArray (.object fields) = false)
    (isObject : Node.isObject (.object fields) = true)
    (absent : Node.additionalProperties? (.object fields) = none) :
    slot components deeper (.object fields) base = return (.object, []) := by
  unfold slot
  simp only [flat.plain, flat.loose, noArray, isObject, absent, ↓reduceIte, Bool.false_eq_true,
    Option.isSome_none]

theorem slotPlain (noArray : Node.isArray (.object fields) = false)
    (noObject : Node.isObject (.object fields) = false) :
    slot components deeper (.object fields) base =
      return (Node.plainSlot (.object fields), []) := by
  unfold slot
  simp only [flat.plain, flat.loose, noArray, noObject, ↓reduceIte, Bool.false_eq_true]

end

inductive Deeper (components : Fields Json) (document : Json) : Nat → Option Maker → Prop where
  | bound : Deeper components document 0 none
  | level {levels make} (makes : ∀ node name p, node.Within document →
      Makes components document levels (make node name) node name p) :
      Deeper components document (levels + 1) (some make)

section
variable {components : Fields Json} {document : Json} {levels : Nat} {deeper : Option Maker}
  {p : Progress}

theorem namedSlotLeaves {node : Json} {owner reference} (is : Reference.of? node = some reference) :
    Leaves components document (do return (← namedSlot components owner reference, [])) p
      fun source slot => SlotImage components source levels node slot := by
  refine Meets.bind (namedSlotMeets fun _ => trivial) fun slot q ended => ?_
  obtain ⟨rfl, name, target, declares, rfl⟩ := ended
  exact Leaves.pure fun _ _ => .reference is declares

theorem hoistLeaves {make : Maker} {node : Json} (plain : Reference.of? node = none)
    (needs : Node.needsEntry node = true)
    (makes : ∀ name p, Makes components document levels (make node name) node name p)
    (base : String) :
    Leaves components document (hoist make node base) p fun source slot =>
      SlotImage components source (levels + 1) node slot := by
  have taken {name q}
      (memo : q.recursive = p.recursive ∨ q.recursive = (node, name) :: p.recursive) :
      Meets (fun _ => True) (do return (Slot.schema name, ← make node name)) q fun r s =>
        ∃ origins, Traced components document p.recursive s.recursive origins r.2 fun source =>
          SlotImage components source (levels + 1) node r.1 := by
    refine Meets.bind (makes name q) fun entries s made => ?_
    obtain ⟨inner, traced⟩ := made
    have own : Traced components document q.recursive s.recursive _ entries fun source =>
        SlotImage components source (levels + 1) node (.schema name) :=
      traced.imp fun _ own => .structured plain needs (Nat.succ_pos levels) own
    obtain same | more := memo
    · exact .pure ⟨_, same ▸ own⟩
    · exact .pure ⟨_, (more ▸ own).noted⟩
  unfold hoist
  refine .read ?_
  cases recurs : (findReference? node).isSome with
  | false =>
    refine Meets.bind (allocateMeets base) fun name q allocated => ?_
    obtain ⟨-, rfl⟩ := allocated
    exact taken (.inl rfl)
  | true =>
    cases given : p.recursive.lookup node with
    | some name =>
      refine Leaves.pure fun source remembers => ?_
      -- The entry may still be under way; the memo alone tells what it is made from.
      obtain ⟨before, after, split, -⟩ := List.lookup_eq_some_iff.mp given
      obtain ⟨below, known⟩ := remembers (node, name) (by simp [split])
      exact .structured plain needs (Nat.succ_pos _) known
    | none =>
      refine Meets.bind (allocateMeets base) fun name q allocated => ?_
      obtain ⟨-, rfl⟩ := allocated
      exact taken (.inr rfl)

theorem slotAtLeaves {key fields base} (each : ∀ value, (Json.object fields).get? key = some value →
      Leaves components document (slot components deeper value base) p fun source slot =>
        SlotImage components source levels value slot) :
    Leaves components document (slotAt components deeper key fields base) p fun source found =>
      Option.Rel (SlotImage components source levels) ((Json.object fields).get? key) found := by
  rw [slotAtGet]
  cases given : (Json.object fields).get? key with
  | none => exact Leaves.pure fun _ _ => .none
  | some value => exact (each value given).map fun _ _ image => .some image

theorem flatSlotLeaves {fields base} (flat : Flat (.object fields))
    (part : ∀ {key base p}, Leaves components document (slotAt components deeper key fields base) p
      fun source found =>
        Option.Rel (SlotImage components source levels) ((Json.object fields).get? key) found) :
    Leaves components document (slot components deeper (.object fields) base) p fun source slot =>
      SlotImage components source levels (.object fields) slot := by
  cases isArray : Node.isArray (.object fields) with
  | true =>
    rw [slotArray flat isArray]
    refine part.map (f := fun items => Slot.array (items.getD .any)) fun source items image => ?_
    cases given : (Json.object fields).get? "items" with
    | none =>
      rw [given] at image
      cases image
      exact .arrayOfAny flat isArray given
    | some value =>
      rw [given] at image
      cases image with
      | some image => exact .array flat isArray given image
  | false =>
    cases isObject : Node.isObject (.object fields) with
    | false =>
      rw [slotPlain flat isArray isObject]
      exact Leaves.pure fun _ _ => .plain flat isArray isObject
    | true =>
      cases given : Node.additionalProperties? (.object fields) with
      | none =>
        rw [slotObject flat isArray isObject given]
        exact Leaves.pure fun _ _ => .object flat isArray isObject given
      | some values =>
        rw [slotMap flat isArray isObject given]
        refine part.map (f := fun values => Slot.map (values.getD .any)) ?_
        intro source found image
        rw [Node.additionalGiven given] at image
        cases image with
        | some image => exact .map flat isArray isObject given image

theorem slotLeaves (deeps : Deeper components document levels deeper) {node : Json}
    (inside : node.Within document) (base : String) :
    Leaves components document (slot components deeper node base) p fun source slot =>
      SlotImage components source levels node slot := by
  induction node using Json.ofParts generalizing base p with
  | null | bool | number | string | array =>
    exact Leaves.pure fun _ _ => .plain ⟨rfl, rfl⟩ rfl rfl
  | object fields ih =>
    have part {key base p} : Leaves components document (slotAt components deeper key fields base) p
        fun source found =>
          Option.Rel (SlotImage components source levels) ((Json.object fields).get? key) found :=
      slotAtLeaves fun value given =>
        ih _ (Fields.getMember given) ((Json.withinGet given).trans inside) base
    cases is : Reference.of? (.object fields) with
    | some reference =>
      unfold slot
      simp only [is]
      exact namedSlotLeaves is
    | none =>
      by_cases needs : Node.needsEntry (.object fields) = true
      · cases deeps with
        | bound =>
          unfold slot
          simp only [is, needs, ↓reduceIte]
          exact Leaves.pure fun _ _ => .bounded is needs rfl
        | level makes =>
          unfold slot
          simp only [is, needs, ↓reduceIte]
          exact hoistLeaves is needs (fun name p => makes _ name p inside) base
      · have flat : Flat (.object fields) := ⟨is, Bool.eq_false_iff.mpr needs⟩
        exact flatSlotLeaves flat part

end
end OpenApi.Schema.Build
