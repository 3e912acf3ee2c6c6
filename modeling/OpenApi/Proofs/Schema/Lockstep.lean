import OpenApi.Proofs.Schema.Abreast
/-! The same node is built in the same steps under any two names. Where a structure is taken out, its
entries are alike on both sides, and so is the slot that names it. -/
namespace OpenApi.Schema.Build

def Lockstep {α β : Type} (before : List String) (given : List (String × String))
    (alike : Likeness α β) (m : Build (α × List Entry)) (k : Build (β × List Entry)) : Prop :=
  ∀ last p q, given ⊆ last → Abreast before last p q →
    Together before last alike.made m k p q

def Remade (before : List String) (make : String → Build (List Entry)) : Prop :=
  ∀ given p q name other, Abreast before given p q → Ready p name → Ready q other →
    Partners before given name other →
    Together before given Likeness.entry.list (make name) (make other) p q

namespace Lockstep
variable {before : List String} {given : List (String × String)} {α β γ δ ε ζ : Type}
  {alike : Likeness α β} {also : Likeness γ δ} {ends : Likeness ε ζ} {m : Build (α × List Entry)}
  {k : Build (β × List Entry)} {n : Build (γ × List Entry)} {l : Build (δ × List Entry)}

theorem pure {a : α} {b : β} (holds : alike.holds (Partners before given) a b) :
    Lockstep before given alike (pure (a, [])) (pure (b, [])) :=
  fun _ _ _ later abreast =>
    .pure abreast ⟨alike.wider (fun _ _ partners => partners.grow later) holds, .nil⟩

theorem map {f : α → ε} {g : β → ζ} (first : Lockstep before given alike m k)
    (join : ∀ {last a b}, given ⊆ last → alike.holds (Partners before last) a b →
      ends.holds (Partners before last) (f a) (g b)) :
    Lockstep before given ends (do let (a, entries) ← m; return (f a, entries))
      (do let (b, entries) ← k; return (g b, entries)) := by
  intro last p q later abreast
  refine (first last p q later abreast).bind fun _ _ _ _ _ latest abreast holds => ?_
  exact .pure abreast ⟨join (List.Subset.trans later latest) holds.1, holds.2⟩

theorem both {f : α → γ → ε} {g : β → δ → ζ} (first : Lockstep before given alike m k)
    (second : Lockstep before given also n l)
    (join : ∀ {last a b c d}, given ⊆ last → alike.holds (Partners before last) a b →
      also.holds (Partners before last) c d → ends.holds (Partners before last) (f a c) (g b d)) :
    Lockstep before given ends
      (do let (a, entries) ← m; let (c, more) ← n; return (f a c, entries ++ more))
      (do let (b, entries) ← k; let (d, more) ← l; return (g b d, entries ++ more)) := by
  intro last p q later abreast
  refine (first last p q later abreast).bind fun a b mid p' q' more abreast one => ?_
  have onward := List.Subset.trans later more
  refine (second mid p' q' onward abreast).bind fun c d final p'' q'' most abreast two => ?_
  have one := alike.made.wider (fun _ _ partners => partners.grow most) one
  exact .pure abreast
    ⟨join (List.Subset.trans onward most) one.1 two.1, List.rel_append one.2 two.2⟩

theorem saying {m k : Build (Entry × List Entry)} (built : Lockstep before given Likeness.entry m k)
    (description : Option String) (sample : Option Json) (nullable : Option Bool) :
    Lockstep before given Likeness.entry
      (do
        let (entry, entries) ← m
        return ({ entry with description, sample, nullable }, entries))
      (do
        let (entry, entries) ← k
        return ({ entry with description, sample, nullable }, entries)) :=
  built.map (f := fun entry => { entry with description, sample, nullable })
    (g := fun entry => { entry with description, sample, nullable })
    fun _ alike => EntryAlike.saying alike description sample nullable

end Lockstep

section
variable {components : Fields Json} {deeper : Option Maker} {before : List String}
  {given : List (String × String)} (declared : Fields.keys components ⊆ before)
include declared

theorem namedSlotTogether {p q : Progress} (abreast : Abreast before given p q)
    (owner other reference : String) :
    Together before given Likeness.slot (namedSlot components owner reference)
      (namedSlot components other reference) p q := by
  unfold namedSlot
  cases declares : declared? components reference with
  | none => exact .error
  | some found =>
    obtain ⟨name, target⟩ := found
    have known : name ∈ Fields.keys components :=
      Fields.getSome.mp (by rw [declaredMember declares]; rfl)
    exact .pure abreast (.named (.before (declared known)))

omit declared in
theorem hoistLockstep {make : Maker} {node : Json} (makes : Remade before (make node))
    (base base' : String) :
    Lockstep before given Likeness.slot (hoist make node base) (hoist make node base') := by
  intro last p q later abreast
  have taken {given p q name other} (abreast : Abreast before given p q) (ready : Ready p name)
      (ready' : Ready q other) (partners : Partners before given name other) :
      Together before given Likeness.slot.made
        (do return (Slot.schema name, ← make node name))
        (do return (Slot.schema other, ← make node other)) p q := by
    refine (makes given p q name other abreast ready ready' partners).bind ?_
    exact fun _ _ _ _ _ more abreast entries =>
      .pure abreast ⟨.named (partners.grow more), entries⟩
  unfold hoist
  refine .read ?_
  cases recurs : (findReference? node).isSome with
  | false =>
    refine .allocate abreast base base' fun name other p' q' ready ready' abreast => ?_
    exact taken abreast ready ready' (.given List.mem_cons_self)
  | true =>
    have noted := lookupPartners abreast.noted node
    generalize p.recursive.lookup node = held, q.recursive.lookup node = held' at noted
    cases noted with
    | some partners => exact .pure abreast ⟨.named partners, .nil⟩
    | none =>
      refine .allocate abreast base base' fun name other p' q' ready ready' abreast => ?_
      have partners : Partners before ((name, other) :: last) name other := .given List.mem_cons_self
      exact taken (abreast.noting partners node) ⟨ready.named, ready.given, ready.unopened⟩
        ⟨ready'.named, ready'.given, ready'.unopened⟩ partners

omit declared in
theorem slotAtLockstep {key fields base base'}
    (each : ∀ value, (Json.object fields).get? key = some value →
      Lockstep before given Likeness.slot (slot components deeper value base)
        (slot components deeper value base')) :
    Lockstep before given Likeness.slot.option (slotAt components deeper key fields base)
      (slotAt components deeper key fields base') := by
  rw [slotAtGet, slotAtGet]
  cases found : (Json.object fields).get? key with
  | none => exact .pure .none
  | some value => exact (each value found).map fun _ alike => .some alike

omit declared in
theorem slotAlikeDefault {same : String → String → Prop} {one other : Option Slot}
    (alike : Likeness.slot.option.holds same one other) :
    SlotAlike same (one.getD .any) (other.getD .any) := by
  cases alike with
  | none => exact .unnamed rfl
  | some alike => exact alike

omit declared in
theorem flatSlotLockstep {fields base base'} (flat : Flat (.object fields))
    (part : ∀ {key base base'}, Lockstep before given Likeness.slot.option
      (slotAt components deeper key fields base) (slotAt components deeper key fields base')) :
    Lockstep before given Likeness.slot (slot components deeper (.object fields) base)
      (slot components deeper (.object fields) base') := by
  cases isArray : Node.isArray (.object fields) with
  | true =>
    rw [slotArray flat isArray, slotArray flat isArray]
    refine part.map (f := fun items => Slot.array (items.getD .any))
      (g := fun items => Slot.array (items.getD .any)) ?_
    exact fun _ alike => .array (slotAlikeDefault alike)
  | false =>
    cases isObject : Node.isObject (.object fields) with
    | false =>
      rw [slotPlain flat isArray isObject, slotPlain flat isArray isObject]
      exact .pure (.unnamed (plainSlotUnnamed _))
    | true =>
      cases found : Node.additionalProperties? (.object fields) with
      | none =>
        rw [slotObject flat isArray isObject found, slotObject flat isArray isObject found]
        exact .pure (.unnamed rfl)
      | some values =>
        rw [slotMap flat isArray isObject found, slotMap flat isArray isObject found]
        refine part.map (f := fun values => Slot.map (values.getD .any))
          (g := fun values => Slot.map (values.getD .any)) ?_
        exact fun _ alike => .map (slotAlikeDefault alike)

def DeeperRemade (before : List String) (deeper : Option Maker) : Prop :=
  ∀ make, deeper = some make → ∀ node, Remade before (make node)

variable (below : DeeperRemade before deeper)
include below

theorem slotLockstep (node : Json) (base base' : String) :
    Lockstep before given Likeness.slot (slot components deeper node base)
      (slot components deeper node base') := by
  induction node using Json.ofParts generalizing base base' with
  | null | bool | number | string | array => exact .pure (.unnamed rfl)
  | object fields ih =>
    have part {key base base'} : Lockstep before given Likeness.slot.option
        (slotAt components deeper key fields base) (slotAt components deeper key fields base') :=
      slotAtLockstep fun value found => ih _ (Fields.getMember found) base base'
    cases is : Reference.of? (.object fields) with
    | some reference =>
      unfold slot
      simp only [is]
      intro last p q _ abreast
      refine (namedSlotTogether declared abreast base base' reference).bind ?_
      exact fun _ _ _ _ _ _ abreast alike => .pure abreast ⟨alike, .nil⟩
    | none =>
      by_cases needs : Node.needsEntry (.object fields) = true
      · unfold slot
        simp only [is, needs, ↓reduceIte]
        cases makes : deeper with
        | none => exact .pure (.unnamed (by split <;> rfl))
        | some make => exact hoistLockstep (below make makes _) base base'
      · exact flatSlotLockstep ⟨is, Bool.eq_false_iff.mpr needs⟩ part

theorem propertiesLockstep (owner other : String) (required : List String) (fields : Fields Json) :
    Lockstep before given Likeness.property.list (properties components deeper owner required fields)
      (properties components deeper other required fields) := by
  induction fields with
  | nil => exact .pure .nil
  | cons field rest ih =>
    obtain ⟨name, node⟩ := field
    unfold properties
    refine (slotLockstep declared below node _ _).both (f := fun slot others =>
      (name, Node.property node slot (required.contains name)) :: others) (g := fun slot others =>
      (name, Node.property node slot (required.contains name)) :: others) ih ?_
    exact fun _ slot others => .cons ⟨rfl, slot, rfl⟩ others

variable {name other : String} (partners : Partners before given name other)
include partners

theorem objectLockstep (node : Json) (fields : Fields Json) (required : List String) :
    Lockstep before given Likeness.entry (objectEntry components deeper node name fields required)
      (objectEntry components deeper node other fields required) := by
  unfold objectEntry
  split
  · rename_i values _
    refine (slotLockstep declared below values _ _).map (f := fun values =>
      { Entry.blank name .object with required := required, dataType := some (Slot.map values) })
      (g := fun values =>
        { Entry.blank other .object with required := required, dataType := some (Slot.map values) }) ?_
    exact fun later alike => ⟨partners.grow later, .some (.map alike), .nil, .none, .none, rfl⟩
  · refine (propertiesLockstep declared below name other required _).map (f := fun properties =>
      { Entry.blank name .object with required := required, properties := properties })
      (g := fun properties =>
        { Entry.blank other .object with required := required, properties := properties }) ?_
    exact fun later alike => ⟨partners.grow later, .none, alike, .none, .none, rfl⟩

theorem arrayLockstep (node : Json) :
    Lockstep before given Likeness.entry (arrayEntry components deeper node name)
      (arrayEntry components deeper node other) := by
  unfold arrayEntry
  split
  · rename_i items _
    refine (slotLockstep declared below items _ _).map
      (f := fun slot => { Entry.blank name .array with items := some slot })
      (g := fun slot => { Entry.blank other .array with items := some slot }) ?_
    exact fun later alike => ⟨partners.grow later, .none, .nil, .some alike, .none, rfl⟩
  · exact .pure ⟨partners, .none, .nil, .some (.unnamed rfl), .none, rfl⟩

theorem entryLockstep (node : Json)
    {options options' : Composition.Kind → Build (List String × List Entry)}
    (offers : ∀ {kind members}, Node.composition? node = some (kind, members) →
      Lockstep before given Likeness.name.list (options kind) (options' kind)) :
    Lockstep before given Likeness.entry (entryOf components deeper options node name)
      (entryOf components deeper options' node other) := by
  unfold entryOf
  split
  · intro last p q later abreast
    refine (namedSlotTogether declared abreast name other _).bind ?_
    exact fun _ _ _ _ _ more abreast alike => .pure abreast
      ⟨⟨partners.grow (List.Subset.trans later more), .some alike, .nil, .none, .none, rfl⟩, .nil⟩
  · rename_i members plain composed
    intro last p q later abreast
    refine .bindLift (mergeOutcomes components name other members) fun merged => ?_
    have built := (objectLockstep declared below partners node (merged.absorb node).properties
      (merged.absorb node).required).saying (merged.absorb node).description (node.get? "example")
      (Node.nullable? node)
    exact built last p q later abreast
  · rename_i kind members choice plain composed
    refine (offers composed).map (f := fun names => Node.annotate node
      { Entry.blank name .union with composition := some ⟨kind, names⟩ })
      (g := fun names => Node.annotate node
        { Entry.blank other .union with composition := some ⟨kind, names⟩ }) ?_
    exact fun later alike =>
      ⟨partners.grow later, .none, .nil, .none, .some ⟨rfl, alike⟩, rfl⟩
  · split
    · exact (objectLockstep declared below partners node _ _).saying _ _ _
    · split
      · exact (arrayLockstep declared below partners node).saying _ _ _
      · exact .pure ⟨partners, .some (.unnamed (plainSlotUnnamed node)), .nil, .none, .none, rfl⟩

end

section
variable {components : Fields Json} {deeper : Option Maker} {before : List String}

theorem entryRemade {make : String → Build (Entry × List Entry)}
    (entry : ∀ given name other, Partners before given name other →
      Lockstep before given Likeness.entry (make name) (make other)) :
    Remade before fun name => do
      start name
      let (entry, entries) ← make name
      return entry :: entries := by
  intro given p q name other abreast ready ready' partners
  have abreast : Abreast before given { p with begun := name :: p.begun }
      { q with begun := other :: q.begun } :=
    abreast.opening (List.cons_subset.mpr ⟨ready.given, abreast.leftOpened⟩)
      (List.cons_subset.mpr ⟨ready'.given, abreast.rightOpened⟩)
  unfold Together
  rw [startReady ready, startReady ready']
  refine Together.bind (entry given name other partners given _ _ (List.Subset.refl _) abreast) ?_
  exact fun _ _ _ _ _ _ abreast alike => .pure abreast (.cons alike.1 alike.2)

theorem optionsLockstep {given : List (String × String)} {members : List Json}
    (each : ∀ member ∈ members, Remade before (optionMaker components deeper member))
    (owner other : String) (index : Nat) :
    Lockstep before given Likeness.name.list (optionsFrom components deeper owner index members)
      (optionsFrom components deeper other index members) := by
  induction members generalizing index given with
  | nil => exact .pure .nil
  | cons member rest ih =>
    have ⟨one, others⟩ := List.forall_mem_cons.mp each
    rw [optionsMember, optionsMember]
    intro last p q later abreast
    refine .allocate abreast _ _ fun name name' p' q' ready ready' abreast => ?_
    have partners : Partners before ((name, name') :: last) name name' := .given List.mem_cons_self
    refine (one _ _ _ _ _ abreast ready ready' partners).bind fun _ _ _ _ _ more abreast made => ?_
    refine (ih others (index + 1) _ _ _ (List.Subset.refl _) abreast).bind ?_
    intro names names' final _ _ most abreast alike
    have made := Likeness.entry.list.wider (fun _ _ partners => partners.grow most) made
    exact .pure abreast ⟨.cons (partners.grow (List.Subset.trans more most)) alike.1,
      List.rel_append made alike.2⟩

variable (declared : Fields.keys components ⊆ before)
include declared

theorem entriesRemade (below : DeeperRemade before deeper) (node : Json) :
    Remade before (entriesOf components deeper node) := by
  induction node using Json.ofMembers with
  | other node noObject =>
    cases node with
    | object => cases noObject
    | null | bool | number | string | array =>
      exact entryRemade fun given name other partners =>
        entryLockstep declared below partners _ fun composed => by cases composed
  | object fields ih =>
    refine entryRemade fun given name other partners =>
      entryLockstep declared below partners _ fun composed => ?_
    rw [optionsAtItems, optionsAtItems, Node.compositionItems composed]
    refine optionsLockstep (fun member among => ?_) name other 1
    -- As in building them, the members of the last level come from the smaller node itself.
    cases makes : deeper with
    | none =>
      subst makes
      exact ih _ _ (Node.compositionItems composed) member among
    | some make => exact below make makes member

theorem normalizeRemade (levels : Nat) (node : Json) :
    Remade before (normalize components levels node) := by
  induction levels generalizing node with
  | zero => exact entriesRemade declared (fun _ none => by cases none) node
  | succ levels ih =>
    refine entriesRemade declared (fun make makes => ?_) node
    cases makes
    exact ih

end
end OpenApi.Schema.Build
