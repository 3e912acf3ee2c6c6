import OpenApi.Proofs.Schema.Entries
/-! Entries come after an entry that names them. What is taken out of a node stands behind its entry,
and the entry as it is in the end names it: no part of a build makes entries that its result does not
lead to. -/
namespace OpenApi.Schema

/-- Entries in a row, each of which is named before it comes: in an entry ahead of it, or among the
names that are known from the start. -/
def Descends : List String → List Entry → Prop
  | _, [] => True
  | known, entry :: rest => entry.name ∈ known ∧ Descends (known ++ entry.names) rest

def Headed (name : String) (family : List Entry) : Prop :=
  ∃ head inner, family = head :: inner ∧ head.name = name ∧ Descends head.names inner

section
variable {known wider : List String} {entries later : List Entry} {name : String}

theorem Descends.mono (descends : Descends known entries) (more : known ⊆ wider) :
    Descends wider entries := by
  induction entries generalizing known wider with
  | nil => trivial
  | cons entry rest ih =>
    obtain ⟨named, others⟩ := descends
    refine ⟨more named, ih others ?_⟩
    exact List.append_subset.mpr
      ⟨List.Subset.trans more (List.subset_append_left _ _), List.subset_append_right _ _⟩

theorem Descends.append (first : Descends known entries) (second : Descends known later) :
    Descends known (entries ++ later) := by
  induction entries generalizing known with
  | nil => exact second
  | cons entry rest ih =>
    obtain ⟨named, others⟩ := first
    exact ⟨named, ih others (second.mono (List.subset_append_left _ _))⟩

theorem Headed.descends {family : List Entry} (headed : Headed name family) :
    Descends [name] family := by
  obtain ⟨head, inner, rfl, rfl, descends⟩ := headed
  exact ⟨List.mem_singleton.mpr rfl, descends.mono (List.subset_append_right _ _)⟩

theorem Descends.earlier (descends : Descends known entries) {before after : List Entry}
    {entry : Entry} (split : entries = before ++ entry :: after) :
    entry.name ∈ known ∨ ∃ ahead ∈ before, entry.name ∈ ahead.names := by
  induction before generalizing known entries with
  | nil =>
    subst split
    exact .inl descends.1
  | cons first rest ih =>
    subst split
    rcases ih descends.2 rfl with named | ⟨ahead, among, named⟩
    · rcases List.mem_append.mp named with old | new
      · exact .inl old
      · exact .inr ⟨first, List.mem_cons_self, new⟩
    · exact .inr ⟨ahead, List.mem_cons_of_mem _ among, named⟩

theorem Descends.reaches (descends : Descends known entries) (holds : String → Prop)
    (start : ∀ name ∈ known, holds name)
    (step : ∀ entry ∈ entries, holds entry.name → ∀ name ∈ entry.names, holds name) :
    ∀ entry ∈ entries, holds entry.name := by
  induction entries generalizing known with
  | nil => simp
  | cons entry rest ih =>
    have ⟨own, others⟩ := List.forall_mem_cons.mp step
    have here := start _ descends.1
    refine List.forall_mem_cons.mpr ⟨here, ih descends.2 (fun name among => ?_) others⟩
    exact (List.mem_append.mp among).elim (start name) (own here name)

end

namespace Build

def Bears {α : Type} (m : Build (α × List Entry)) (post : α → List Entry → Prop) : Prop :=
  ∀ p, Meets (fun _ => True) m p fun r _ => post r.1 r.2

def Founds (m : Build (List Entry)) (name : String) : Prop :=
  ∀ p, Meets (fun _ => True) m p fun family _ => Headed name family

def DeeperFounds (deeper : Option Maker) : Prop :=
  ∀ make, deeper = some make → ∀ node name, Founds (make node name) name

namespace Bears
variable {α β γ : Type} {m : Build (α × List Entry)} {k : Build (β × List Entry)}
  {one : α → List Entry → Prop} {other : β → List Entry → Prop}

theorem pure {a : α} (done : one a []) : Bears (pure (a, [])) one := fun _ => .pure done

theorem map {f : α → β} (first : Bears m one) (join : ∀ a entries, one a entries → other (f a) entries) :
    Bears (do let (a, entries) ← m; return (f a, entries)) other := fun p =>
  (first p).bind fun made _ ended => .pure (join made.1 made.2 ended)

theorem both {f : α → β → γ} {last : γ → List Entry → Prop} (first : Bears m one)
    (second : Bears k other)
    (join : ∀ a b entries more, one a entries → other b more → last (f a b) (entries ++ more)) :
    Bears (do let (a, entries) ← m; let (b, more) ← k; return (f a b, entries ++ more)) last := fun p =>
  (first p).bind fun made q ended => (second q).bind fun rest _ followed =>
    .pure (join made.1 rest.1 made.2 rest.2 ended followed)

end Bears

section
variable {components : Fields Json} {deeper : Option Maker}

theorem hoistBears {make : Maker} {node : Json} (founds : ∀ name, Founds (make node name) name)
    (base : String) : Bears (hoist make node base) fun slot entries => Descends slot.names entries := by
  have taken (name : String) (p : Progress) :
      Meets (fun _ => True) (do return (Slot.schema name, ← make node name)) p
        fun r _ => Descends r.1.names r.2 :=
    (founds name p).bind fun family _ headed => .pure headed.descends
  intro p
  unfold hoist
  refine .read ?_
  cases recurs : (findReference? node).isSome with
  | false => exact Meets.bind (allocateMeets base) fun name q _ => taken name q
  | true =>
    cases given : p.recursive.lookup node with
    -- A structure that is met again adds no entry; the one that it has stands where it was made.
    | some name => exact .pure trivial
    | none => exact Meets.bind (allocateMeets base) fun name q _ => taken name _

theorem flatSlotBears {fields : Fields Json} (flat : Flat (.object fields)) (base : String)
    (part : ∀ key base, Bears (slotAt components deeper key fields base)
      fun found entries => Descends (found.getD .any).names entries) :
    Bears (slot components deeper (.object fields) base)
      fun slot entries => Descends slot.names entries := by
  cases isArray : Node.isArray (.object fields) with
  | true =>
    rw [slotArray flat isArray]
    refine (part "items" _).map (f := fun items => Slot.array (items.getD .any)) ?_
    exact fun _ _ descends => descends
  | false =>
    cases isObject : Node.isObject (.object fields) with
    | false =>
      rw [slotPlain flat isArray isObject]
      exact .pure trivial
    | true =>
      cases given : Node.additionalProperties? (.object fields) with
      | none =>
        rw [slotObject flat isArray isObject given]
        exact .pure trivial
      | some values =>
        rw [slotMap flat isArray isObject given]
        refine (part "additionalProperties" _).map
          (f := fun values => Slot.map (values.getD .any)) ?_
        exact fun _ _ descends => descends

theorem slotBears (below : DeeperFounds deeper) (node : Json) (base : String) :
    Bears (slot components deeper node base) fun slot entries => Descends slot.names entries := by
  induction node using Json.ofParts generalizing base with
  | null | bool | number | string | array => exact .pure trivial
  | object fields ih =>
    have part (key base : String) : Bears (slotAt components deeper key fields base)
        fun found entries => Descends (found.getD .any).names entries := by
      rw [slotAtGet]
      cases given : (Json.object fields).get? key with
      | none => exact .pure trivial
      | some value =>
        exact (ih (key, value) (Fields.getMember given) base).map fun _ _ descends => descends
    cases is : Reference.of? (.object fields) with
    | some reference =>
      unfold slot
      simp only [is]
      exact fun p => Meets.bind (namedSlotMeets fun _ => trivial) fun _ _ _ => .pure trivial
    | none =>
      by_cases needs : Node.needsEntry (.object fields) = true
      · unfold slot
        simp only [is, needs, ↓reduceIte]
        cases makes : deeper with
        | none => exact .pure trivial
        | some make => exact hoistBears (below make makes _) base
      · exact flatSlotBears ⟨is, Bool.eq_false_iff.mpr needs⟩ base part

theorem propertiesBear (below : DeeperFounds deeper) (owner : String) (required : List String)
    (declared : Fields Json) : Bears (properties components deeper owner required declared)
      fun given entries => Descends (given.flatMap (·.2.slot.names)) entries := by
  induction declared with
  | nil => exact .pure trivial
  | cons field rest ih =>
    obtain ⟨name, node⟩ := field
    unfold properties
    refine (slotBears below node (propertyName owner name)).both ih (f := fun slot others =>
      (name, Node.property node slot (required.contains name)) :: others) ?_
    intro slot others entries more first later
    exact (first.mono (List.subset_append_left _ _)).append (later.mono (List.subset_append_right _ _))

def Leads (name : String) (entry : Entry) (entries : List Entry) : Prop :=
  entry.name = name ∧ Descends entry.names entries

theorem objectBears (below : DeeperFounds deeper) (node : Json) (name : String)
    (declared : Fields Json) (required : List String) :
    Bears (objectEntry components deeper node name declared required) (Leads name) := by
  unfold objectEntry
  split
  · rename_i values given
    refine (slotBears below values (name ++ "Value")).map (f := fun values =>
      { Entry.blank name .object with required := required, dataType := some (Slot.map values) }) ?_
    intro values entries descends
    refine ⟨rfl, descends.mono ?_⟩
    simp [Entry.names, Entry.blank, Slot.names]
  · refine (propertiesBear below name required _).map (f := fun properties =>
      { Entry.blank name .object with required := required, properties := properties }) ?_
    intro properties entries descends
    refine ⟨rfl, descends.mono ?_⟩
    simp [Entry.names, Entry.blank]

theorem arrayBears (below : DeeperFounds deeper) (node : Json) (name : String) :
    Bears (arrayEntry components deeper node name) (Leads name) := by
  have join (slot : Slot) (entries : List Entry) (descends : Descends slot.names entries) :
      Leads name { Entry.blank name .array with items := some slot } entries := by
    refine ⟨rfl, descends.mono ?_⟩
    simp [Entry.names, Entry.blank]
  unfold arrayEntry
  split
  · rename_i items given
    exact (slotBears below items (name ++ "Item")).map join
  · exact .pure (join .any [] trivial)

theorem entryBears (below : DeeperFounds deeper) {node : Json} (name : String)
    {options : Composition.Kind → Build (List String × List Entry)}
    (offers : ∀ {kind members}, Node.composition? node = some (kind, members) →
      Bears (options kind) Descends) :
    Bears (entryOf components deeper options node name) (Leads name) := by
  unfold entryOf
  split
  · intro p
    exact Meets.bind (namedSlotMeets fun _ => trivial) fun slot q _ => .pure ⟨rfl, trivial⟩
  · rename_i members plain composed
    intro p
    refine Meets.bind (.lift fun _ _ => trivial) fun merged q _ => ?_
    have object : Bears (objectEntry components deeper node name (merged.absorb node).properties
        (merged.absorb node).required) (Leads name) := objectBears below _ _ _ _
    refine object.map (f := fun entry => { Node.annotate node entry with
      description := (merged.absorb node).description }) (fun entry entries leads => ?_) q
    exact (leads : Leads name entry entries)
  · rename_i kind members choice plain composed
    refine (offers composed).map (f := fun names => Node.annotate node
      { Entry.blank name .union with composition := some ⟨kind, names⟩ }) ?_
    intro names entries descends
    refine ⟨rfl, descends.mono ?_⟩
    simp [Entry.names, Node.annotate, Entry.blank]
  · split
    · exact (objectBears below _ _ _ _).map (f := Node.annotate node) fun _ _ leads => leads
    · split
      · exact (arrayBears below _ _).map (f := Node.annotate node) fun _ _ leads => leads
      · exact .pure ⟨rfl, trivial⟩

theorem entryFounds {m : Build (Entry × List Entry)} {name : String} (bears : Bears m (Leads name)) :
    Founds (do start name; let (entry, entries) ← m; return entry :: entries) name := by
  intro p
  refine Meets.bind (startMeets (fun _ => trivial) fun _ => trivial) fun _ q _ => ?_
  refine Meets.bind (bears q) fun made r leads => ?_
  exact .pure ⟨made.1, made.2, rfl, leads.1, leads.2⟩

theorem optionsBear {owner : String} {index : Nat} {members : List Json}
    (each : ∀ member ∈ members, ∀ name, Founds (optionMaker components deeper member name) name) :
    Bears (optionsFrom components deeper owner index members) Descends := by
  induction members generalizing index with
  | nil => exact .pure trivial
  | cons member rest ih =>
    have ⟨one, others⟩ := List.forall_mem_cons.mp each
    rw [optionsMember]
    intro p
    refine Meets.bind (allocateMeets _) fun name q _ => ?_
    refine Meets.bind (one name q) fun family r headed => ?_
    refine Meets.bind (ih others r) fun made s descends => ?_
    have first : Descends (name :: made.1) family := headed.descends.mono (by simp)
    exact .pure (first.append (descends.mono (List.subset_cons_self _ _)))

theorem entriesFound (below : DeeperFounds deeper) (node : Json) (name : String) :
    Founds (entriesOf components deeper node name) name := by
  induction node using Json.ofMembers generalizing name with
  | other node noObject =>
    cases node with
    | object => cases noObject
    | null | bool | number | string | array =>
      exact entryFounds (entryBears below name fun composed => by cases composed)
  | object fields ih =>
    unfold entriesOf
    refine entryFounds (entryBears below name fun composed => ?_)
    rw [optionsAtItems, Node.compositionItems composed]
    refine optionsBear fun member among name => ?_
    -- The members of the last level are made there too, and only the node gets smaller.
    cases makes : deeper with
    | none =>
      subst makes
      exact ih _ _ (Node.compositionItems composed) member among name
    | some make => exact below make makes member name

theorem normalizeFounds (components : Fields Json) (levels : Nat) (node : Json) (name : String) :
    Founds (normalize components levels node name) name := by
  induction levels generalizing node name with
  | zero => exact entriesFound (fun _ none => by cases none) node name
  | succ levels ih =>
    refine entriesFound (fun make makes => ?_) node name
    cases makes
    exact ih

end
end Build
end OpenApi.Schema
